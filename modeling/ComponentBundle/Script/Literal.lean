import ComponentBundle.Number.Binary
import ComponentBundle.Text.Quoted
import ComponentBundle.Text.Word

/-!
# Literals as they are printed

Strings stand in double quotes, and numbers are written with as few characters as the rules below
find.
-/
namespace ComponentBundle.Script.Literal

def endsScript (text : Text) : Bool := (Text.dropPrefixFold? "/script".toList text).isSome

/-- A character of a string in double quotes; `rest` is what follows it. -/
def escapeString (c : Char) (rest : Text) : Text :=
  if c = '"' then ['\\', '"']
  else if c = '\\' then ['\\', '\\']
  else if c = '\n' then ['\\', 'n']
  else if c = '\r' then ['\\', 'r']
  else if c.toNat = 0 then
    if rest.head?.any Char.isDigit then "\\x00".toList else ['\\', '0']
  else if c.toNat = 7 then "\\x07".toList
  else if c.toNat = 8 then ['\\', 'b']
  else if c.toNat = 11 then ['\\', 'v']
  else if c.toNat = 12 then ['\\', 'f']
  else if c.toNat = 0x1B then "\\x1B".toList
  else if c.toNat = 0xA0 then "\\xA0".toList
  else if c.toNat = 0x2028 then "\\u2028".toList
  else if c.toNat = 0x2029 then "\\u2029".toList
  else if c.toNat = 0xFEFF then "\\uFEFF".toList
  else if c = '<' ∧ endsScript rest then ['<', '\\']
  else [c]

def escapedString : Text → Text
  | [] => []
  | '\uFFFD' :: a :: b :: c :: d :: rest =>
    if [a, b, c, d] = "fffd".toList then '\uFFFD' :: escapedString rest
    else '\\' :: 'u' :: escapedString (a :: b :: c :: d :: rest)
  | c :: rest => escapeString c rest ++ escapedString rest

def string (text : String) : String :=
  String.ofList ('"' :: escapedString text.toList ++ ['"'])

/-- A part of a template, where only the end of a page's script cannot stand as it is. -/
def escapedTemplate : Text → Text
  | [] => []
  | '<' :: rest => if endsScript rest then '<' :: '\\' :: escapedTemplate rest
    else '<' :: escapedTemplate rest
  | c :: rest => c :: escapedTemplate rest

def templatePart (text : String) : String := String.ofList (escapedTemplate text.toList)

/-- A directive, which is not escaped. The first quote in it decides which quotes it stands in. -/
def directive (text : String) : String :=
  let quote := if text.toList.find? (fun c => c = '"' || c = '\'') = some '"' then "'" else "\""
  quote ++ text ++ quote

/-- A number in positional notation between one millionth and the twenty-first power of ten, and in
scientific notation outside. -/
def plainNumber (d : Decimal) : Text :=
  let count : Int := d.digitText.length
  let point := count + d.exponent
  if d.digits = 0 then ['0']
  else if -6 < point ∧ point ≤ 21 then d.positional
  else d.scientific true

/-- Digits to the base sixteen, at most `n` of them. -/
def hexDigits : (n : Nat) → Nat → Text
  | 0, _ => []
  | n + 1, value =>
    (if value < 16 then [] else hexDigits n (value / 16)) ++ [Text.hexDigit (value % 16)]

/-- Whether the text ends with zeros that an exponent can stand for: the text without them and their
number. -/
def trailingZeros (text : Text) : Text × Nat :=
  let base := (text.reverse.dropWhile (· = '0')).reverse
  (base, text.length - base.length)

def shorter (first second : Text) : Text := if second.length < first.length then second else first

def withNegativeExponent (text : Text) : Text :=
  match text with
  | '.' :: '0' :: rest =>
    let digits : Text := rest.dropWhile (· = '0')
    shorter text (digits ++ 'e' :: '-' :: (toString (text.length - 1)).toList)
  | _ => text

def withExponent (text : Text) : Text :=
  let (base, zeros) := trailingZeros text
  if zeros = 0 ∨ base = [] then text else shorter text (base ++ 'e' :: (toString zeros).toList)

def withoutPoint (text : Text) : Text :=
  let (front, rest) := text.span (· ≠ '.')
  let (places, power) := (rest.drop 1).span (· ≠ 'e')
  match rest, (String.ofList (power.drop 1)).toInt? with
  | _ :: _, some power => shorter text (front ++ places ++ 'e' :: (toString (power - places.length)).toList)
  | _, _ => text

def number (value : Decimal) : String :=
  match Binary.ofDecimal? value with
  | none => "Infinity"
  | some binary =>
    let text := plainNumber binary.shortest
    match binary.toNat? with
    | some whole =>
      if whole < 1000 then String.ofList text
      else
        let text := text.filter (· ≠ '+')
        let hex := '0' :: 'x' :: hexDigits 40 whole
        if hex.length < text.length then String.ofList hex
        else String.ofList (withoutPoint (withExponent text))
    | none =>
      let text := match text with
        | '0' :: rest => rest
        | text => text
      String.ofList (withoutPoint (withNegativeExponent text))

end ComponentBundle.Script.Literal
