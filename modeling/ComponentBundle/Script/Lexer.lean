import ComponentBundle.Json.Reader
import ComponentBundle.Script.Token
import ComponentBundle.Text.Blank
import ComponentBundle.Text.Identifier
import ComponentBundle.Text.Quoted

/-!
# Reading tokens

A token is read from the characters in front of the parser when it asks for one. What cannot be read
is a token too, beside a failure. Some characters mean different things in different places; the
parser then reads the token again from its first character.
-/
namespace ComponentBundle.Script

structure LexFailure where
  message : String
  offset : Nat

/-- A token, the characters behind it, and what is wrong with it. -/
structure Lexed where
  token : Token
  rest : Text
  failures : List LexFailure := []

namespace Lexer

def isLineEnd (c : Char) : Bool :=
  c == '\n' || c == '\r' || c.toNat == 0x2028 || c.toNat == 0x2029

def isSpace (c : Char) : Bool :=
  c == ' ' || c == '\t' || (!isLineEnd c && c.toNat != 0x85 && Text.isBlank c) || c.toNat == 0xFEFF

def comment? : Text → Option (Text × Text)
  | [] => none
  | '*' :: '/' :: rest => some (['*', '/'], rest)
  | c :: rest => (comment? rest).map fun (inner, rest) => (c :: inner, rest)

structure RawComment where
  text : Text
  isLine : Bool
  afterNewline : Bool
  beforeNewline : Bool

/-- What stands between two tokens: comments in reverse, how many of them belong to what is in front,
and whether a line has ended. -/
structure Gap where
  comments : List RawComment := []
  settled : Nat := 0
  /-- Whether a line has ended since the last token, as far as comments are concerned. -/
  sawNewline : Bool := false
  newline : Bool := false

def Gap.endLine (gap : Gap) : Gap :=
  if gap.settled < gap.comments.length then
    { gap with
      comments := match gap.comments with
        | last :: rest => { last with beforeNewline := true } :: rest
        | [] => []
      settled := if gap.sawNewline then gap.settled else gap.comments.length
      sawNewline := true
      newline := true }
  else { gap with sawNewline := true, newline := true }

/-- Notes a comment; `keeps` tells that the last token leaves comments to the next one. -/
def Gap.add (gap : Gap) (keeps : Bool) (text : Text) (isLine : Bool) : Gap :=
  let found : RawComment := ⟨text, isLine, gap.sawNewline, isLine⟩
  if isLine then
    { gap with
      comments := found :: gap.comments
      settled := if !gap.sawNewline && !keeps then gap.comments.length + 1 else gap.settled
      sawNewline := true
      newline := true }
  else
    { gap with
      comments := found :: gap.comments
      newline := gap.newline || text.any isLineEnd }

/-- Reads blanks and comments, at most `n` of them. A comment that does not end is left. -/
def gapUpTo (keeps : Bool) : Nat → Gap → Text → Gap × Text
  | 0, gap, text => (gap, text)
  | _ + 1, gap, [] => (gap, [])
  | n + 1, gap, c :: rest =>
    if isLineEnd c then gapUpTo keeps n gap.endLine rest
    else if isSpace c then gapUpTo keeps n gap rest
    else if c = '/' then
      match rest with
      | '/' :: line =>
        let text := line.takeWhile (!isLineEnd ·)
        gapUpTo keeps n (gap.add keeps ('/' :: '/' :: text) true) (line.dropWhile (!isLineEnd ·))
      | '*' :: inner =>
        match comment? inner with
        | some (text, after) => gapUpTo keeps n (gap.add keeps ('/' :: '*' :: text) false) after
        | none => (gap, c :: rest)
      | _ => (gap, c :: rest)
    else (gap, c :: rest)

def isNoteOf (word : String) (text : Text) : Bool :=
  match (text.drop 2).dropWhile Text.isBlank with
  | mark :: inner => (mark == '@' || mark == '#') && word.toList.isPrefixOf inner
  | [] => false

def isPureNote (text : Text) : Bool := isNoteOf "__PURE__" text

/-- Whether a comment tells a tool that calls of the function behind it have no effect. -/
def isQuietNote (text : Text) : Bool := isNoteOf "__NO_SIDE_EFFECTS__" text

def isToolComment (text : Text) : Bool := isPureNote text || isQuietNote text

def Gap.leading (gap : Gap) (token : Nat) : List Comment :=
  ((gap.comments.reverse.drop gap.settled).filter fun found => !isToolComment found.text).map
    fun found =>
      ⟨String.ofList found.text, found.isLine, found.afterNewline, found.beforeNewline, token⟩

/-- The marks of more than one character, longer ones in front of what they begin with. Marks that
begin with `>` are put together by the parser. -/
def longMarks : List String :=
  ["...", "=>", "===", "==", "!==", "!=", "<<=", "<<", "<=", "++", "+=", "--", "-=", "**=", "**",
    "*=", "/=", "%=", "&&=", "&&", "&=", "||=", "||", "|=", "^=", "??=", "??", "?."]

def shortMarks : Text :=
  ['{', '}', '(', ')', '[', ']', ';', ',', '<', '>', '=', '+', '-', '*', '/', '%', '&', '|', '^',
    '!', '~', '?', ':', '.', '@']

def mark? (text : Text) : Option String :=
  match longMarks.find? fun mark => mark.toList.isPrefixOf text with
  | some mark =>
    if mark == "?." && (text.drop 2).head?.any Char.isDigit then some "?" else some mark
  | none =>
    match text with
    | c :: _ => if shortMarks.contains c then some (String.ofList [c]) else none
    | [] => none

/-- Reads an escape behind `\u`: four digits, or digits between braces. -/
def unicodeEscape? : Text → Option (Nat × Text)
  | '\x7b' :: rest =>
    let digits := rest.takeWhile fun c => (Json.Reader.hexValue? c).isSome
    let value := (digits.filterMap Json.Reader.hexValue?).foldl (fun n d => n * 16 + d) 0
    match rest.drop digits.length with
    | '\x7d' :: after => if digits = [] ∨ 0x10FFFF < value then none else some (value, after)
    | _ => none
  | a :: b :: c :: d :: rest => do
    let a ← Json.Reader.hexValue? a
    let b ← Json.Reader.hexValue? b
    let c ← Json.Reader.hexValue? c
    let d ← Json.Reader.hexValue? d
    some (((a * 16 + b) * 16 + c) * 16 + d, rest)
  | _ => none

/-- Reads the characters of a name; they are given in reverse, with whether an escape is among
them. -/
def nameUpTo (pos : Nat) : (n : Nat) → (found : Text) → (escaped : Bool) → Text →
    Text × Bool × Text × List LexFailure
  | 0, found, escaped, text => (found, escaped, text, [])
  | _ + 1, found, escaped, [] => (found, escaped, [], [])
  | n + 1, found, escaped, c :: rest =>
    if c = '\\' then
      match rest with
      | 'u' :: more =>
        match unicodeEscape? more with
        | some (value, after) =>
          let c := Char.ofNat value
          if (if found = [] then Text.isIdentifierStart c else Text.isIdentifierPart c) then
            nameUpTo (pos + (rest.length - after.length) + 1) n (c :: found) true after
          else (found, true, after, [⟨"Invalid Unicode escape sequence", pos + 1⟩])
        | none => (found, true, more, [⟨"Invalid Unicode escape sequence", pos + 1⟩])
      | _ => (found, true, rest.drop 1, [⟨"Invalid Unicode escape sequence", pos + 1⟩])
    else if Text.isIdentifierPart c then nameUpTo (pos + c.utf8Size) n (c :: found) escaped rest
    else (found, escaped, c :: rest, [])

/-- What is read as a name has the characters of one, also where they are escaped. -/
theorem nameUpTo_isNameCharacter (pos n : Nat) (found : Text) (escaped : Bool) (text : Text)
    (hfound : ∀ c ∈ found, isNameCharacter c) :
    ∀ c ∈ (nameUpTo pos n found escaped text).1, isNameCharacter c := by
  fun_induction nameUpTo pos n found escaped text with
  | case3 pos n found escaped more value after hvalue c hc ih =>
    refine ih (List.forall_mem_cons.mpr ⟨?_, hfound⟩)
    split at hc <;> simp [isNameCharacter, hc]
  | case7 pos n found escaped c rest hescape hc ih =>
    exact ih (List.forall_mem_cons.mpr ⟨by simp [isNameCharacter, hc], hfound⟩)
  | _ => exact hfound

/-- Reads an escape of a string behind its backslash, which stands at `pos`: what it denotes and what
follows. Half of a pair of units is kept as such. -/
def stringEscape (pos : Nat) : Text → Text × Text × List LexFailure
  | [] => ([], [], [])
  | '\r' :: '\n' :: rest => ([], rest, [])
  | c :: rest =>
    if isLineEnd c then ([], rest, [])
    else if c = 'n' then (['\n'], rest, [])
    else if c = 't' then (['\t'], rest, [])
    else if c = 'r' then (['\r'], rest, [])
    else if c = 'b' then (['\x08'], rest, [])
    else if c = 'v' then (['\x0b'], rest, [])
    else if c = 'f' then (['\x0c'], rest, [])
    else if c = 'x' then
      match rest with
      | a :: b :: after =>
        match Json.Reader.hexValue? a, Json.Reader.hexValue? b with
        | some x, some y => ([Char.ofNat (x * 16 + y)], after, [])
        | _, _ => ([], rest, [⟨"Invalid escape sequence", pos⟩])
      | _ => ([], rest, [⟨"Invalid escape sequence", pos⟩])
    else if c = 'u' then
      match unicodeEscape? rest with
      | some (lead, after) =>
        if 0xD800 ≤ lead ∧ lead ≤ 0xDBFF then
          match after with
          | '\\' :: 'u' :: more =>
            match unicodeEscape? more with
            | some (trail, behind) =>
              if 0xDC00 ≤ trail ∧ trail ≤ 0xDFFF then
                ([Char.ofNat ((lead - 0xD800) * 0x400 + (trail - 0xDC00) + 0x10000)], behind, [])
              else (Text.keptUnit lead, after, [])
            | none => (Text.keptUnit lead, after, [])
          | _ => (Text.keptUnit lead, after, [])
        else if (0xDC00 ≤ lead ∧ lead ≤ 0xDFFF) ∨ lead = 0xFFFD then (Text.keptUnit lead, after, [])
        else ([Char.ofNat lead], after, [])
      | none => ([], rest, [⟨"Invalid escape sequence", pos⟩])
    else if c = '0' ∧ !(rest.head?.any Char.isDigit) then (['\x00'], rest, [])
    else if '0' ≤ c ∧ c ≤ '7' then
      let limit := if c ≤ '3' then 2 else 1
      let more := (rest.take limit).takeWhile fun d => '0' ≤ d && d ≤ '7'
      let value := more.foldl (fun n d => n * 8 + (d.toNat - 48)) (c.toNat - 48)
      ([Char.ofNat value], rest.drop more.length, [])
    else ([c], rest, [])

/-- Reads a string behind its opening quote: what it denotes in reverse, whether something in it is
escaped, and what follows, if it ends on its line. -/
def stringUpTo (quote : Char) (pos : Nat) : (n : Nat) → (found : Text) → (escaped : Bool) → Text →
    Option (Text × Bool × Text) × List LexFailure
  | 0, _, _, _ => (none, [])
  | _ + 1, _, _, [] => (none, [])
  | n + 1, found, escaped, c :: rest =>
    if c = quote then (some (found, escaped, rest), [])
    else if c = '\\' then
      let (denoted, after, failures) := stringEscape pos rest
      let (result, more) :=
        stringUpTo quote (pos + 1 + (Text.byteLength rest - Text.byteLength after)) n
          (denoted.reverse ++ found) true after
      (result, failures ++ more)
    else if c = '\n' ∨ c = '\r' then (none, [])
    else if c = '\uFFFD' then
      stringUpTo quote (pos + c.utf8Size) n ((Text.keptUnit 0xFFFD).reverse ++ found) escaped rest
    else stringUpTo quote (pos + c.utf8Size) n (c :: found) escaped rest

/-- Reads a part of a template up to its end or its next value: the part as it is written, in
reverse, whether it is the last one, and what follows. -/
def templateUpTo : (n : Nat) → (found : Text) → Text → Option (Text × Bool × Text)
  | 0, _, _ => none
  | _ + 1, _, [] => none
  | n + 1, found, c :: rest =>
    if c = '`' then some (found, true, rest)
    else if c = '\\' then
      match rest with
      | [] => none
      | d :: more => templateUpTo n (d :: c :: found) more
    else if c = '$' ∧ rest.head? = some '\x7b' then some (found, false, rest.drop 1)
    else if c = '\r' then
      templateUpTo n ('\n' :: found) (if rest.head? = some '\n' then rest.drop 1 else rest)
    else templateUpTo n (c :: found) rest

/-- Digits without the underscores between them, and what follows. -/
structure Digits where
  found : Text := []
  rest : Text
  /-- Whether a digit has to stand where `rest` begins. -/
  isBroken : Bool := false

def moreDigits (isDigit : Char → Bool) : Text → Digits
  | [] => { rest := [] }
  | ['_'] => { rest := [], isBroken := true }
  | '_' :: c :: rest =>
    if isDigit c then
      let more := moreDigits isDigit rest
      { more with found := c :: more.found }
    else { rest := c :: rest, isBroken := true }
  | c :: rest =>
    if isDigit c then
      let more := moreDigits isDigit rest
      { more with found := c :: more.found }
    else { rest := c :: rest }

def digits (isDigit : Char → Bool) (text : Text) : Digits :=
  if text.head?.any isDigit then moreDigits isDigit text else { rest := text, isBroken := true }

def isOctal (c : Char) : Bool := '0' ≤ c && c ≤ '7'

/-- A number that has been read, and what follows. -/
structure Numeral where
  value : Decimal
  isBig : Bool := false
  rest : Text
  isBroken : Bool := false
  isOpen : Bool := false

def radixNumber (base : Nat) (isDigit : Char → Bool) (text : Text) : Numeral :=
  let found := digits isDigit text
  let value := (found.found.filterMap Json.Reader.hexValue?).foldl (fun n d => n * base + d) 0
  match found.rest, found.isBroken with
  | 'n' :: after, false => { value := ⟨value, 0⟩, isBig := true, rest := after }
  | rest, isBroken => { value := ⟨value, 0⟩, rest, isBroken }

/-- Reads the power of ten behind its letter; the number in front of it has the digits of `value`,
`places` of them behind the point. -/
def scaled (value places : Nat) (text : Text) : Numeral :=
  let negative := text.head? = some '-'
  let found := digits Char.isDigit
    (if negative ∨ text.head? = some '+' then text.drop 1 else text)
  let power : Int := Json.Reader.natOfDigits found.found
  { value := ⟨value, (if negative then -power else power) - places⟩
    rest := found.rest, isBroken := found.isBroken }

def fraction (front text : Text) : Numeral :=
  let places := if text.head?.any Char.isDigit then digits Char.isDigit text else { rest := text }
  let value := Json.Reader.natOfDigits (front ++ places.found)
  match places.rest, places.isBroken with
  | 'e' :: rest, false | 'E' :: rest, false => scaled value places.found.length rest
  | rest, isBroken => { value := ⟨value, -places.found.length⟩, rest, isBroken }

/-- Reads a number that begins with a zero and another digit. It has the base eight if all of its
digits can be to that base, and is never grouped by underscores. -/
def zeroNumber (text : Text) : Numeral :=
  let front := text.takeWhile Char.isDigit
  let rest := text.drop front.length
  if front.all isOctal then
    { value := ⟨front.foldl (fun n d => n * 8 + (d.toNat - 48)) 0, 0⟩, rest }
  else
    match rest with
    | '.' :: after => fraction front after
    | 'e' :: after => { scaled (Json.Reader.natOfDigits front) 0 after with isOpen := true }
    | _ => { value := ⟨Json.Reader.natOfDigits front, 0⟩, rest }

/-- Reads a number that does not begin with a zero, or only with the one in front of its point. -/
def plainNumber (text : Text) : Numeral :=
  let front : Digits := if text.head? = some '.' then { rest := text } else digits Char.isDigit text
  let value := Json.Reader.natOfDigits front.found
  match front.rest, front.isBroken with
  | '.' :: rest, false => fraction front.found rest
  | 'n' :: rest, false => { value := ⟨value, 0⟩, isBig := true, rest }
  | 'e' :: rest, false | 'E' :: rest, false => scaled value 0 rest
  | rest, isBroken => { value := ⟨value, 0⟩, rest, isBroken }

def numeral (text : Text) : Numeral :=
  let isHex (c : Char) : Bool := (Json.Reader.hexValue? c).isSome
  let isBinary (c : Char) : Bool := c == '0' || c == '1'
  match text with
  | '0' :: 'x' :: rest | '0' :: 'X' :: rest => radixNumber 16 isHex rest
  | '0' :: 'o' :: rest | '0' :: 'O' :: rest => radixNumber 8 isOctal rest
  | '0' :: 'b' :: rest | '0' :: 'B' :: rest => radixNumber 2 isBinary rest
  | '0' :: 'e' :: rest | '0' :: 'E' :: rest => { scaled 0 0 rest with isOpen := true }
  | '0' :: '_' :: rest => { value := ⟨0, 0⟩, rest := '_' :: rest }
  | '0' :: c :: _ => if c.isDigit then zeroNumber text else plainNumber text
  | _ => plainNumber text

/-- A token from the characters of `text` up to those of `rest`. -/
def make (kind : TokenKind) (value : String) (newline : Bool) (pos : Nat) (text rest : Text)
    (failures : List LexFailure) (isPlain : kind = .word → IsPlain value := by nofun) : Lexed :=
  { token := {
      kind, text := value, start := pos, stop := pos + (text.byteLength - rest.byteLength), newline
      isPlain }
    rest
    failures }

def refuse (message : String) (offset : Nat) (newline : Bool) (pos : Nat) (text rest : Text) :
    Lexed :=
  make .unknown "" newline pos text rest [⟨message, offset⟩]

def mark (value : String) (newline : Bool) (pos : Nat) (text : Text) : Lexed :=
  make .mark value newline pos text (text.drop value.length) []

def afterLine (text : Text) : Text := text.dropWhile fun c => c != '\n' && c != '\r'

/-- Reads a template or a part of one behind the mark in front of it, which begins `text`. -/
def template (newline : Bool) (pos : Nat) (text : Text) : Lexed :=
  match templateUpTo text.length [] (text.drop 1) with
  | some (part, isWhole, rest) =>
    make (.template isWhole) (String.ofList part.reverse) newline pos text rest []
  | none => refuse "Unterminated string" pos newline pos text []

def misplaced (text : Text) : String :=
  match text with
  | [] => "Unexpected end of file"
  | c :: _ => "Invalid Character `" ++ String.ofList [c] ++ "`"

def number (newline : Bool) (pos : Nat) (text : Text) : Lexed :=
  let found := numeral text
  let lexed := make (if found.isBig then .bigint else .number found.value)
    (String.ofList (text.take (text.length - found.rest.length))) newline pos text found.rest []
    (by split <;> nofun)
  let after := found.rest.dropWhile Text.isIdentifierPart
  if found.isBroken then
    refuse (misplaced found.rest) lexed.token.stop newline pos text after
  else if !found.isOpen && found.rest.head?.any fun c => Text.isIdentifierStart c || c.isDigit then
    refuse "Invalid characters after number" lexed.token.stop newline pos text after
  else lexed

def word (newline : Bool) (pos : Nat) (text : Text) : Lexed :=
  match hfound : nameUpTo pos text.length [] false text with
  | (found, escaped, rest, failures) =>
    let lexed := make (if failures.isEmpty then .word else .unknown) (String.ofList found.reverse)
      newline pos text rest failures fun _ c hc =>
        nameUpTo_isNameCharacter pos text.length [] false text nofun c (by simpa [hfound] using hc)
    { lexed with token := { lexed.token with escaped } }

def token (newline : Bool) (pos : Nat) (text : Text) : Lexed :=
  match text with
  | [] => make .finish "" newline pos [] [] []
  | c :: rest =>
    if Text.isIdentifierStart c || c == '\\' then word newline pos text
    else if c.isDigit || (c == '.' && rest.head?.any Char.isDigit) then number newline pos text
    else if c = '"' ∨ c = '\'' then
      match stringUpTo c (pos + 1) (rest.length + 1) [] false rest with
      | (some (found, escaped, after), failures) =>
        let lexed := make (if failures.isEmpty then .string else .unknown)
          (String.ofList found.reverse) newline pos text after failures (by split <;> nofun)
        { lexed with token := { lexed.token with escaped } }
      | (none, failures) =>
        let lexed := refuse "Unterminated string" pos newline pos text (afterLine rest)
        { lexed with failures := failures ++ lexed.failures }
    else if c = '`' then template newline pos text
    else if c = '#' then
      match rest with
      | d :: _ =>
        if Text.isIdentifierStart d || d == '\\' then
          let lexed := word newline (pos + 1) rest
          { lexed with token := { lexed.token with
              kind := if lexed.failures.isEmpty then .hidden else .unknown
              start := pos
              isPlain := by split <;> nofun } }
        else
          refuse (misplaced [d]) (pos + 1) newline pos text (rest.drop 1)
      | [] => refuse (misplaced []) (pos + 1) newline pos text []
    else if c = '/' ∧ rest.head? = some '*' then
      refuse "Unterminated multiline comment" pos newline pos text []
    else
      match mark? text with
      | some value => mark value newline pos text
      | none =>
        refuse (misplaced [c]) pos newline pos text rest

/-- Whether a part of a template, as it is written, holds an escape that denotes nothing. -/
def hasBadEscape : Text → Bool
  | '\\' :: c :: rest =>
    let isBad :=
      if c = 'x' then ((rest.take 2).filterMap Json.Reader.hexValue?).length < 2
      else if c = 'u' then (unicodeEscape? rest).isNone
      else if c = '0' then rest.head?.any Char.isDigit
      else c.isDigit
    isBad || hasBadEscape rest
  | _ :: rest => hasBadEscape rest
  | [] => false

def regexFlags : Text := "dgimsuvy".toList

/-- What is wrong with each of the flags of a regular expression, which begin at `pos`; `seen` stand
in front of them. -/
def eachFlagFailures (seen : Text) (pos : Nat) : Text → List LexFailure
  | [] => []
  | c :: rest =>
    if !regexFlags.contains c then
      ⟨"Unexpected flag " ++ String.ofList [c] ++ " in regular expression literal", pos⟩ ::
        eachFlagFailures seen (pos + 1) rest
    else if seen.contains c then
      ⟨"Flag " ++ String.ofList [c] ++ " is mentioned twice in regular expression literal", pos⟩ ::
        eachFlagFailures seen (pos + 1) rest
    else eachFlagFailures (c :: seen) (pos + 1) rest

/-- What is wrong with the flags of a regular expression, which begin at `pos`. -/
def flagFailures (pos : Nat) (flags : Text) : List LexFailure :=
  eachFlagFailures [] pos flags ++
    if flags.contains 'u' && flags.contains 'v' then
      [⟨"The 'u' and 'v' regular expression flags cannot be enabled at the same time", pos⟩]
    else []

/-- Reads a regular expression behind its first slash: its pattern in reverse and what follows the
last slash. -/
def regexUpTo : (n : Nat) → (inClass : Bool) → (found : Text) → Text → Option (Text × Text)
  | 0, _, _, _ => none
  | _ + 1, _, _, [] => none
  | n + 1, inClass, found, c :: rest =>
    if isLineEnd c then none
    else if c = '\\' then
      match rest with
      | [] => none
      | d :: more => if isLineEnd d then none else regexUpTo n inClass (d :: c :: found) more
    else if c = '/' ∧ !inClass then some (found, rest)
    else if c = '[' then regexUpTo n true (c :: found) rest
    else if c = ']' then regexUpTo n false (c :: found) rest
    else regexUpTo n inClass (c :: found) rest

end Lexer

end ComponentBundle.Script
