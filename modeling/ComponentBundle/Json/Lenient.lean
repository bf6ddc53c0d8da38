import ComponentBundle.Json.Reader
import ComponentBundle.Text.Combining
import ComponentBundle.Text.Identifier
import ComponentBundle.Text.Mark
import ComponentBundle.Text.Blank

/-!
# Lenient JSON

The dialect of configuration files: comments, trailing commas, keys without quotes, strings between
either quote and more forms of numbers. Only whether a text is read matters, not where it fails.
-/
namespace ComponentBundle.Json.Lenient

/-- A step that reads a value off a text or fails. -/
abbrev Step (α : Type) := Text → Option (α × Text)

def isLineEnd (c : Char) : Bool :=
  c == '\n' || c == '\r' || c.toNat == 0x2028 || c.toNat == 0x2029

def isSpace (c : Char) : Bool :=
  (Text.isBlank c && c.toNat != 0x85) || c.toNat == 0xFEFF

def afterComment? : Text → Option Text
  | [] => none
  | '*' :: '/' :: rest => some rest
  | _ :: rest => afterComment? rest

/-- The text behind blanks and comments, at most `n` of them. A comment that does not end is left. -/
def skipUpTo : Nat → Text → Text
  | 0, text => text
  | _ + 1, [] => []
  | n + 1, c :: rest =>
    if isSpace c then skipUpTo n rest
    else if c = '/' then
      match rest with
      | '/' :: line => skipUpTo n (line.dropWhile (!isLineEnd ·))
      | '*' :: comment =>
        match afterComment? comment with
        | some after => skipUpTo n after
        | none => c :: rest
      | _ => c :: rest
    else c :: rest

def skipBlanks (text : Text) : Text := skipUpTo text.length text

def hexDigits? : Nat → Nat → Step Nat
  | 0, found, text => some (found, text)
  | n + 1, found, c :: rest =>
    (Reader.hexValue? c).bind fun value => hexDigits? n (found * 16 + value) rest
  | _ + 1, _, [] => none

/-- Reads what follows `\u`; a character may take two escapes. -/
def unicodeEscape? : Step Char := fun text => do
  let (lead, rest) ← hexDigits? 4 0 text
  if 0xD800 ≤ lead ∧ lead ≤ 0xDBFF then
    match rest with
    | '\\' :: 'u' :: more =>
      let (trail, rest) ← hexDigits? 4 0 more
      if 0xDC00 ≤ trail ∧ trail ≤ 0xDFFF then
        some (Char.ofNat ((lead - 0xD800) * 0x400 + (trail - 0xDC00) + 0x10000), rest)
      else none
    | _ => none
  else if 0xDC00 ≤ lead ∧ lead ≤ 0xDFFF then none
  else some (Char.ofNat lead, rest)

def escape? : Step Text
  | [] => none
  | '\r' :: '\n' :: rest => some ([], rest)
  | c :: rest =>
    if isLineEnd c then some ([], rest)
    else if c = 'u' then (unicodeEscape? rest).map fun (c, rest) => ([c], rest)
    else if c = 'x' then (hexDigits? 2 0 rest).map fun (n, rest) => ([Char.ofNat n], rest)
    else if c = '0' then some (['\x00'], rest)
    else if c.isDigit then none
    else if c = 'b' then some (['\x08'], rest)
    else if c = 'f' then some (['\x0c'], rest)
    else if c = 'n' then some (['\n'], rest)
    else if c = 'r' then some (['\r'], rest)
    else if c = 't' then some (['\t'], rest)
    else if c = 'v' then some (['\x0b'], rest)
    else some ([c], rest)

def stringUpTo (quote : Char) : Nat → Step Text
  | 0, _ => none
  | _ + 1, [] => none
  | n + 1, c :: rest =>
    if c = quote then some ([], rest)
    else if c = '\\' then do
      let (first, rest) ← escape? rest
      let (more, rest) ← stringUpTo quote n rest
      some (first ++ more, rest)
    else if isLineEnd c then none
    else (stringUpTo quote n rest).map fun (more, rest) => (c :: more, rest)

/-- Whether a key without quotes may begin with the character: a letter, a letter number, a dollar
sign or an underscore. -/
def isKeyStart (c : Char) : Bool :=
  let n := c.toNat
  let isOtherStart := n == 0x1885 || n == 0x1886 || n == 0x2118 || n == 0x212E || n == 0x309B ||
    n == 0x309C
  n == 0x2E2F || (Text.isIdentifierStart c && !isOtherStart)

/-- Whether a key without quotes may go on with the character: also with a mark, a diacritic, a digit,
a connector or a joiner. -/
def isKeyPart (c : Char) : Bool :=
  let n := c.toNat
  isKeyStart c || Text.combining.contains c || c.isDigit || Text.decimalDigit.contains c ||
    n == 0x200C || n == 0x200D || n == 0x203F || n == 0x2040 || n == 0x2054 || n == 0xFE33 ||
    n == 0xFE34 || (0xFE4D ≤ n && n ≤ 0xFE4F) || n == 0xFF3F

def identifierUpTo : Nat → (first : Bool) → Step Text
  | 0, _, text => some ([], text)
  | _ + 1, _, [] => some ([], [])
  | n + 1, first, c :: rest =>
    if c = '\\' then
      match rest with
      | 'u' :: more => do
        let (c, rest) ← unicodeEscape? more
        let (name, rest) ← identifierUpTo n false rest
        some (c :: name, rest)
      | _ => none
    else if (if first then isKeyStart c else isKeyPart c) then
      (identifierUpTo n false rest).map fun (name, rest) => (c :: name, rest)
    else some ([], c :: rest)

def key? : Step Text
  | [] => none
  | c :: rest =>
    if c = '"' ∨ c = '\'' then stringUpTo c (rest.length + 1) rest
    else
      match identifierUpTo (rest.length + 1) true (c :: rest) with
      | some ([], _) => none
      | found => found

/-- Reads the digits of a decimal number, its point and its exponent. The number has whether it is
whole, its digits, and the power of ten that they are multiplied with. -/
def decimal? (text : Text) : Option ((Bool × Decimal) × Text) :=
  let whole := text.takeWhile Char.isDigit
  let afterWhole := text.dropWhile Char.isDigit
  let (whole, afterWhole) :=
    if whole.head? = some '0' then (['0'], text.drop 1) else (whole, afterWhole)
  let (hasPoint, places, afterPlaces) : Bool × Text × Text := match afterWhole with
    | '.' :: rest => (true, rest.takeWhile Char.isDigit, rest.dropWhile Char.isDigit)
    | _ => (false, [], afterWhole)
  if whole = [] ∧ places = [] then none
  else
    let plain := some ((!hasPoint, (⟨Reader.natOfDigits (whole ++ places), -places.length⟩ : Decimal)),
      afterPlaces)
    match afterPlaces with
    | [] => plain
    | e :: rest =>
      if e = 'e' ∨ e = 'E' then
        let negative := rest.head? = some '-'
        let rest := if rest.head? = some '+' ∨ rest.head? = some '-' then rest.drop 1 else rest
        let power := Reader.natOfDigits (rest.takeWhile Char.isDigit)
        if (rest.takeWhile Char.isDigit) = [] then plain
        else
          let power : Int := if negative then -(power : Int) else power
          some ((false, ⟨Reader.natOfDigits (whole ++ places), power - places.length⟩),
            rest.dropWhile Char.isDigit)
      else plain

/-- Reads a number. One that no machine number is near to fails, and so does a number to base sixteen
with a sign. -/
def number? (text : Text) : Option (Number × Text) :=
  let signed := text.head? = some '+' ∨ text.head? = some '-'
  let negative := text.head? = some '-'
  let body := if signed then text.drop 1 else text
  -- No double is as large.
  let infinite : Number := .fraction negative ⟨1, Binary.greatestExponent + 53⟩
  match Text.dropPrefix? "Infinity".toList body, Text.dropPrefix? "NaN".toList body with
  | some rest, _ => if text.head? = some '+' then none else some (infinite, rest)
  | _, some rest => if text.head? = some '+' then none else some (infinite, rest)
  | none, none =>
    match body with
    | '0' :: x :: rest =>
      if x = 'x' ∨ x = 'X' then
        let digits := rest.filterMap Reader.hexValue?
        let taken := rest.takeWhile fun c => (Reader.hexValue? c).isSome
        let value : Nat := (digits.take taken.length).foldl (fun n d => n * 16 + d) 0
        if signed ∨ taken = [] ∨ powerOfTwo 32 ≤ value then none
        else some (.integer value, rest.drop taken.length)
      else decimalNumber negative body
    | _ => decimalNumber negative body
where
  /-- Checks the size of a decimal number. -/
  decimalNumber (negative : Bool) (body : Text) : Option (Number × Text) := do
    let ((isWhole, value), rest) ← decimal? body
    if isWhole then
      if value.digits < powerOfTwo 63 ∨ (negative ∧ value.digits = powerOfTwo 63) then
        some (.integer (if negative then -(value.digits : Int) else value.digits), rest)
      else none
    else some (.fraction negative (← Binary.ofDecimal? value), rest)

mutual

def valueUpTo : Nat → Step Json
  | 0, _ => none
  | n + 1, text =>
    match text with
    | '\x7b' :: rest => (membersUpTo n true (skipBlanks rest)).map fun (found, rest) => (.object found, rest)
    | '[' :: rest => (itemsUpTo n true (skipBlanks rest)).map fun (found, rest) => (.array found, rest)
    | '"' :: rest => (stringUpTo '"' (rest.length + 1) rest).map fun (s, rest) => (.string s, rest)
    | '\'' :: rest => (stringUpTo '\'' (rest.length + 1) rest).map fun (s, rest) => (.string s, rest)
    | _ =>
      match Text.dropPrefix? "null".toList text, Text.dropPrefix? "true".toList text,
          Text.dropPrefix? "false".toList text with
      | some rest, _, _ => some (.null, rest)
      | _, some rest, _ => some (.bool true, rest)
      | _, _, some rest => some (.bool false, rest)
      | _, _, _ => (number? text).map fun (value, rest) => (.number value, rest)

/-- Reads the items of an array up to its end, the first one or one behind a comma. -/
def itemsUpTo : Nat → (first : Bool) → Step (List Json)
  | 0, _, _ => none
  | n + 1, first, text =>
    match text with
    | ']' :: rest => some ([], rest)
    | ',' :: rest =>
      if first then none
      else
        match skipBlanks rest with
        | ']' :: rest => some ([], rest)
        | rest => itemThen n rest
    | _ => if first then itemThen n text else none

def itemThen : Nat → Step (List Json)
  | 0, _ => none
  | n + 1, text => do
    let (item, rest) ← valueUpTo n text
    let (items, rest) ← itemsUpTo n false (skipBlanks rest)
    some (item :: items, rest)

/-- Reads the members of an object up to its end, the first one or one behind a comma. -/
def membersUpTo : Nat → (first : Bool) → Step (List (Text × Json))
  | 0, _, _ => none
  | n + 1, first, text =>
    match text with
    | '\x7d' :: rest => some ([], rest)
    | ',' :: rest =>
      if first then none
      else
        match skipBlanks rest with
        | '\x7d' :: rest => some ([], rest)
        | rest => memberThen n rest
    | _ => if first then memberThen n text else none

def memberThen : Nat → Step (List (Text × Json))
  | 0, _ => none
  | n + 1, text => do
    let (name, rest) ← key? text
    match skipBlanks rest with
    | ':' :: rest =>
      let (value, rest) ← valueUpTo n (skipBlanks rest)
      let (members, rest) ← membersUpTo n false (skipBlanks rest)
      some ((name, value) :: members, rest)
    | _ => none

end

/-- The value that a whole text spells, blanks and comments around it apart. -/
def parse? (text : Text) : Option Json :=
  match valueUpTo (4 * text.length + 4) (skipBlanks text) with
  | some (value, rest) => if skipBlanks rest = [] then some value else none
  | none => none

end ComponentBundle.Json.Lenient
