import ComponentBundle.Json.Value

/-!
# Reading JSON

A reader goes through a text one character at a time and knows at which line and byte column it is, so
that a failure can say where it arose. Failures of two kinds of place occur: at what has been read,
and at the next byte. Values that nobody asked for are skipped without being built, with fewer checks
than values that are read.
-/
namespace ComponentBundle.Json

inductive Fault where
  | endInValue
  | endInList
  | endInObject
  | endInString
  | expectedColon
  | expectedListEnd
  | expectedObjectEnd
  | expectedWord
  | expectedValue
  | invalidEscape
  | invalidNumber
  | numberOutOfRange
  | controlCharacter
  | keyNotString
  | loneSurrogate
  | surrogateEnd
  | trailingComma
  | trailingCharacters
  | tooDeep
  | invalidType (found expected : Text)
  | duplicateField (name : Text)
  | missingField (name : Text)
  deriving DecidableEq

def Fault.message : Fault → Text
  | .endInValue => "EOF while parsing a value".toList
  | .endInList => "EOF while parsing a list".toList
  | .endInObject => "EOF while parsing an object".toList
  | .endInString => "EOF while parsing a string".toList
  | .expectedColon => "expected `:`".toList
  | .expectedListEnd => "expected `,` or `]`".toList
  | .expectedObjectEnd => "expected `,` or `\x7d`".toList
  | .expectedWord => "expected ident".toList
  | .expectedValue => "expected value".toList
  | .invalidEscape => "invalid escape".toList
  | .invalidNumber => "invalid number".toList
  | .numberOutOfRange => "number out of range".toList
  | .controlCharacter =>
    "control character (\\u0000-\\u001F) found while parsing a string".toList
  | .keyNotString => "key must be a string".toList
  | .loneSurrogate => "lone leading surrogate in hex escape".toList
  | .surrogateEnd => "unexpected end of hex escape".toList
  | .trailingComma => "trailing comma".toList
  | .trailingCharacters => "trailing characters".toList
  | .tooDeep => "recursion limit exceeded".toList
  | .invalidType found expected =>
    "invalid type: ".toList ++ found ++ ", expected ".toList ++ expected
  | .duplicateField name => "duplicate field `".toList ++ name ++ "`".toList
  | .missingField name => "missing field `".toList ++ name ++ "`".toList

/-- A fault and where it arose: a line counted from one and a column in bytes. -/
structure Failure where
  fault : Fault
  line : Nat
  column : Nat
  deriving DecidableEq

def Failure.message (failure : Failure) : Text :=
  failure.fault.message ++ " at line ".toList ++ Text.ofNat failure.line ++ " column ".toList ++
    Text.ofNat failure.column

/-- What is left to read, and the place reached. -/
structure Cursor where
  rest : Text
  line : Nat
  column : Nat

def Cursor.start (text : Text) : Cursor := ⟨text, 1, 0⟩

def Cursor.next (cursor : Cursor) : Cursor :=
  match cursor.rest with
  | [] => cursor
  | c :: rest =>
    if c = '\n' then ⟨rest, cursor.line + 1, 0⟩ else ⟨rest, cursor.line, cursor.column + c.utf8Size⟩

/-- A computation that reads on or fails. -/
abbrev Reader := StateT Cursor (Except Failure)

namespace Reader

def failHere {α : Type} (fault : Fault) : Reader α := fun cursor =>
  .error ⟨fault, cursor.line, cursor.column⟩

def failNext {α : Type} (fault : Fault) : Reader α := fun cursor =>
  match cursor.rest with
  | [] => .error ⟨fault, cursor.line, cursor.column⟩
  | c :: _ =>
    if c = '\n' then .error ⟨fault, cursor.line + 1, 0⟩
    else .error ⟨fault, cursor.line, cursor.column + 1⟩

/-- The next character, which stays unread. -/
def peek : Reader (Option Char) := fun cursor => .ok (cursor.rest.head?, cursor)

def skip : Reader Unit := fun cursor => .ok ((), cursor.next)

/-- The number of characters left, which bounds every loop. -/
def left : Reader Nat := fun cursor => .ok (cursor.rest.length, cursor)

/-- Reads blanks; there are at most as many as characters are left. -/
def skipBlanksUpTo : Nat → Reader Unit
  | 0 => pure ()
  | n + 1 => do
    match ← peek with
    | some c => if c == ' ' || c == '\n' || c == '\t' || c == '\r' then skip; skipBlanksUpTo n
    | none => pure ()

/-- Reads blanks and looks at what follows. -/
def peekToken : Reader (Option Char) := do
  skipBlanksUpTo (← left)
  peek

def word : Text → Reader Unit
  | [] => pure ()
  | expected :: rest => do
    match ← peek with
    | none => failHere .endInValue
    | some c =>
      if c = expected then skip; word rest
      else failNext .expectedWord

def hexValue? (c : Char) : Option Nat :=
  if '0' ≤ c ∧ c ≤ '9' then some (c.toNat - 48)
  else if 'a' ≤ c ∧ c ≤ 'f' then some (c.toNat - 87)
  else if 'A' ≤ c ∧ c ≤ 'F' then some (c.toNat - 55)
  else none

def skipAll : Nat → Reader Unit
  | 0 => pure ()
  | n + 1 => do
    match ← peek with
    | some _ => skip; skipAll n
    | none => pure ()

/-- The place so many bytes further on, which may be inside a character. -/
def placeAfter : (bytes : Nat) → Cursor → Nat × Nat
  | 0, cursor => (cursor.line, cursor.column)
  | n + 1, cursor =>
    match cursor.rest with
    | [] => (cursor.line, cursor.column)
    | c :: _ =>
      if n + 1 < c.utf8Size then (cursor.line, cursor.column + n + 1)
      else placeAfter (n + 1 - c.utf8Size) cursor.next
  termination_by n => n
  decreasing_by have := c.utf8Size_pos; omega

/-- Reads four bytes as digits to base sixteen. -/
def hexEscape : Reader Nat := fun cursor =>
  let refused : Except Failure (Nat × Cursor) :=
    if cursor.rest.byteLength < 4 then (skipAll 4 >>= fun _ => failHere .endInString) cursor
    else
      let (line, column) := placeAfter 4 cursor
      .error ⟨.invalidEscape, line, column⟩
  match cursor.rest with
  | a :: b :: c :: d :: _ =>
    match hexValue? a, hexValue? b, hexValue? c, hexValue? d with
    | some a, some b, some c, some d =>
      .ok (((a * 16 + b) * 16 + c) * 16 + d, cursor.next.next.next.next)
    | _, _, _, _ => refused
  | _ => refused

/-- The character that a letter after a backslash stands for. -/
def simpleEscape? (c : Char) : Option Char :=
  if c = '"' ∨ c = '\\' ∨ c = '/' then some c
  else if c = 'b' then some '\x08'
  else if c = 'f' then some '\x0c'
  else if c = 'n' then some '\n'
  else if c = 'r' then some '\r'
  else if c = 't' then some '\t'
  else none

/-- Reads the second half of a character that takes two escapes. -/
def trailingSurrogate (lead : Nat) : Reader Char := do
  match ← peek with
  | none => failHere .endInString
  | some c => if c ≠ '\\' then failNext .surrogateEnd
  skip
  match ← peek with
  | none => failHere .endInString
  | some c => if c ≠ 'u' then failNext .surrogateEnd
  skip
  let trail ← hexEscape
  if trail < 0xDC00 ∨ 0xDFFF < trail then failHere .loneSurrogate
  else pure (Char.ofNat ((lead - 0xD800) * 0x400 + (trail - 0xDC00) + 0x10000))

def escape : Reader Char := do
  match ← peek with
  | none => failHere .endInString
  | some 'u' =>
    skip
    let n ← hexEscape
    if 0xDC00 ≤ n ∧ n ≤ 0xDFFF then failHere .loneSurrogate
    else if n < 0xD800 ∨ 0xDBFF < n then pure (Char.ofNat n)
    else trailingSurrogate n
  | some c =>
    match simpleEscape? c with
    | some value => skip; pure value
    | none => failNext .invalidEscape

/-- Reads a string behind its opening quote; `found` holds its characters in reverse. -/
def stringUpTo : Nat → Text → Reader Text
  | 0, found => pure found.reverse
  | n + 1, found => do
    match ← peek with
    | none => failHere .endInString
    | some '"' => skip; pure found.reverse
    | some '\\' => skip; stringUpTo n ((← escape) :: found)
    | some c => if c.toNat < 32 then failNext .controlCharacter else skip; stringUpTo n (c :: found)

def string : Reader Text := do stringUpTo ((← left) + 1) []

def skipEscape : Reader Unit := do
  match ← peek with
  | none => failHere .endInString
  | some 'u' => skip; discard hexEscape
  | some c => if (simpleEscape? c).isSome then skip else failNext .invalidEscape

def skipStringUpTo : Nat → Reader Unit
  | 0 => pure ()
  | n + 1 => do
    match ← peek with
    | none => failHere .endInString
    | some '"' => skip
    | some '\\' => skip; skipEscape; skipStringUpTo n
    | some c => if c.toNat < 32 then failHere .controlCharacter else skip; skipStringUpTo n

def digitsUpTo : Nat → Text → Reader Text
  | 0, found => pure found.reverse
  | n + 1, found => do
    match ← peek with
    | some c => if c.isDigit then skip; digitsUpTo n (c :: found) else pure found.reverse
    | none => pure found.reverse

def digits : Reader Text := do digitsUpTo (← left) []

def natOfDigits (digits : Text) : Nat := digits.foldl (fun n c => n * 10 + (c.toNat - 48)) 0

/-- Reads digits behind those of `n` as long as the number stays at or below `limit`. The result is
the number, how many digits were read, and whether one was left because the number would grow too
large. -/
def digitsWithin (limit : Nat) : Nat → (n count : Nat) → Reader (Nat × Nat × Bool)
  | 0, n, count => pure (n, count, false)
  | fuel + 1, n, count => do
    match ← peek with
    | some c =>
      if !c.isDigit then pure (n, count, false)
      else
        let longer := n * 10 + (c.toNat - 48)
        if limit < longer then pure (n, count, true)
        else skip; digitsWithin limit fuel longer (count + 1)
    | none => pure (n, count, false)

def wordLimit : Nat := powerOfTwo 64 - 1

def exponentLimit : Nat := powerOfTwo 31 - 1

/-- The double that a number times a power of ten is taken for. Each step is rounded: the number
becomes a double, and so does the power, which is multiplied with it or which it is divided by. A
small power takes several divisions. -/
def scaleUpTo : Nat → Binary → (exponent : Int) → Option Binary
  | 0, _, _ => none
  | n + 1, value, exponent =>
    if exponent.natAbs ≤ 308 then do
      let power ← Binary.ofNat? (powerOfTen exponent.natAbs)
      if 0 ≤ exponent then value.times? power else value.over? power
    else if value.mantissa = 0 then some value
    else if 0 ≤ exponent then none
    else do
      let power ← Binary.ofNat? (powerOfTen 308)
      scaleUpTo n (← value.over? power) (exponent + 308)

/-- The number of a sign, of digits and of a power of ten that they are multiplied with. -/
def scaled (negative : Bool) (digits : Nat) (exponent : Int) : Reader Number :=
  match (Binary.ofNat? digits).bind (scaleUpTo 4 · exponent) with
  | some value => pure (.fraction negative value)
  | none => failHere .numberOutOfRange

/-- Reads a digit that must follow; `ended` is the fault of a text that ends instead. -/
def requireDigit (ended : Fault) : Reader Unit := do
  match ← peek with
  | none => failHere ended
  | some c => if !c.isDigit then failNext .invalidNumber

def exponentSign : Reader Bool := do
  skip
  let sign ← peek
  if sign == some '+' || sign == some '-' then skip
  pure (sign == some '-')

/-- Reads an exponent at its letter, behind digits and the power of ten that they have. One that is
too large to be told from others makes the number zero, or is out of range. -/
def exponent (negative : Bool) (significand : Nat) (power : Int) : Reader Number := do
  let down ← exponentSign
  requireDigit .endInValue
  let (value, _, isTooLarge) ← digitsWithin exponentLimit (← left) 0 0
  if isTooLarge then
    skip
    if significand ≠ 0 && !down then failHere .numberOutOfRange
    discard digits
    pure (.fraction negative ⟨0, 0⟩)
  else scaled negative significand (if down then power - value else power + value)

/-- Reads the exponent behind digits, if there is one. -/
def maybeExponent (negative : Bool) (significand : Nat) (power : Int) : Reader Number := do
  let mark ← peek
  if mark == some 'e' || mark == some 'E' then exponent negative significand power
  else scaled negative significand power

/-- Reads the places at the point, behind digits and the power of ten that they have. Places that a
machine word has no room for are ignored. -/
def places (negative : Bool) (significand : Nat) (power : Int) : Reader Number := do
  skip
  let (significand, count, isFull) ← digitsWithin wordLimit (← left) significand 0
  if isFull then discard digits
  else if count = 0 then
    match ← peek with
    | none => failNext .endInValue
    | some _ => failNext .invalidNumber
  maybeExponent negative significand (power - count)

/-- The whole number of a sign and digits: a double if no machine integer is that number. -/
def wholeNumber (negative : Bool) (digits : Nat) : Reader Number :=
  if !negative then pure (.integer digits)
  else if digits ≠ 0 ∧ digits ≤ powerOfTwo 63 then pure (.integer (-(digits : Int)))
  else scaled true digits 0

def number (negative : Bool) : Reader Number := do
  requireDigit .endInValue
  let isZero := (← peek) == some '0'
  let (significand, _, isFull) ←
    if isZero then
      skip
      match ← peek with
      | some c => if c.isDigit then failNext .invalidNumber
      | none => pure ()
      pure (0, 0, false)
    else digitsWithin wordLimit (← left) 0 0
  let power ← if isFull then pure (← digits).length else pure 0
  match ← peek with
  | some '.' => places negative significand power
  | some 'e' | some 'E' => exponent negative significand power
  | _ => if isFull then scaled negative significand power else wholeNumber negative significand

/-- Skips a number behind its sign. Its size is not checked. -/
def skipNumber : Reader Unit := do
  requireDigit .invalidNumber
  let isZero := (← peek) == some '0'
  skip
  if isZero then
    match ← peek with
    | some c => if c.isDigit then failNext .invalidNumber
    | none => pure ()
  else discard digits
  if (← peek) == some '.' then
    skip
    if (← digits) = [] then failNext .invalidNumber
  let mark ← peek
  if mark == some 'e' || mark == some 'E' then
    discard exponentSign
    requireDigit .invalidNumber
    discard digits

/-- What an open bracket is closed by, and how the text between may fail. -/
inductive Frame where
  | list
  | object
  deriving DecidableEq

def Frame.closing : Frame → Char
  | .list => ']'
  | .object => '\x7d'

def Frame.unfinished : Frame → Fault
  | .list => .endInList
  | .object => .endInObject

/-- The fault of something else than a comma or the end of the frame. -/
def Frame.unseparated : Frame → Fault
  | .list => .expectedListEnd
  | .object => .expectedObjectEnd

def skipKey : Reader Unit := do
  match ← peekToken with
  | some '"' => skip
  | some _ => failNext .keyNotString
  | none => failNext .endInObject
  skipStringUpTo ((← left) + 1)
  match ← peekToken with
  | some ':' => skip
  | some _ => failNext .expectedColon
  | none => failNext .endInObject

mutual

/-- Skips a value inside the given frames, and what follows it in them. -/
def skipValueUpTo : Nat → List Frame → Reader Unit
  | 0, _ => pure ()
  | n + 1, frames => do
    match ← peekToken with
    | none => failNext .endInValue
    | some 'n' => skip; word "ull".toList; closeFrames n true frames
    | some 't' => skip; word "rue".toList; closeFrames n true frames
    | some 'f' => skip; word "alse".toList; closeFrames n true frames
    | some '"' => skip; skipStringUpTo ((← left) + 1); closeFrames n true frames
    | some '-' => skip; skipNumber; closeFrames n true frames
    | some '[' => skip; closeFrames n false (.list :: frames)
    | some '\x7b' => skip; closeFrames n false (.object :: frames)
    | some c =>
      if c.isDigit then skipNumber; closeFrames n true frames
      else failNext .expectedValue

/-- Goes on in the innermost frame: closes it, or skips its next value. -/
def closeFrames : Nat → Bool → List Frame → Reader Unit
  | 0, _, _ => pure ()
  | _ + 1, _, [] => pure ()
  | n + 1, afterValue, frame :: frames => do
    match ← peekToken with
    | none => failNext frame.unfinished
    | some c =>
      if c = ',' ∧ afterValue then
        skip
        if frame = .object then skipKey
        skipValueUpTo n (frame :: frames)
      else if c = frame.closing then
        skip
        closeFrames n true frames
      else if afterValue then failNext frame.unseparated
      else
        if frame = .object then skipKey
        skipValueUpTo n (frame :: frames)

end

/-- Skips a value. Every step reads a character, so twice their number is enough. -/
def skipValue : Reader Unit := do skipValueUpTo (2 * (← left) + 2) []

def colon : Reader Unit := do
  match ← peekToken with
  | some ':' => skip
  | some _ => failNext .expectedColon
  | none => failNext .endInObject

/-- Reads up to the key of the next member and the key itself; none at the end of the object. -/
def nextKey? (first : Bool) : Reader (Option Text) := do
  match ← peekToken with
  | none => failNext .endInObject
  | some '\x7d' => pure none
  | some c =>
    if c = ',' ∧ !first then
      skip
      match ← peekToken with
      | some '"' => skip; pure (some (← string))
      | some '\x7d' => failNext .trailingComma
      | some _ => failNext .keyNotString
      | none => failNext .endInValue
    else if !first then failNext .expectedObjectEnd
    else if c = '"' then skip; pure (some (← string))
    else failNext .keyNotString

/-- Goes to the next item of an array; false at its end. -/
def nextItem (first : Bool) : Reader Bool := do
  match ← peekToken with
  | none => failNext .endInList
  | some ']' => pure false
  | some c =>
    if c = ',' ∧ !first then
      skip
      match ← peekToken with
      | some ']' => failNext .trailingComma
      | some _ => pure true
      | none => failNext .endInValue
    else if first then pure true
    else failNext .expectedListEnd

def endArray : Reader Unit := do
  match ← peekToken with
  | some ']' => skip
  | some ',' =>
    skip
    match ← peekToken with
    | some ']' => failNext .trailingComma
    | _ => failNext .trailingCharacters
  | some _ => failNext .trailingCharacters
  | none => failNext .endInList

def endObject : Reader Unit := do
  match ← peekToken with
  | some '\x7d' => skip
  | some ',' => failNext .trailingComma
  | some _ => failNext .trailingCharacters
  | none => failNext .endInObject

def endText : Reader Unit := do
  match ← peekToken with
  | some _ => failNext .trailingCharacters
  | none => pure ()

/-- Values inside so many arrays and objects are refused. -/
def depthLimit : Nat := 127

mutual

def valueUpTo : Nat → Nat → Reader Json
  | 0, _ => failHere .endInValue
  | n + 1, depth => do
    match ← peekToken with
    | none => failNext .endInValue
    | some 'n' => skip; word "ull".toList; pure .null
    | some 't' => skip; word "rue".toList; pure (.bool true)
    | some 'f' => skip; word "alse".toList; pure (.bool false)
    | some '"' => skip; pure (.string (← string))
    | some '-' => skip; pure (.number (← number true))
    | some '[' =>
      if depthLimit ≤ depth then failNext .tooDeep
      else skip; pure (.array (← itemsUpTo n (depth + 1) true))
    | some '\x7b' =>
      if depthLimit ≤ depth then failNext .tooDeep
      else skip; pure (.object (← membersUpTo n (depth + 1) true))
    | some c => if c.isDigit then pure (.number (← number false)) else failNext .expectedValue

def itemsUpTo : Nat → Nat → Bool → Reader (List Json)
  | 0, _, _ => failHere .endInList
  | n + 1, depth, first => do
    if ← nextItem first then
      let item ← valueUpTo n depth
      pure (item :: (← itemsUpTo n depth false))
    else skip; pure []

def membersUpTo : Nat → Nat → Bool → Reader (List (Text × Json))
  | 0, _, _ => failHere .endInObject
  | n + 1, depth, first => do
    match ← nextKey? first with
    | none => skip; pure []
    | some key =>
      colon
      let value ← valueUpTo n depth
      pure ((key, value) :: (← membersUpTo n depth false))

end

def run {α : Type} (reader : Reader α) (text : Text) : Except Failure α :=
  (StateT.run reader (Cursor.start text)).map (·.1)

end Reader

def parse (text : Text) : Except Failure Json :=
  Reader.run (do
    let value ← Reader.valueUpTo (2 * text.length + 2) 0
    Reader.endText
    pure value) text

end ComponentBundle.Json
