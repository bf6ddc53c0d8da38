import ComponentBundle.Style.Syntax

/-!
# Readers of styles

A parser reads a style character by character and stops at the first fault. The notation decides what
ends a statement: a semicolon, or the end of the line.
-/
namespace ComponentBundle.Style

/-- A notation of styles. -/
inductive Form where
  | braces
  | indented
  /-- Nothing but what a style sheet may hold. -/
  | css
  deriving DecidableEq

structure Surroundings where
  isInRule : Bool := false
  isInAtRule : Bool := false
  isInMixin : Bool := false
  isInContent : Bool := false
  isInFunction : Bool := false
  isInControl : Bool := false
  isInParens : Bool := false

/-- The blanks at the head of the next line that is not blank, and the reader behind them. -/
structure Indentation where
  width : Nat
  rest : Text
  place : Nat
  last : Char

/-- What a parser knows between two characters. -/
structure Reader where
  form : Form
  source : Source
  rest : Text
  length : Nat := rest.length
  origin : Nat := 0
  /-- The span of everything, if places of the text are no places of the source. -/
  whole : Option Span := none
  place : Nat := 0
  last : Char := '\n'
  surroundings : Surroundings := {}
  width : Nat := 0
  next? : Option Indentation := none
  /-- Whether lines are indented with spaces, if one is. -/
  usesSpaces : Option Bool := none
  /-- Whether the mixin that is read has a place for a block. -/
  foundContent : Bool := false
  /-- Whether only what may stand in front of the use of a module has been read. -/
  allowsUse : Bool := true

namespace Reader

/-- A reader of a text that expressions at a span result in. Its places are those of the span, unless
it has more bytes. -/
def ofText (form : Form) (text : String) (span : Span) : Reader where
  form := form
  source := span.source
  rest := text.toList
  origin := span.start
  whole := if span.size < text.utf8ByteSize then some span else none

/-- The span of the character at a place, or of the last one if there is none. -/
def spanAt (r : Reader) (place : Nat) : Span :=
  match r.whole with
  | some span => span
  | none =>
    if r.length = 0 then ⟨r.source, r.origin, r.origin⟩
    else
      let place := r.origin + min place (r.length - 1)
      ⟨r.source, place, place + 1⟩

end Reader

/-- A parser of an `α`. -/
abbrev Parser := StateT Reader (Except Fault)

def isLineEnd (c : Char) : Bool := c = '\n' || c = '\r' || c = '\x0c'

def isGap (c : Char) : Bool := c = ' ' || c = '\t' || isLineEnd c

/-- Whether a name may begin with a character. -/
def isNameStart (c : Char) : Bool := c = '_' || c.isAlpha || 128 ≤ c.toNat

def isNamePart (c : Char) : Bool := isNameStart c || c.isDigit || c = '-'

def hexValue? (c : Char) : Option Nat :=
  if c.isDigit then some (c.toNat - 48)
  else if 'a' ≤ c && c ≤ 'f' then some (c.toNat - 87)
  else if 'A' ≤ c && c ≤ 'F' then some (c.toNat - 55)
  else none

namespace Parser

variable {α σ : Type}

def peek : Parser (Option Char) := do return (← get).rest.head?

/-- The character so many places ahead. -/
def peekAt (n : Nat) : Parser (Option Char) := do return (← get).rest[n]?

def place : Parser Nat := do return (← get).place

def isIndented : Parser Bool := do return (← get).form == .indented

/-- Whether only what a style sheet may hold is allowed. -/
def isPlain : Parser Bool := do return (← get).form == .css

def surroundings : Parser Surroundings := do return (← get).surroundings

def within (change : Surroundings → Surroundings) (p : Parser α) : Parser α := do
  let before ← surroundings
  modify fun r => { r with surroundings := change before }
  let result ← p
  modify fun r => { r with surroundings := before }
  return result

def setParens (value : Bool) : Parser Unit :=
  modify fun r => { r with surroundings := { r.surroundings with isInParens := value } }

def currentSpan : Parser Span := do
  let r ← get
  return r.spanAt r.place

def spanFrom (start : Nat) : Parser Span := do
  let r ← get
  return (r.spanAt start).merge (r.spanAt (r.place - 1))

def stopAt (message : String) (span : Span) : Parser α := throw ⟨message, span⟩

def stop (message : String) : Parser α := do stopAt message (← currentSpan)

def skip : Parser Unit := modify fun r =>
  match r.rest with
  | [] => r
  | c :: rest => { r with rest, place := r.place + 1, last := c }

def skipMany : Nat → Parser Unit
  | 0 => return ()
  | n + 1 => do skip; skipMany n

def isAt (c : Char) : Parser Bool := do return (← peek) == some c

def isAtText (word : Text) : Parser Bool := do return word.isPrefixOf (← get).rest

/-- Reads the character if it is at hand. -/
def scan (c : Char) : Parser Bool := do
  if ← isAt c then skip; return true else return false

def scanText (word : String) : Parser Bool := do
  if ← isAtText word.toList then skipMany word.length; return true else return false

def expected (what : String) : Parser α := stop ("expected " ++ what ++ ".")

def expect (c : Char) : Parser Unit := do
  if !(← scan c) then expected ("\"" ++ toString c ++ "\"")

def expectText (word : String) : Parser Unit := do
  if !(← scanText word) then expected ("\"" ++ word ++ "\"")

def takeWhile (test : Char → Bool) : Parser Text := do
  let found : Text := (← get).rest.takeWhile test
  skipMany found.length
  return found

/-- The parser's result, or nothing and the reader as it was if it stops. -/
def attempt (p : Parser α) : Parser (Option α) := fun r =>
  match p r with
  | .ok (a, after) => .ok (some a, after)
  | .error _ => .ok (none, r)

/-- The parser's result, or the fault and the reader as it was. -/
def catching (p : Parser α) : Parser (α ⊕ Fault) := fun r =>
  match p r with
  | .ok (a, after) => .ok (.inl a, after)
  | .error fault => .ok (.inr fault, r)

/-- The parser's result with the reader left as it was. -/
def lookahead (p : Parser α) : Parser α := fun r =>
  match p r with
  | .ok (a, _) => .ok (a, r)
  | .error fault => .error fault

/-- Repeats a step at most `n` times. -/
def iterateUpTo (step : σ → Parser (σ ⊕ α)) : Nat → σ → Parser α
  | 0, _ => expected "more input"
  | n + 1, a => do
    match ← step a with
    | .inl next => iterateUpTo step n next
    | .inr result => return result

/-- Repeats a step that reads at least one character each time but the last few. -/
def iterate (step : σ → Parser (σ ⊕ α)) (a : σ) : Parser α := do
  iterateUpTo step ((← get).rest.length + 4) a

def rawText (p : Parser Unit) : Parser String := do
  let before ← get
  p
  return String.ofList (before.rest.take ((← place) - before.place))

def skipLineComment : Parser Unit := do
  let _ ← takeWhile (!isLineEnd ·)

def skipBlockComment : Parser Unit := do
  skipMany 2
  iterate (fun _ => do
    match ← peek with
    | none => expected "more input"
    | some '*' =>
      skip
      if ← scan '/' then return .inr () else return .inl ()
    | some _ => skip; return .inl ()) ()

def scanComment : Parser Bool := do
  if ← isAtText "//".toList then
    if ← isPlain then
      let start ← place
      skipLineComment
      stopAt "Silent comments aren't allowed in plain CSS." (← spanFrom start)
    skipLineComment
    return true
  else if ← isAtText "/*".toList then
    skipBlockComment
    return true
  else return false

/-- Skips blanks. Where the ends of lines mean something they are left. -/
def skipBlanks : Parser Unit := do
  let indented ← isIndented
  let _ ← takeWhile fun c => if indented then c = ' ' || c = '\t' else isGap c

def skipGaps : Parser Unit := do
  iterate (fun _ => do
    skipBlanks
    if ← scanComment then return .inl () else return .inr ()) ()

/-- A character given by its number, or by itself, behind a backslash. -/
def escapedChar : Parser Char := do
  expect '\\'
  match ← peek with
  | none => return Char.ofNat 0xFFFD
  | some c =>
    if isLineEnd c then stop "Expected escape sequence."
    if (hexValue? c).isSome then
      let digits : Text := ((← get).rest.take 6).takeWhile fun c => (hexValue? c).isSome
      skipMany digits.length
      match ← peek with
      | some c => if isGap c then skip
      | none => pure ()
      let value := digits.foldl (fun n c => n * 16 + (hexValue? c).getD 0) 0
      if value = 0 || (0xD800 ≤ value && value ≤ 0xDFFF) || 0x10FFFF ≤ value then
        return Char.ofNat 0xFFFD
      else return Char.ofNat value
    else
      skip
      return c

/-- A character behind a backslash as a name holds it. -/
def escape (isFirst : Bool) : Parser String := do
  let c ← escapedChar
  if (if isFirst then isNameStart c else isNamePart c) then return c.toString
  else if c.toNat ≤ 0x1F || c.toNat = 0x7F || (isFirst && c.isDigit) then
    return "\\" ++ String.ofList (Nat.toDigits 16 c.toNat) ++ " "
  else return "\\" ++ c.toString

/-- The rest of a name. A unit ends in front of a dash that a digit follows. -/
def nameBody (isUnit : Bool) : Parser String := do
  iterate (fun (found : String) => do
    match ← peek with
    | none => return .inr found
    | some c =>
      if isUnit && c = '-' then
        match ← peekAt 1 with
        | some '.' => return .inr found
        | some d =>
          if d.isDigit then return .inr found
          skip
          return .inl (found.push '-')
        | none => skip; return .inl (found.push '-')
      else if isNamePart c then skip; return .inl (found.push c)
      else if c = '\\' then return .inl (found ++ (← escape false))
      else return .inr found) ""

def nameOf (isUnit : Bool) : Parser String := do
  let dash := if ← scan '-' then "-" else ""
  if dash = "-" && (← scan '-') then return "--" ++ (← nameBody isUnit)
  match ← peek with
  | some '\\' =>
    let first ← escape true
    return dash ++ first ++ (← nameBody isUnit)
  | some c =>
    if isNameStart c then
      skip
      return (dash.push c) ++ (← nameBody isUnit)
    else stop "Expected identifier."
  | none => stop "Expected identifier."

def name : Parser String := nameOf false

/-- A name with dashes for underscores, which mean the same. -/
def plainName : Parser String := do return (← name).map fun c => if c = '_' then '-' else c

/-- The name of a variable, behind a dollar sign. -/
def variableName : Parser String := do
  expect '$'
  plainName

/-- Whether a name stands so many characters ahead. -/
def isAtNameFrom (n : Nat) : Parser Bool := do
  match ← peekAt n with
  | some '-' =>
    match ← peekAt (n + 1) with
    | some c => return isNameStart c || c = '\\' || c = '-'
    | none => return false
  | some c => return isNameStart c || c = '\\'
  | none => return false

def isAtName : Parser Bool := isAtNameFrom 0

/-- Whether an expression stands in a text so many characters ahead. -/
def isAtPieceFrom (n : Nat) : Parser Bool := do
  return (← peekAt n) == some '#' && (← peekAt (n + 1)) == some '\x7b'

/-- Whether a name that may hold expressions is at hand. -/
def isAtPieces : Parser Bool := do
  match ← peek with
  | some '-' =>
    match ← peekAt 1 with
    | some '#' => isAtPieceFrom 1
    | some c => return isNameStart c || c = '\\' || c = '-'
    | none => return false
  | some '#' => isAtPieceFrom 0
  | some c => return isNameStart c || c = '\\'
  | none => return false

/-- Reads the word, in letters of any case, if it is the name at hand. -/
def scanName (word : String) : Parser Bool := do
  if !(← isAtName) then return false
  let before ← get
  match ← attempt name with
  | some found =>
    if found.toLower == word then return true
    set before
    return false
  | none => return false

/-- Reads the word, in letters of any case, as a whole name. -/
def expectName (word : String) : Parser Unit := do
  let start ← place
  for c in word.toList do
    if (← peek).map Char.toLower == some c then skip
    else stopAt ("Expected \"" ++ word ++ "\".") (← spanFrom start)
  match ← peek with
  | some c =>
    if isNamePart c || c = '\\' then stopAt ("Expected \"" ++ word ++ "\".") (← spanFrom start)
  | none => return ()

end Parser

end ComponentBundle.Style
