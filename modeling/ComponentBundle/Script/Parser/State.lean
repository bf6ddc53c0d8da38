import ComponentBundle.Script.Lexer

/-!
# Parsers of scripts

A parser reads tokens from a script one at a time. It stops at the first token that it cannot use.
What is wrong but does not stop it is noted, and so is what the lexer has refused. The script is
refused for the first of these: what the lexer refused comes first, then what was noted, then what
stopped the parser.
-/
namespace ComponentBundle.Script

structure Context where
  isTyped : Bool
  returns : Bool := false
  awaits : Bool := true
  yields : Bool := false
  /-- Whether `in` is an operator. -/
  hasIn : Bool := true
  /-- Whether the values that are declared exist elsewhere. -/
  isAmbient : Bool := false
  hasConditional : Bool := true
  /-- Whether the expression stands behind an at sign. -/
  isDecorator : Bool := false

/-- A fault in a script, which is not refused before its end. -/
structure Fault where
  message : String
  offset : Nat

/-- What a parser knows between two tokens. -/
structure State where
  context : Context
  token : Token
  here : Text
  rest : Text
  previous : Nat := 0
  failures : List LexFailure := []
  faults : List Fault := []
  comments : List Comment := []
  /-- Whether a comment in front of the token says that the call behind it has no effect. -/
  isPure : Bool := false
  /-- Whether a comment in front of the token says that calls of the function behind it have no
  effect. -/
  isQuiet : Bool := false
  exports : List (String × Nat) := []
  names : List String := []
  declared : List (Nat × Nat) := []
  /-- Where an object has a default that only a target may have. -/
  covers : List Nat := []

def State.take (s : State) (here : Text) (lexed : Lexed) : State :=
  { s with
    token := lexed.token
    here
    rest := lexed.rest
    failures := s.failures ++ lexed.failures }

/-- The state at the token that follows some text. -/
def State.next (s : State) (keeps : Bool) (gap : Lexer.Gap) (place : Nat) (text : Text) : State :=
  let (gap, here) := Lexer.gapUpTo keeps (text.length + 1) gap text
  let start := place + (text.byteLength - here.byteLength)
  let s := State.take s here (Lexer.token gap.newline start here)
  { s with
    comments := (gap.leading start).reverse ++ s.comments
    isPure := gap.comments.any fun found => Lexer.isPureNote found.text
    isQuiet := gap.comments.any fun found => Lexer.isQuietNote found.text }

structure Halt where
  failures : List LexFailure
  faults : List Fault
  fatal : Fault
  /-- Whether it stops at a closing brace, and nothing but this brace remains to be closed. -/
  atBrace : Bool := false

def Halt.fault (halt : Halt) : Fault :=
  match halt.failures, halt.faults with
  | first :: _, _ => ⟨first.message, first.offset⟩
  | [], first :: _ => first
  | [], [] => halt.fatal

/-- A parser of an `α`. -/
abbrev Parser := StateT State (Except Halt)

namespace Parser

variable {α σ : Type}

def stopAt (message : String) (offset : Nat) : Parser α := fun s =>
  .error { failures := s.failures, faults := s.faults, fatal := ⟨message, offset⟩ }

/-- Stops at the token. What the lexer refused last is the reason if the token is its result. -/
def unexpected : Parser α := fun s =>
  match s.token.kind, s.failures.getLast? with
  | .finish, some last | .unknown, some last =>
    .error {
      failures := s.failures.dropLast, faults := s.faults, fatal := ⟨last.message, last.offset⟩ }
  | _, _ =>
    .error {
      failures := s.failures
      faults := s.faults
      fatal := ⟨"Unexpected token", s.token.start⟩
      atBrace := s.token.isMark "\x7d" }

def note (message : String) (offset : Nat) : Parser Unit :=
  modify fun s => { s with faults := s.faults ++ [⟨message, offset⟩] }

/-- Runs a parser in front of a closing mark of its own. -/
def closed (p : Parser α) : Parser α := fun s =>
  match p s with
  | .ok result => .ok result
  | .error halt => .error { halt with atBrace := false }

/-- The parser's result, or nothing and the tokens as they were if it stops. -/
def attempt (p : Parser α) : Parser (Option α) := fun s =>
  match p s with
  | .ok (a, after) => .ok (some a, after)
  | .error _ => .ok (none, s)

/-- The parser's result with the tokens left as they were. -/
def lookahead (p : Parser Bool) : Parser Bool := fun s =>
  match p s with
  | .ok (a, _) => .ok (a, s)
  | .error _ => .ok (false, s)

def current : Parser Token := do return (← get).token

def context : Parser Context := do return (← get).context

def isTyped : Parser Bool := do return (← context).isTyped

def within (change : Context → Context) (p : Parser α) : Parser α := do
  let before ← context
  modify fun s => { s with context := change before }
  let result ← p
  modify fun s => { s with context := before }
  return result

/-- Where `in` is an operator. -/
def withIn (p : Parser α) : Parser α := within (fun c => { c with hasIn := true }) p

/-- Goes on to the next token, whatever the token is for. -/
def skip : Parser Unit := modify fun s =>
  let names := if s.token.isName && s.token.text.startsWith "_" then s.token.text :: s.names
    else s.names
  State.next { s with previous := s.token.stop, names }
    (s.token.isMark "=" || s.token.isMark "(") {} s.token.stop s.rest

/-- Goes on to the next token. A word that is read for its meaning is not written with escapes. -/
def advance : Parser Unit := do
  let token ← current
  if token.escaped && token.isKeyword then
    note "Keywords cannot contain escape characters" token.start
  skip

/-- Reads the token again as one that is chosen by the parser. -/
def relex (choose : (newline : Bool) → (start : Nat) → (here : Text) → Lexed) : Parser Unit :=
  modify fun s => State.take s s.here (choose s.token.newline s.token.start s.here)

def isMark (mark : String) : Parser Bool := do return (← current).isMark mark

def isOneOf (marks : List String) : Parser Bool := do return marks.any (← current).isMark

def isWord (word : String) : Parser Bool := do return (← current).isWord word

def isFinish : Parser Bool := do return (← current).kind == .finish

/-- Whether the script ends here or the lexer has refused the token. -/
def isOver : Parser Bool := do
  let token ← current
  return token.kind == .finish || token.kind == .unknown

def isCommented : Parser Bool := do
  let s ← get
  return s.comments.head?.any fun found => found.token == s.token.start

/-- Whether a line ends in front of the token. -/
def isNewline : Parser Bool := do return (← current).newline

def peek : Parser Token := fun s =>
  match (do advance; current : Parser Token) s with
  | .ok (token, _) => .ok (token, s)
  | .error halt => .error halt

def eatMark (mark : String) : Parser Bool := do
  if ← isMark mark then advance; return true else return false

def eatWord (word : String) : Parser Bool := do
  if ← isWord word then advance; return true else return false

/-- Stops because another token has to be here. -/
def missing (text : String) : Parser α := do
  let token ← current
  stopAt ("Expected " ++ text ++ " but found `" ++ token.display ++ "`") token.start

def expectMark (mark : String) : Parser Unit := do
  if !(← eatMark mark) then missing ("`" ++ mark ++ "`")

def expectWord (word : String) : Parser Unit := do
  if !(← eatWord word) then missing ("`" ++ word ++ "`")

/-- Reads a mark between items and tells whether there is one; the closing mark may follow too. -/
def separator (mark close : String) : Parser Bool := do
  if ← eatMark mark then return true
  else if ← isMark close then return false
  else if ← isOver then return false
  else missing ("`" ++ mark ++ "` or `" ++ close ++ "`")

/-- Repeats a step at most `n` times. -/
def iterateUpTo (step : σ → Parser (σ ⊕ α)) : Nat → σ → Parser α
  | 0, _ => unexpected
  | n + 1, a => do
    match ← step a with
    | .inl next => iterateUpTo step n next
    | .inr result => return result

/-- Repeats a step that reads at least one token each time but the last. -/
def iterate (step : σ → Parser (σ ⊕ α)) (a : σ) : Parser α := do
  iterateUpTo step ((← get).here.length + 2) a

/-- Reads items up to a closing mark, which is left, with commas between them, and tells where a comma
stands behind the last one. -/
def delimitedBy (close : String) (item : Parser α) : Parser (List α × Option Nat) := closed do
  if (← isMark close) || (← isOver) then return ([], none)
  let first ← item
  iterate (fun found => do
    let place := (← current).start
    if !(← separator "," close) then return .inr (found.reverse, none)
    if ← isMark close then return .inr (found.reverse, some place)
    return .inl ((← item) :: found)) [first]

/-- Reads items up to a closing mark, which is left, with commas between them. -/
def delimited (close : String) (item : Parser α) : Parser (List α) := do
  return (← delimitedBy close item).1

def enclosed (first last : String) (item : Parser (Option α)) : Parser (List α) := do
  expectMark first
  let items ← closed <| iterate (fun found => do
    if (← isMark last) || (← isOver) then return .inr found.reverse
    match ← item with
    | some a => return .inl (a :: found)
    | none => return .inr found.reverse) []
  expectMark last
  return items

def restCommaMessage : String :=
  "A rest parameter or binding pattern may not have a trailing comma."

/-- Items with at most one rest, with where it begins. -/
structure Items (α ρ : Type) where
  items : List α := []
  rest : Option (ρ × Nat) := none

/-- Reads items up to a closing mark, which is left. The last item may be a rest, with three points
in front of it, which `rest` reads. -/
def delimitedWithRest {ρ : Type} (close message : String) (item : Parser α) (rest : Parser ρ) :
    Parser (Items α ρ) := closed <|
  iterate (fun ((isFirst, found) : Bool × Items α ρ) => do
    let finish : Parser ((Bool × Items α ρ) ⊕ Items α ρ) :=
      return .inr { found with items := found.items.reverse }
    if (← isMark close) || (← isOver) then return ← finish
    if !isFirst then
      let place := (← current).start
      if !(← separator "," close) then return ← finish
      if ← isMark close then
        if found.rest.isSome && !(← context).isAmbient then note restCommaMessage place
        return ← finish
    if let some (_, offset) := found.rest then note message offset
    let start := (← current).start
    if ← isMark "..." then
      return .inl (false, { found with rest := some (← rest, start) })
    else return .inl (false, { found with items := (← item) :: found.items })) (true, {})

/-- Whether a statement may end here without a semicolon. -/
def endsStatement : Parser Bool := do
  let token ← current
  return token.newline || token.kind == .finish || token.isMark "\x7d" || token.isMark ";"

def semicolon : Parser Unit := do
  if ← eatMark ";" then return
  if ← endsStatement then return
  stopAt "Expected a semicolon or an implicit semicolon after a statement, but found none"
    (← get).previous

def memberSemicolon : Parser Unit := do
  if ← eatMark ";" then return
  if ← endsStatement then return
  missing "`;`"

def anyWord : Parser Identifier := do
  let token ← current
  if h : token.isName then skip; return token.name h else unexpected

def anyName : Parser String := do return (← anyWord).text

/-- What is said about a word that cannot be the name of a binding. -/
def reservedMessage (word : String) : String :=
  "Identifier expected. '" ++ word ++ "' is a reserved word that cannot be used here."

def checkName (awaits yields : Bool) (token : Token) : Parser Unit := do
  if awaits && token.isWord "await" then
    note "Cannot use `await` as an identifier in an async context" token.start
  if yields && token.isWord "yield" then
    note "Cannot use `yield` as an identifier in a generator context" token.start

/-- Stops unless the token can be the name of a binding. -/
def requireBindable : Parser Unit := do
  let token ← current
  if token.isBindable then
    let c ← context
    checkName c.awaits c.yields token
  else if token.isName && reservedWords.contains token.text then
    stopAt (reservedMessage token.text) token.start
  else unexpected

def bindingWord : Parser Identifier := do
  requireBindable
  anyWord

def bindingName : Parser String := do return (← bindingWord).text

def stringText : Parser String := do
  let token ← current
  if token.isString then advance; return token.text else unexpected

def splitMark (first : String) : Parser Unit :=
  relex (Lexer.mark first)

/-- Puts a mark that begins with `>` together. -/
def joinAngles : Parser Unit := do
  if ← isMark ">" then
    relex fun newline start here =>
      let mark := ([">>>=", ">>>", ">>=", ">>", ">="].find? fun mark =>
        mark.toList.isPrefixOf here).getD ">"
      Lexer.mark mark newline start here

end Parser

end ComponentBundle.Script
