import ComponentBundle.Script.Parser.Grammar

/-!
# Modifiers

Words in front of declarations, members and parameters: when a word is one, which of them stand in
front of which, and what is said about one that is not admitted.
-/
namespace ComponentBundle.Script

/-- A word in front of what it modifies, and where it stands. -/
structure Modifier where
  word : String
  start : Nat
  deriving DecidableEq

namespace Parser

def modifierWords : List String :=
  ["abstract", "accessor", "async", "const", "declare", "default", "export", "in", "out", "override",
    "private", "protected", "public", "readonly", "static"]

/-- The modifiers that say who can see a member. -/
def accessWords : List String := ["public", "private", "protected"]

/-- Whether a token can begin the key of a member that is not computed. -/
def isPlainKey (token : Token) : Bool :=
  match token.kind with
  | .word | .string | .number _ | .bigint | .hidden => true
  | _ => false

def followsModifier (token : Token) : Bool :=
  isPlainKey token || token.isMark "[" || token.isMark "\x7b" || token.isMark "*" ||
    token.isMark "..."

/-- Whether the token can follow `export` where this is a modifier. -/
def followsExport (token : Token) : Bool :=
  token.isMark "@" || (followsModifier token && !token.isMark "*" && !token.isMark "\x7b" &&
    !token.isWord "as")

def followsDefault : Parser Bool := do
  let token ← current
  let next ← peek
  return token.isWord "class" || token.isWord "function" || token.isWord "interface" ||
    token.isMark "@" || (token.isWord "abstract" && next.isWord "class" && !next.newline) ||
    (token.isWord "async" && next.isWord "function" && !next.newline)

/-- Whether the token is a modifier and not a name. -/
def isModifier (admitsConst : Bool) : Parser Bool := do
  let token ← current
  if !(token.isName && modifierWords.contains token.text) then return false
  lookahead do
    skip
    let next ← current
    match token.text with
    | "const" => return admitsConst && !next.newline && followsModifier next
    | "export" =>
      if next.isWord "default" then
        skip
        followsDefault
      else if next.isWord "type" then
        skip
        return followsExport (← current)
      else return followsExport next
    | "default" => followsDefault
    | "static" => return followsModifier next
    | _ => return !next.newline && followsModifier next

def laterModifiers (word : String) : List String :=
  match word with
  | "public" | "private" | "protected" =>
    ["override", "static", "accessor", "readonly", "async", "abstract"]
  | "static" => ["readonly", "async", "accessor", "override"]
  | "override" => ["readonly", "accessor", "async"]
  | "abstract" => ["override", "accessor"]
  | "export" => ["declare", "abstract", "async"]
  | _ => []

def checkModifier (before : List String) (found : Modifier) : Parser Unit := do
  let word := "'" ++ found.word ++ "' modifier "
  if accessWords.contains found.word && before.any accessWords.contains then
    note "Accessibility modifier already seen." found.start
  else if before.contains found.word then note (word ++ "already seen.") found.start
  else if let some later := (laterModifiers found.word).find? before.contains then
    note (word ++ "must precede '" ++ later ++ "' modifier.") found.start

def modifiersWhile (isNext : List Modifier → Parser Bool) : Parser (List Modifier) :=
  iterate (fun found => do
    if ← isNext found then
      let token ← current
      advance
      checkModifier (found.map (·.word)) ⟨token.text, token.start⟩
      return .inl (⟨token.text, token.start⟩ :: found)
    else return .inr found.reverse) []

/-- Reads modifiers. A second `static` is a name, and so is one in front of a block where the block
may be static. -/
def modifiers (admitsConst admitsBlock : Bool) : Parser (List Modifier) :=
  modifiersWhile fun found => do
    let isStatic := (← current).isWord "static"
    if isStatic && found.any (·.word == "static") then return false
    if isStatic && admitsBlock && (← peek).isMark "\x7b" then return false
    isModifier admitsConst

def requireAdmitted (admitted : List String) (message : String → String) (found : List Modifier) :
    Parser Unit :=
  found.forM fun modifier => do
    if !admitted.contains modifier.word then note (message modifier.word) modifier.start

def misplacedModifier (word : String) : String := "'" ++ word ++ "' modifier cannot be used here."

/-- Whether the word is a modifier of a member that is read, and not its name. -/
def eatModifier (word : String) : Parser Bool := do
  if (← isWord word) && followsModifier (← peek) then advance; return true else return false

end Parser

end ComponentBundle.Script
