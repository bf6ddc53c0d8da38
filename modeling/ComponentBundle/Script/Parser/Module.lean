import ComponentBundle.Script.Parser.Declaration

/-!
# Imports and exports
-/
namespace ComponentBundle.Script.Parser

variable (g : Grammar)

def noteExport (name : String) (offset : Nat) : Parser Unit :=
  modify fun s => { s with exports := s.exports ++ [(name, offset)] }

def moduleName : Parser WrittenName := do
  let token ← current
  if token.isString then
    return ⟨{ text := ← stringText, isString := true, start := token.start }, nofun⟩
  else
    let word ← anyWord
    return ⟨{ text := word.text, start := token.start }, fun _ => word.isPlain⟩

/-- Whether the token can be a name that a module gives to others. -/
def isModuleName : Parser Bool := do
  let token ← current
  return token.isString || token.isName

/-- The first places of names that stand in the list again, in the order of the second time; `seen`
holds what stands in front of it. -/
def repeatedNames (seen : List (String × Nat)) : List (String × Nat) → List (String × Nat)
  | [] => []
  | found :: rest =>
    match seen.find? fun other => other.1 == found.1 with
    | some first => first :: repeatedNames seen rest
    | none => repeatedNames (found :: seen) rest

/-- Reads the attributes behind the source of an import. -/
def attributesRule : Parser (Option ImportAttributes) := do
  let token ← current
  if token.isWord "with" || (token.isWord "assert" && !token.newline) then
    advance
    expectMark "\x7b"
    let entries ← delimited "\x7d" do
      let place := (← current).start
      let key ← moduleName
      expectMark ":"
      let value ← current
      if !value.isString then
        stopAt "Only string literals are allowed as module attribute values." value.start
      return (key.val, ← stringText, place)
    expectMark "\x7d"
    (repeatedNames [] (entries.map fun (key, _, place) => (key.text, place))).forM
      fun (name, place) => note ("Identifier `" ++ name ++ "` has already been declared") place
    return some ⟨token.text, entries.map fun (key, value, _) => (key, value)⟩
  else return none

/-- A name of an import or an export: whether it is only a type, and the names on both sides of its
`as`, if there is one. -/
structure Specifier where
  isType : Bool
  first : WrittenName
  second : Option WrittenName
  /-- Where the last of the names stands. -/
  offset : Nat

/-- Reads a name of an import or an export. -/
def specifier : Parser Specifier := do
  let token ← current
  let first ← moduleName
  let as_ : WrittenName := ⟨{ text := "as" }, by decide⟩
  let place : Parser Nat := do return (← current).start
  let behind (isType : Bool) (first : WrittenName) (offset : Nat) : Parser Specifier := do
    if ← eatWord "as" then
      let offset ← place
      return ⟨isType, first, some (← moduleName), offset⟩
    else return ⟨isType, first, none, offset⟩
  if (← isTyped) && token.isWord "type" then
    if ← isWord "as" then
      let start ← place
      advance
      if ← isWord "as" then
        let second ← place
        advance
        if ← isModuleName then
          let offset ← place
          return ⟨true, as_, some (← moduleName), offset⟩
        else return ⟨false, first, some as_, second⟩
      else if ← isModuleName then
        let offset ← place
        return ⟨false, first, some (← moduleName), offset⟩
      else return ⟨true, as_, none, start⟩
    else if ← isModuleName then
      let offset ← place
      behind true (← moduleName) offset
    else return ⟨false, first, none, token.start⟩
  else behind false first token.start

/-- Reads a name of an import, possibly of one of types alone. -/
def importSpecifier (isType : Bool) : Parser ImportBinding := do
  let start := (← current).start
  let found ← specifier
  let name := found.second.getD found.first
  if name.val.isString then note "Identifier expected." found.offset
  else if reservedWords.contains name.val.text then
    note (reservedMessage name.val.text) found.offset
  if isType && found.isType then
    note ("The 'type' modifier cannot be used on a named import when 'import type' is used on its " ++
      "import statement.") start
  return .named found.first name.word found.isType

def importNames (isType : Bool) : Parser (List ImportBinding) := do
  expectMark "\x7b"
  let names ← delimited "\x7d" (importSpecifier isType)
  expectMark "\x7d"
  return names

def importBindings (isType : Bool) : Parser (List ImportBinding) := do
  if ← eatMark "*" then
    expectWord "as"
    return [.whole (← bindingWord)]
  else importNames isType

/-- Reads an import behind its word, which stands at `start`. -/
def importRest (start : Nat) : Parser Node := do
  let first ← current
  let mut isType := false
  let mut name : Option (Identifier × Nat) := none
  if first.isBindable then
    name := some (← bindingWord, first.start)
    if (← isTyped) && first.isWord "type" then
      let token ← current
      let isFrom := token.isWord "from" && !(← peek).isWord "from"
      if token.isMark "\x7b" || token.isMark "*" || (token.isBindable && !isFrom) then
        isType := true
        name := none
        if token.isBindable then name := some (← bindingWord, token.start)
  if let some (found, _) := name then
    if ← isMark "=" then
      if !(← isTyped) then note "'import ... =' can only be used in TypeScript files." start
      return ← importEqualsRule isType found.text
  let bindings ←
    match name with
    | none =>
      if (← current).isString then pure none
      else
        let found ← if ← isOneOf ["*", "\x7b"] then importBindings isType else pure []
        expectWord "from"
        pure (some found)
    | some (first, offset) =>
      let others ←
        if ← eatMark "," then
          if ← isOneOf ["*", "\x7b"] then importBindings isType else unexpected
        else pure []
      if isType && !others.isEmpty then
        note ("A type-only import can specify a default import or named bindings, but not both.")
          offset
      expectWord "from"
      pure (some (.default first :: others))
  let source ← stringText
  let attributes ← attributesRule
  semicolon
  return .importDecl isType bindings source attributes

def importDeclaration : Parser Node := do
  let start := (← current).start
  expectWord "import"
  importRest start

def keptWords : List String :=
  ["implements", "interface", "package", "private", "protected", "public", "static"]

/-- Notes that what is exported under a name has to have a name that a binding can have. -/
def requireReference (found : Specifier) : Parser Unit := do
  if found.first.val.isString then
    note ("A string literal cannot be used as an exported binding without `from`") found.offset
  else if reservedWords.contains found.first.val.text || keptWords.contains found.first.val.text then
    note ("A reserved word cannot be used as an exported binding without `from`") found.offset

def exportNames (isType : Bool) : Parser Node := do
  expectMark "\x7b"
  let names ← delimited "\x7d" do
    let start := (← current).start
    let found ← specifier
    if isType && found.isType then
      note ("The 'type' modifier cannot be used on a named export when 'export type' is used on " ++
        "its export statement.") start
    return found
  expectMark "\x7d"
  let source ← if ← eatWord "from" then pure (some (← stringText)) else pure none
  let attributes ← if source.isSome then attributesRule else pure none
  if source.isNone then names.forM requireReference
  semicolon
  names.forM fun found => noteExport (found.second.getD found.first).val.text found.offset
  return .exportNames isType
    (names.map fun found => ⟨found.first.val, (found.second.getD found.first).val, found.isType⟩)
    source attributes

def exportAll (isType : Bool) : Parser Node := do
  expectMark "*"
  let name ←
    if ← eatWord "as" then
      let start := (← current).start
      let name ← moduleName
      noteExport name.val.text start
      pure (some name.val)
    else pure none
  expectWord "from"
  let source ← stringText
  let attributes ← attributesRule
  semicolon
  return .exportAll isType name source attributes

/-- Reads the decorators behind `export`, where there may be none if others stand in front of it. -/
def exportDecorators (found : List Expr) : Parser (List Expr) := do
  let start := (← current).start
  let behind ← decorators g
  if !found.isEmpty && !behind.isEmpty then
    note ("Decorators may not appear after 'export' or 'export default' if they also appear " ++
      "before 'export'.") start
  return found ++ behind

def exportDefault (found : List Expr) : Parser Node := do
  let token ← current
  expectWord "default"
  noteExport "default" token.start
  let start := (← current).start
  let wrap (node : Node) : Parser Node := do
    return .exportDefaultDecl (.mk start (← get).previous node)
  let function (isAsync : Bool) : Parser Node := do
    let found := (← functionRule g isAsync .default).function
    wrap (if found.hasBody then .functionDecl found else .erased [] [])
  let first ← current
  let next ← peek
  if first.isWord "class" || first.isMark "@" then
    wrap (.classDecl (← classRule g (← exportDecorators g found)))
  else if first.isWord "function" then function false
  else if first.isWord "async" && next.isWord "function" && !next.newline then
    advance
    function true
  else if (← isTyped) && first.isWord "abstract" && next.isWord "class" && !next.newline then
    advance
    wrap (.classDecl (← classRule g found))
  else if (← isTyped) && first.isWord "interface" && next.isBindable && !next.newline then
    wrap (← interfaceRule g)
  else
    let value ← g.value
    semicolon
    return .exportDefault value

def exportDeclaration (found : List Expr) : Parser Node := do
  let start := (← current).start
  let found ← declaration g (← exportDecorators g found) start
  found.names.forM fun (name, offset) => noteExport name offset
  return .exportDecl (.mk start (← get).previous found.node)

def exportRule (found : List Expr) : Parser Node := do
  expectWord "export"
  let token ← current
  let next ← peek
  let typed ← isTyped
  if token.isMark "\x7b" then exportNames false
  else if token.isMark "*" then exportAll false
  else if token.isWord "default" then exportDefault g found
  else if typed && token.isMark "=" then
    advance
    let value ← g.expression
    semicolon
    return .exportAssign value
  else if typed && token.isWord "as" && next.isWord "namespace" then
    advance
    advance
    discard bindingName
    semicolon
    return .exportDecl (.mk token.start (← get).previous (.erased [] []))
  else if typed && token.isWord "type" && next.isMark "\x7b" then
    advance
    exportNames true
  else if typed && token.isWord "type" && next.isMark "*" then
    advance
    exportAll true
  else if token.isWord "import" then
    advance
    match ← importRest token.start with
    | .importEquals isType name path source =>
      return .exportDecl (.mk token.start (← get).previous (.importEquals isType name path source))
    | _ => stopAt "Unexpected export." token.start
  else exportDeclaration g found

end ComponentBundle.Script.Parser
