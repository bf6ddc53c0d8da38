import ComponentBundle.Script.Parser.Function

/-!
# Declarations
-/
namespace ComponentBundle.Script.Parser

variable (g : Grammar)

structure Declared where
  node : Node
  names : List (String × Nat) := []

/-- Whether an initial value may be missing because of where a declaration stands. -/
inductive DeclarationPlace where
  | statement
  | loop
  deriving DecidableEq

def requireInitial (word : String) (pattern : Pattern) (start : Nat) : Parser Unit := do
  if (← context).isAmbient then return
  match pattern with
  | .ident _ =>
    if word == "const" then note "Missing initializer in const declaration" start
  | _ => note "Missing initializer in destructuring declaration" start

/-- Reads the mark that a variable is given a value before it is used, and tells where it stands. -/
def definiteMark (pattern : Pattern) : Parser (Option Nat) := do
  let token ← current
  match pattern with
  | .ident _ =>
    if (← isTyped) && token.isMark "!" && !token.newline then advance; return some token.start
    else return none
  | _ => return none

/-- Reads a declared name or pattern, and its initial value. -/
def declarator (word : String) (place : DeclarationPlace) :
    Parser (Pattern × Option Expr × Nat) := do
  let start := (← current).start
  let pattern ← g.pattern
  let definite ← definiteMark pattern
  let hasType ← annotation g
  let value ←
    if ← eatMark "=" then
      let value ← if place = .statement then g.value else g.assignment true
      pure (some value)
    else pure none
  if let some offset := definite then
    if value.isSome then
      note "Declarations with initializers cannot also have definite assignment assertions." offset
    else if !hasType then
      note "Declarations with definite assignment assertions must also have type annotations." offset
  if place = .statement && value.isNone then requireInitial word pattern start
  return (pattern, value, start)

def declarators (word : String) (place : DeclarationPlace) : Parser Declared := do
  let found ← iterate (fun found => do
    let found := (← declarator g word place) :: found
    if ← eatMark "," then return .inl found else return .inr found.reverse) []
  return {
    node := .variable word (found.map fun (pattern, value, _) => (pattern, value))
    names := found.filterMap fun (pattern, _, start) =>
      (boundName? pattern).map fun name => (name, start) }

def variableRule : Parser Declared := do
  let token ← current
  advance
  modify fun s => { s with declared := (token.start, s.token.start) :: s.declared }
  let found ← declarators g token.text .statement
  semicolon
  return found

/-- Whether a declaration of resources begins here, which are given back at the end of its block. -/
def isUsing : Parser Bool := do
  let token ← current
  let isName (token : Token) : Bool := token.isBindable && !token.newline
  if token.isWord "using" then return isName (← peek)
  if !(token.isWord "await") then return false
  lookahead do
    skip
    let word ← current
    if !(word.isWord "using") || word.newline then return false
    return isName (← peek)

/-- Reads declarations of resources. Only in a loop may they have no initial value. -/
def usingRule (place : DeclarationPlace) : Parser Declared := do
  let isAwait ← eatWord "await"
  expectWord "using"
  let found ← iterate (fun found => do
    let (pattern, value, start) ← declarator g "using" .loop
    match pattern with
    | .ident _ => pure ()
    | _ => note "Using declarations may not have destructuring patterns." start
    if value.isNone && place = .statement then
      note "Using declarations must have an initializer." start
    let found := (pattern, value) :: found
    if ← eatMark "," then return .inl found else return .inr found.reverse) []
  return ⟨.variable (if isAwait then "await using" else "using") found, []⟩

/-- The names that a declaration gives to values, if they exist elsewhere. -/
def erasedValues (found : Declared) : Node := .erased [] (found.names.map Prod.fst)

/-- Reads a function that is declared; without a body it only gives the type of one. -/
def declaredFunction (words : List Modifier) : Parser Declared := do
  let isAsync ← eatWord "async"
  let next ← peek
  let start ← if next.isMark "*" then pure (next.stop + 1) else pure next.start
  let isAsync := isAsync || words.any (·.word == "async")
  let tail ← functionRule g isAsync .declaration
  if tail.function.hasBody && words.any (·.word == "declare") then
    note "An implementation cannot be declared in ambient contexts." tail.bodyStart
  requireAdmitted ["declare", "async"] misplacedModifier words
  let found := tail.function
  let names := (found.name.map fun name => (name, start)).toList
  if found.hasBody then return ⟨.functionDecl found, names⟩
  else return ⟨.erased [] found.name.toList, names⟩

def declaredClass (found : List Expr) (words : List Modifier) : Parser Declared := do
  let next ← peek
  let value ← classRule g found
  requireAdmitted ["declare", "abstract"] misplacedModifier words
  return ⟨.classDecl value, (value.name.map fun name => (name, next.start)).toList⟩

def aliasRule : Parser Node := do
  expectWord "type"
  let name ← bindingName
  discard <| typeParameters g
  expectMark "="
  g.type
  semicolon
  return .erased [name] []

def isQualifiedName : Expr → Bool
  | .ident _ => true
  | .member base _ false => isQualifiedName base
  | _ => false

def interfaceRule : Parser Node := do
  expectWord "interface"
  let name ← bindingName
  discard <| typeParameters g
  let parents ← heritage g
  typeMembers g
  parents.bases.forM fun (base, offset) => do
    if !isQualifiedName base then
      note ("An interface can only extend an identifier/qualified-name with optional type " ++
        "arguments.") offset
  parents.implementsAt.forM fun offset =>
    note "Interface declaration cannot have 'implements' clause." offset
  return .erased [name] []

/-- Reads the name of a member of an enumeration, which cannot be a number or computed. -/
def enumKey : Parser Key := do
  let token ← current
  let computed := "Computed property names are not allowed in enums."
  let numeric := "An enum member cannot have a numeric name."
  match token.kind with
  | .number _ | .bigint => stopAt numeric token.start
  | .template _ => stopAt computed token.start
  | _ =>
    let inner ← peek
    match ← memberKey g with
    | .computed (.string text) | .computed (.template [text] []) => return .string text
    | .computed (.number _) => stopAt numeric inner.start
    | .computed _ => stopAt computed inner.start
    | key => return key

def enumMember : Parser (Key × Option Expr) := do
  let key ← enumKey g
  if ← eatMark "=" then return (key, some (← g.value)) else return (key, none)

def enumRule : Parser Declared := do
  expectWord "enum"
  let start := (← current).start
  let name ← bindingName
  expectMark "\x7b"
  let members ← delimited "\x7d" (enumMember g)
  expectMark "\x7d"
  return ⟨.enumDecl name members, [(name, start)]⟩

def namespaceRule : Parser Declared := do
  let word ← anyName
  if word == "global" then
    discard (block g)
    return ⟨.erased [] [], []⟩
  if (← current).isString then
    advance
    if ← isMark "\x7b" then
      discard <| within (fun c => { c with isAmbient := true }) (block g)
    else semicolon
    return ⟨.erased [] [], []⟩
  let start := (← current).start
  let names ← iterate (fun found => do
    let found := (← bindingName) :: found
    if ← eatMark "." then return .inl found else return .inr found) []
  let body ← within (fun c => { c with awaits := false }) (block g)
  let stop := (← get).previous
  match names with
  | [] => unexpected
  | last :: outer =>
    return {
      node := outer.foldl (fun inner name =>
        .namespaceDecl name [.mk start stop (.exportDecl (.mk start stop inner))])
        (.namespaceDecl last body)
      names := [(names.getLastD last, start)] }

/-- Reads a member of a namespace or of a module of another form under a name. -/
def importEqualsRule (isType : Bool) (name : String) : Parser Node := do
  expectMark "="
  if (← isWord "require") && (← peek).isMark "(" then
    advance
    advance
    let source ← stringText
    expectMark ")"
    semicolon
    return .importEquals isType name [] (some source)
  else
    let path ← iterate (fun found => do
      let found := (← anyName) :: found
      if ← eatMark "." then return .inl found else return .inr found.reverse) []
    semicolon
    return .importEquals isType name path none

def isDeclarationModifier : Parser Bool := do
  let token ← current
  if !(token.isName && modifierWords.contains token.text) then return false
  match token.text with
  | "const" =>
    let next ← peek
    return next.isWord "enum" && !next.newline
  | "accessor" | "static" | "readonly" => return followsModifier (← peek)
  | _ => isModifier false

def beginsTypedDeclaration : Parser Bool := lookahead <|
  iterate (fun _ => do
    let token ← current
    if !token.isName then return .inr false
    match token.text with
    | "var" | "let" | "const" | "function" | "class" | "enum" => return .inr true
    | "interface" | "type" =>
      advance
      let next ← current
      return .inr (next.isBindable && !next.newline)
    | "module" | "namespace" =>
      advance
      let next ← current
      return .inr ((next.isBindable || next.isString) && !next.newline)
    | "abstract" | "accessor" | "async" | "declare" | "private" | "protected" | "public"
    | "readonly" =>
      advance
      if ← isNewline then return .inr false else return .inl ()
    | "global" =>
      advance
      let next ← current
      return .inr (next.isMark "\x7b" || next.isBindable || next.isWord "export")
    | "import" =>
      advance
      let next ← current
      return .inr (next.isString || next.isMark "*" || next.isMark "\x7b" || next.isName)
    | "export" =>
      advance
      if ← isWord "type" then advance
      let next ← current
      if next.isMark "=" || next.isMark "*" || next.isWord "default" || next.isMark "\x7b" ||
          next.isMark "@" || next.isWord "as" then
        return .inr true
      else return .inl ()
    | "static" => advance; return .inl ()
    | _ => return .inr false) ()

def declarationBody (found : List Expr) (words : List Modifier) : Parser Declared := do
  let token ← current
  let next ← peek
  if !token.isName then unexpected
  let requireDeclare (admitted : List String) : Parser Unit :=
    requireAdmitted ("declare" :: admitted) misplacedModifier words
  match token.text with
  | "var" | "let" | "const" =>
    let declared ← variableRule g
    requireDeclare []
    return declared
  | "function" => declaredFunction g words
  | "async" =>
    if next.isWord "function" && !next.newline then declaredFunction g words else unexpected
  | "class" => declaredClass g found words
  | text =>
    if !(← isTyped) then unexpected
    match text with
    | "type" =>
      let node ← aliasRule g
      requireDeclare []
      return ⟨node, []⟩
    | "interface" =>
      let node ← interfaceRule g
      requireDeclare []
      return ⟨node, []⟩
    | "enum" =>
      let declared ← enumRule g
      requireDeclare ["const"]
      return declared
    | "namespace" | "module" | "global" =>
      let declared ← namespaceRule g
      requireDeclare []
      return declared
    | "import" =>
      advance
      let name ← bindingName
      return ⟨← importEqualsRule false name, []⟩
    | _ => unexpected

/-- Reads a declaration with its modifiers; `start` is where its decorators begin, which only a class
can have. What is declared to exist elsewhere leaves its names. -/
def declaration (found : List Expr) (start : Nat) : Parser Declared := do
  let words ← if ← isTyped then modifiersWhile fun _ => isDeclarationModifier else pure []
  if !found.isEmpty && !(← isWord "class") then note "Decorators are not valid here." start
  if words.any (·.word == "declare") then
    let inner ← within (fun c => { c with isAmbient := true, awaits := false })
      (declarationBody g found words)
    match inner.node with
    | .erased types values => return ⟨.erased types values, inner.names⟩
    | _ => return ⟨erasedValues inner, inner.names⟩
  else if words.isEmpty then declarationBody g found words
  else within (fun c => { c with awaits := false }) (declarationBody g found words)

end ComponentBundle.Script.Parser
