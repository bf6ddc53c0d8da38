import ComponentBundle.Script.Parser.Type

/-!
# Functions and classes
-/
namespace ComponentBundle.Script.Parser

variable (g : Grammar)

/-- Whether a statement is only a string that is not in parentheses. -/
def directive? (stmt : Stmt) : Option String :=
  match stmt.node with
  | .expression (.string text) => some text
  | _ => none

def splitDirectives : List Stmt → List (Nat × Nat × String) × List Stmt
  | [] => ([], [])
  | stmt :: rest =>
    match directive? stmt with
    | some text =>
      let (directives, body) := splitDirectives rest
      ((stmt.start, stmt.stop, text) :: directives, body)
    | none => ([], stmt :: rest)

/-- Reads statements between braces. -/
def block : Parser (List Stmt) :=
  enclosed "\x7b" "\x7d" do return some (← g.statement)

structure FunctionTail where
  function : Function
  params : Parameters
  /-- Where the parameters of its type stand, if there are any. -/
  typeStart : Option Nat
  bodyStart : Nat

/-- Reads the parameters and the body of a function; `start` is where it is said to begin. -/
def functionTail (start : Nat) (name : Option String) (isAsync isGenerator isConstructor : Bool) :
    Parser FunctionTail :=
  within (fun c => { c with
      awaits := isAsync, yields := isGenerator, hasIn := true, isDecorator := false }) do
    let typeStart ← typeParameters g
    let params ← parameters g isConstructor
    discard <| resultAnnotation g
    let found : Function := {
      name, isAsync, isGenerator, params := params.items, rest := params.rest }
    let bodyStart := (← current).start
    if ← isMark "\x7b" then
      let body ← within (fun c => { c with returns := true }) (block g)
      let (directives, body) := splitDirectives body
      let close := (← get).previous - 1
      let function := { found with directives := directives.map (·.2.2), body, close }
      return { function, params, typeStart, bodyStart }
    else
      if !(← isTyped) then stopAt "Expected function body" start
      semicolon
      return { function := { found with hasBody := false }, params, typeStart, bodyStart }

/-- Where a function with a word in front of it stands. -/
inductive FunctionPlace where
  | declaration
  | default
  | expression
  deriving DecidableEq

def functionRule (isAsync : Bool) (place : FunctionPlace) : Parser FunctionTail := do
  let start := (← current).start
  expectWord "function"
  let isGenerator ← eatMark "*"
  let token ← current
  let name ←
    if token.isBindable then
      let c ← context
      if place = .expression then checkName isAsync isGenerator token
      else checkName c.awaits c.yields token
      skip
      pure (some token.text)
    else
      if place = .declaration && !isAsync then note "Expected function name" token.start
      pure none
  functionTail g start name isAsync isGenerator false

/-- Notes that a method which reads or writes a member has other parameters than it can have. -/
def checkAccessor (kind : MethodKind) (params : Parameters) : Parser Unit := do
  if kind = .get && !(params.items.isEmpty && params.rest.isNone) then
    note "A 'get' accessor must not have any formal parameters." params.start
  if kind = .set then
    match params.restStart with
    | some offset => note "A 'set' accessor cannot have rest parameter." offset
    | none =>
      if params.items.length != 1 then
        note "A 'set' accessor must have exactly one parameter." params.start

/-- What stands in front of the key of a member of a class, and the key. -/
structure MemberStart where
  start : Nat
  decorators : List Expr
  words : List Modifier
  key : Key := .name ""
  /-- Where the key stands. -/
  place : Nat := 0

def MemberStart.has (found : MemberStart) (word : String) : Bool :=
  found.words.any fun modifier => modifier.word == word

/-- The name of a member, if it is not computed. -/
def MemberStart.name? (found : MemberStart) : Option String :=
  match found.key with
  | .name text | .string text => some text
  | _ => none

def MemberStart.readKey (found : MemberStart) : Parser MemberStart := do
  let token ← current
  if token.kind == .hidden then
    skip
    if ← isTyped then
      requireAdmitted (modifierWords.filter fun word => !accessWords.contains word)
        (fun _ => "An accessibility modifier cannot be used with a private identifier.") found.words
    return { found with key := .hidden token.text, place := token.start }
  else return { found with key := ← memberKey g, place := token.start }

/-- Notes that a member has a name which no member of its kind can have. -/
def checkMemberName (found : MemberStart) (kind : Option MethodKind) (isGenerator : Bool) :
    Parser Unit := do
  let isStatic := found.has "static"
  match found.key, found.name? with
  | .hidden "constructor", _ =>
    note "Classes can't have an element named '#constructor'" found.place
  | _, some "prototype" =>
    if isStatic then note "Classes may not have a static property named 'prototype'" found.place
  | _, some "constructor" =>
    match kind with
    | none => note "Classes can't have a field named 'constructor'" found.place
    | some kind =>
      if !isStatic then
        if kind = .get || kind = .set then
          note "Constructor can't have get/set modifier" found.place
        if isGenerator then note "Constructor can't be a generator" found.place
        if found.has "async" then note "Constructor can't be an async method" found.place
  | _, _ => pure ()

def memberModifierMessage (word : String) : String :=
  match word with
  | "readonly" =>
    "'readonly' modifier can only appear on a property declaration or index signature."
  | "accessor" => "'accessor' modifier can only appear on a property declaration."
  | "async" => misplacedModifier word
  | _ => "'" ++ word ++ "' modifier cannot appear on class elements of this kind."

def refuseAbstract (found : MemberStart) (what part : String) : Parser Unit := do
  if found.has "abstract" then
    note (what ++ " '" ++ found.name?.getD "" ++ "' cannot have an " ++ part ++
      " because it is marked abstract.") found.place

/-- Reads a method from its parameters on. Without a body it is only a type. -/
def methodRule (found : MemberStart) (kind : MethodKind) (isGenerator : Bool) :
    Parser (Option ClassMember) := do
  let start := (← current).start
  let isAccessor := kind = .get || kind = .set
  let isAsync := found.has "async" && !isAccessor
  let tail ← functionTail g start none isAsync isGenerator (kind = .constructor)
  if tail.function.hasBody then
    refuseAbstract found (if isAccessor then "Accessor" else "Method") "implementation"
  if kind = .constructor then
    tail.params.receiver.forM fun offset =>
      note "A constructor cannot have a `this` parameter." offset
    tail.typeStart.forM fun offset =>
      note "Type parameters cannot appear on a constructor declaration" offset
  checkAccessor kind tail.params
  checkMemberName found (some kind) isGenerator
  requireAdmitted ("static" :: "abstract" :: "override" :: if isAccessor then accessWords
    else "async" :: accessWords) memberModifierMessage found.words
  if tail.function.hasBody then
    return some (.method found.start found.decorators (found.has "static") kind found.key
      tail.function tail.params.assigned)
  else return none

def fieldRule (found : MemberStart) : Parser (Option ClassMember) := do
  discard <| annotation g
  let value ← within (fun c => { c with
      hasIn := true, awaits := false, yields := false, isDecorator := false }) do
    if ← eatMark "=" then return some (← g.value) else return none
  memberSemicolon
  if value.isSome then refuseAbstract found "Property" "initializer"
  checkMemberName found none false
  requireAdmitted ("static" :: "abstract" :: "override" :: "readonly" :: "declare" :: "accessor" :: accessWords)
    memberModifierMessage found.words
  if found.has "declare" || found.has "abstract" then return none
  return some (.field found.start found.decorators (found.has "static") (found.has "accessor")
    found.key value)

def propertyRule (found : MemberStart) : Parser (Option ClassMember) := do
  let isGenerator ← eatMark "*"
  let found ← found.readKey g
  let question ← current
  let isOptional ← if ← isTyped then eatMark "?" else pure false
  if isGenerator || (← isOneOf ["(", "<"]) then
    methodRule g found .method isGenerator
  else
    if (← isTyped) && (← isMark "!") && !(← isNewline) then
      advance
      if isOptional then note "A property cannot be both optional and definite." question.start
    if isOptional && found.has "accessor" then
      note "An 'accessor' property cannot be declared optional." question.start
    fieldRule g found

def isConstructor : Parser Bool := do
  let token ← current
  return token.isWord "constructor" ||
    (token.isString && token.text == "constructor" && (← peek).isMark "(")

/-- Reads a member of a class, which may be only a type. -/
def classMember : Parser (Option ClassMember) := do
  let start := (← current).start
  let found : MemberStart := { start, decorators := ← decorators g, words := ← modifiers true true }
  if (← isWord "static") && (← peek).isMark "\x7b" then
    if !found.decorators.isEmpty then note "Decorators are not valid here." start
    requireAdmitted [] (fun _ => "Modifiers cannot appear here.") found.words
    advance
    let body ← within (fun c => { c with awaits := true, yields := false, returns := false }) (block g)
    return some (.block start body)
  if ← eatModifier "get" then return ← methodRule g (← found.readKey g) .get false
  if ← eatModifier "set" then return ← methodRule g (← found.readKey g) .set false
  if !found.has "static" && (← isConstructor) then
    return ← methodRule g (← found.readKey g) .constructor false
  if (← isTyped) && (← isIndexSignature) then
    indexSignature g start found.words
    return none
  propertyRule g found

def classMembers : Parser (List ClassMember) := do
  let members ← enclosed "\x7b" "\x7d" do
    iterate (fun _ => do
      if ← eatMark ";" then return .inl () else return .inr ()) ()
    if ← isMark "\x7d" then return none
    return some (← classMember g)
  return members.filterMap id

/-- What a class extends and what it implements. -/
structure Heritage where
  /-- What it extends, with where that stands. -/
  bases : List (Expr × Nat) := []
  extendsAt : Option Nat := none
  implementsAt : Option Nat := none

/-- Reads one class that is extended, and its types. -/
def base : Parser (Expr × Nat) := do
  let start := (← current).start
  let found ← g.member
  if (← isTyped) && (← isOneOf ["<", "<<"]) then typeArguments g
  return (found, start)

def heritage : Parser Heritage :=
  iterate (fun found => do
    let token ← current
    if ← eatWord "extends" then
      if found.extendsAt.isSome then note "'extends' clause already seen." token.start
      else if found.implementsAt.isSome then
        note "'extends' clause must precede 'implements' clause." token.start
      let bases ← iterate (fun bases => do
        let bases := (← base g) :: bases
        if ← eatMark "," then return .inl bases else return .inr bases.reverse) []
      return .inl { found with bases, extendsAt := some token.start }
    else if ← eatWord "implements" then
      found.implementsAt.forM fun offset => note "'implements' clause already seen" offset
      iterate (fun _ => do
        typeName
        typeArgumentsHere g
        if ← eatMark "," then return .inl () else return .inr ()) ()
      return .inl { found with implementsAt := some token.start }
    else return .inr found) {}

def classRule (found : List Expr) : Parser Class := do
  expectWord "class"
  within (fun c => { c with isDecorator := false }) do
    let token ← current
    let name ←
      if token.isBindable && !token.isWord "implements" then pure (some (← bindingName))
      else pure none
    discard <| typeParameters g
    let parents ← heritage g
    if let (_, offset) :: _ := parents.bases.drop 1 then
      note "Classes can only extend a single class." offset
    let members ← classMembers g
    return { decorators := found, name, base := parents.bases.head?.map Prod.fst, members }

end ComponentBundle.Script.Parser
