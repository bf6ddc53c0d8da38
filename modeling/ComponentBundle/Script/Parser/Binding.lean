import ComponentBundle.Script.Parser.Modifier

/-!
# Patterns, parameters and the types beside them

What binds names: patterns of declarations and the parameters of functions.
-/
namespace ComponentBundle.Script.Parser

variable (g : Grammar)

def memberKey : Parser Key := do
  let token ← current
  match token.kind with
  | .word => skip; return .name token.text
  | .string => skip; return .string token.text
  | .number value => skip; return .number value
  | .bigint => skip; return .name (String.ofList (token.text.toList.dropLast))
  | _ =>
    if ← eatMark "[" then
      let key ← closed g.value
      expectMark "]"
      return .computed key
    else unexpected

/-- Reads a type behind a colon, if there is one. -/
def annotation : Parser Bool := do
  if !(← isTyped) then return false
  if ← eatMark ":" then
    within (fun c => { c with hasConditional := true }) g.type
    return true
  else return false

def typeArguments : Parser Unit := do
  let start := (← current).start
  if ← isMark "<<" then splitMark "<"
  expectMark "<"
  let found ← delimited ">" g.type
  expectMark ">"
  if found.isEmpty then note "Type argument list cannot be empty." start

def typeParameter : Parser Unit := do
  requireAdmitted ["in", "out", "const"]
    (fun word => "'" ++ word ++ "' modifier cannot appear on a type parameter")
    (← modifiers true false)
  discard bindingName
  if ← eatWord "extends" then g.type
  if ← eatMark "=" then g.type

/-- Reads the parameters of a type if they are there, and tells where. -/
def typeParameters : Parser (Option Nat) := do
  if !(← isTyped) then return none
  let start := (← current).start
  if ← eatMark "<" then
    let found ← delimited ">" (typeParameter g)
    expectMark ">"
    if found.isEmpty then note "Type parameter list cannot be empty." start
    return some start
  else return none

/-- Reads a default value behind a pattern, if there is one. -/
def withDefault (pattern : Pattern) : Parser Pattern := do
  if ← eatMark "=" then return .default pattern (← g.value) else return pattern

def element : Parser Pattern := do withDefault g (← g.pattern)

def patternField : Parser Field := do
  let token ← current
  let key ← memberKey g
  match key, token.isBindable && !(← isMark ":") with
  | .name text, true =>
    let c ← context
    checkName c.awaits c.yields token
    return ⟨key, true, ← withDefault g (.ident text)⟩
  | _, _ =>
    expectMark ":"
    return ⟨key, false, ← element g⟩

/-- What is said about a rest that is not the last part of a pattern. -/
def restPatternMessage : String := "A rest element must be last in a destructuring pattern"

def restParameterMessage : String := "A rest parameter must be last in a parameter list"

/-- Reads what gathers the rest of a value or of the arguments, which has no default, from its points
on, and tells where it stands behind them. -/
def restElement (isParameter : Bool) : Parser (Pattern × Nat) := do
  expectMark "..."
  let start := (← current).start
  let pattern ← g.pattern
  if isParameter && (← isTyped) then
    if ← isMark "?" then
      note "A rest parameter cannot be optional" (← current).start
      advance
    discard <| annotation g
  let hasDefault ← isMark "="
  let pattern ← withDefault g pattern
  if hasDefault then note "A rest element cannot have an initializer." start
  return (pattern, start)

def patternRule : Parser Pattern := do
  if ← eatMark "\x7b" then
    let found ← delimitedWithRest "\x7d" restPatternMessage (patternField g) (restElement g false)
    match found.rest with
    | none | some ((.ident _, _), _) => pure ()
    | some ((_, start), _) => note "Invalid rest element" start
    expectMark "\x7d"
    return .object found.items (found.rest.map (·.1.1))
  else if ← eatMark "[" then
    let item : Parser (Option Pattern) := do
      if ← isMark "," then return none else return some (← element g)
    let found ← delimitedWithRest "]" restPatternMessage item (restElement g false)
    expectMark "]"
    return .array found.items (found.rest.map (·.1.1))
  else return .ident (← bindingName)

/-- The parameters of a function. -/
structure Parameters where
  items : List Pattern
  rest : Option Pattern
  /-- Names of parameters that become members. -/
  assigned : List String := []
  /-- Where their opening mark stands. -/
  start : Nat
  restStart : Option Nat := none
  receiver : Option Nat := none

/-- The name that a pattern binds, if it is one. -/
def boundName? : Pattern → Option String
  | .ident name => some name
  | .default (.ident name) _ => some name
  | _ => none

def decorator : Parser Expr := do
  expectMark "@"
  within (fun c => { c with isDecorator := true }) g.member

def decorators : Parser (List Expr) :=
  iterate (fun found => do
    if ← isMark "@" then return .inl ((← decorator g) :: found) else return .inr found.reverse) []

/-- Reads a parameter: its pattern and whether it becomes a member, as one of a constructor can. -/
def parameter (isConstructor : Bool) : Parser (Pattern × Bool) := do
  let start := (← current).start
  discard <| decorators g
  let words ← modifiers false false
  if ← isTyped then
    requireAdmitted (if isConstructor then "readonly" :: "override" :: accessWords else [])
      (fun word => "'" ++ word ++ "' modifier cannot appear on a parameter.") words
  else requireAdmitted [] (fun _ => "Parameter modifiers can only be used in TypeScript files.") words
  let pattern ← g.pattern
  match pattern with
  | .ident _ => pure ()
  | _ =>
    if isConstructor && !words.isEmpty then
      note "A parameter property may not be declared using a binding pattern." start
  if ← isTyped then
    discard <| eatMark "?"
    discard <| annotation g
  return (← withDefault g pattern, !words.isEmpty)

def parameters (isConstructor : Bool) : Parser Parameters := do
  let start := (← current).start
  expectMark "("
  let token ← current
  let receiver ←
    if (← isTyped) && token.isWord "this" then
      advance
      discard <| annotation g
      if !(← isMark ")") then expectMark ","
      pure (some token.start)
    else pure none
  let found ← withIn <| delimitedWithRest ")" restParameterMessage (parameter g isConstructor)
    (restElement g true)
  expectMark ")"
  return {
    items := found.items.map Prod.fst
    rest := found.rest.map (·.1.1)
    assigned := found.items.filterMap fun (pattern, isMember) =>
      if isMember then boundName? pattern else none
    start
    restStart := found.rest.map Prod.snd
    receiver }

end ComponentBundle.Script.Parser
