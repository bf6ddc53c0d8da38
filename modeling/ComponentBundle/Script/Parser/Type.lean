import ComponentBundle.Script.Parser.Binding

/-!
# Types

Types are read and forgotten.
-/
namespace ComponentBundle.Script.Parser

variable (g : Grammar)

/-- Reads what a function results in behind a mark: a type, or what it says about a parameter. -/
def resultType : Parser Unit := within (fun c => { c with hasConditional := true }) do
  let next ← peek
  if (← current).isName && next.isWord "is" && !next.newline then
    advance
    advance
  g.type

/-- Reads the type that a function results in, if it is there. -/
def resultAnnotation : Parser Bool := do
  if !(← isTyped) then return false
  if ← eatMark ":" then resultType g; return true else return false

/-- Whether a parameter can begin here; goes behind its name or pattern. -/
def skipsParameter : Parser Bool := do
  discard <| modifiers false false
  let token ← current
  if token.isBindable || token.isWord "this" then skip; return true
  if token.isMark "[" || token.isMark "\x7b" then
    discard g.pattern
    return true
  return false

def isFunctionType : Parser Bool := do
  let token ← current
  if token.isMark "<" || token.isWord "new" then return true
  if token.isWord "abstract" then return (← peek).isWord "new"
  if !token.isMark "(" then return false
  lookahead do
    advance
    if ← isOneOf [")", "..."] then return true
    if !(← skipsParameter g) then return false
    if ← isOneOf [":", ",", "?", "="] then return true
    if ← eatMark ")" then isMark "=>" else return false

def functionType : Parser Unit := do
  discard <| eatWord "abstract"
  discard <| eatWord "new"
  discard <| typeParameters g
  discard <| parameters g false
  expectMark "=>"
  resultType g

def typeName : Parser Unit := do
  discard anyName
  iterate (fun _ => do
    if ← eatMark "." then discard anyName; return .inl () else return .inr ()) ()

/-- Reads the arguments of a type on the same line, if they are there. -/
def typeArgumentsHere : Parser Unit := do
  if (← isOneOf ["<", "<<"]) && !(← isNewline) then typeArguments g

def importType : Parser Unit := do
  expectWord "import"
  expectMark "("
  g.type
  if ← eatMark "," then
    if !(← isMark ")") then discard g.value
    discard <| eatMark ","
  expectMark ")"
  iterate (fun _ => do
    if ← eatMark "." then discard anyName; return .inl () else return .inr ()) ()
  typeArgumentsHere g

def memberEnd : Parser Unit := do
  if !(← eatMark ",") then discard <| eatMark ";"

def isIndexSignature : Parser Bool := do
  if !(← isMark "[") then return false
  lookahead do
    advance
    if ← isOneOf ["...", "]"] then return true
    let token ← current
    if token.isName && modifierWords.contains token.text && (← peek).isBindable then return true
    if !token.isBindable then return false
    skip
    if ← isOneOf [":", ","] then return true
    if !(← eatMark "?") then return false
    isOneOf [":", ",", "]"]

/-- Reads an index and the type of what is there; `start` is where its modifiers begin. -/
def indexSignature (start : Nat) (words : List Modifier) : Parser Unit := do
  requireAdmitted ["readonly", "static"]
    (fun word => "'" ++ word ++ "' modifier cannot appear on an index signature.") words
  expectMark "["
  let (found, comma) ← delimitedBy "]" do
    discard anyName
    if !(← annotation g) then unexpected (α := Unit)
  comma.forM fun offset =>
    note "Index signature declarations may not have a trailing comma." offset
  if found.length != 1 then note "An index signature must have exactly one parameter." start
  expectMark "]"
  if !(← annotation g) then unexpected (α := Unit)
  memberEnd

def typeMember : Parser Unit := do
  let signature : Parser Unit := do
    discard <| typeParameters g
    discard <| parameters g false
    discard <| resultAnnotation g
    memberEnd
  let start := (← current).start
  if ← isOneOf ["(", "<"] then return ← signature
  let next ← peek
  if (← isWord "new") && (next.isMark "(" || next.isMark "<") then
    advance
    return ← signature
  let words ← modifiers false false
  let check : Parser Unit :=
    requireAdmitted ["readonly"] (fun word => "'" ++ word ++ "' modifier cannot appear on a type member") words
  let isAccessor ← if ← eatModifier "get" then pure true else eatModifier "set"
  if isAccessor then
    discard <| memberKey g
    check
    return ← signature
  if ← isIndexSignature then return ← indexSignature g start words
  discard <| memberKey g
  discard <| eatMark "?"
  check
  if ← isOneOf ["(", "<"] then return ← signature
  discard <| annotation g
  memberEnd

def typeMembers : Parser Unit := do
  discard <| enclosed "\x7b" "\x7d" do
    typeMember g
    return some ()

def isMappedType : Parser Bool := lookahead do
  advance
  if ← isOneOf ["+", "-"] then
    advance
    return ← isWord "readonly"
  discard <| eatWord "readonly"
  if !(← eatMark "[") then return false
  if !(← current).isName then return false
  advance
  isWord "in"

def sign : Parser Unit := do
  if !(← eatMark "+") then discard <| eatMark "-"

def mappedType : Parser Unit := do
  expectMark "\x7b"
  sign
  discard <| eatWord "readonly"
  expectMark "["
  discard anyName
  expectWord "in"
  g.type
  if ← eatWord "as" then g.type
  expectMark "]"
  sign
  discard <| eatMark "?"
  discard <| annotation g
  discard <| eatMark ";"
  expectMark "\x7d"

def tupleItem : Parser Unit := do
  discard <| eatMark "..."
  let isNamed ← lookahead do
    discard anyName
    discard <| eatMark "?"
    isMark ":"
  if isNamed then
    discard anyName
    discard <| eatMark "?"
    expectMark ":"
    discard <| eatMark "..."
    g.type
  else
    g.type
    discard <| eatMark "?"

def templateType : Parser Unit := do
  let isWhole (token : Token) : Bool := token.kind != .template false
  if isWhole (← current) then advance
  else
    advance
    iterate (fun _ => do
      g.type
      if !(← isMark "\x7d") then expectMark "\x7d"
      relex Lexer.template
      let token ← current
      if token.kind == .unknown then unexpected
      advance
      if isWhole token then return .inr () else return .inl ()) ()

/-- The words for types that take no arguments. In front of a dot they are names like others. -/
def typeWords : List String :=
  ["any", "bigint", "boolean", "never", "number", "object", "string", "symbol", "undefined", "unknown"]

/-- Reads a type without an operator, and tells whether it is a tuple. -/
def plainType : Parser Bool := do
  let token ← current
  match token.kind with
  | .string | .number _ | .bigint => advance
  | .template _ => templateType g
  | .word =>
    if token.text == "typeof" then
      advance
      if ← isWord "import" then importType g
      else
        typeName
        typeArgumentsHere g
    else if token.text == "import" then importType g
    else if token.text == "void" || token.text == "null" || token.text == "true" ||
        token.text == "false" then
      advance
    else if token.text == "this" then
      advance
      if (← isWord "is") && !(← isNewline) then
        advance
        g.type
    else
      let next ← peek
      if token.text == "asserts" && next.isName && !next.newline then
        advance
        discard anyName
        if ← eatWord "is" then g.type
      else if typeWords.contains token.text && !next.isMark "." then discard anyName
      else
        typeName
        typeArgumentsHere g
  | .mark =>
    if token.text == "-" then
      advance
      if (← current).isNumber || (← current).kind == .bigint then advance else unexpected
    else if token.text == "?" then
      advance
      if !(← isOneOf [",", "\x7d", ")", ">", "=", "|"]) then g.type
    else if token.text == "\x7b" then
      if ← isMappedType then mappedType g else typeMembers g
    else if token.text == "[" then
      advance
      discard <| delimited "]" (tupleItem g)
      expectMark "]"
      return true
    else if token.text == "(" then
      advance
      within (fun c => { c with hasConditional := true }) g.type
      expectMark ")"
    else unexpected
  | _ => unexpected
  return false

/-- Whether a type begins with the token, which is not a parenthesis or a sign. -/
def beginsPlainType (token : Token) : Bool :=
  match token.kind with
  | .mark => ["\x7b", "[", "<", "|", "&", "*", "?", "!", "..."].contains token.text
  | .word =>
    token.isBindable || ["void", "null", "this", "typeof", "new", "true", "false", "import",
      "function"].contains token.text
  | .string | .number _ | .bigint | .template _ => true
  | .finish | .unknown | .hidden => false

def beginsType : Parser Bool := lookahead do
  let isNumeral (token : Token) : Bool := token.isNumber || token.kind == .bigint
  if ← isMark "-" then return isNumeral (← peek)
  let depth ← iterate (fun depth => do
    if ← eatMark "(" then return .inl (depth + 1) else return .inr depth) 0
  if depth > 0 && (← isOneOf [")", "@"]) then return true
  if ← isMark "-" then return isNumeral (← peek)
  return beginsPlainType (← current)

/-- Reads a type with the indices and marks behind it, and tells whether it is one of arrays or a
tuple. A mark of what may be absent is left where a type behind it can begin. -/
def indexedType : Parser Bool := do
  let mayBeAbsent ← isMark "!"
  if mayBeAbsent then advance
  let isTuple ← plainType g
  iterate (fun isList => do
    if ← isNewline then return .inr isList
    if ← eatMark "!" then return .inl false
    if ← isMark "?" then
      let begins ← lookahead do
        advance
        beginsType
      if begins then return .inr isList
      advance
      return .inl false
    if ← eatMark "[" then
      let hasIndex ← beginsType
      if hasIndex then g.type
      expectMark "]"
      return .inl !hasIndex
    else return .inr isList) (isTuple && !mayBeAbsent)

/-- Reads a type and the words in front of it. Only arrays and tuples can be made unchangeable. -/
def operatorType : Parser Unit :=
  iterate (fun (place : Option Nat) => do
    let token ← current
    let refuse : Parser Unit := place.forM fun offset =>
      note "'readonly' type modifier is only permitted on array and tuple literal types." offset
    if token.isWord "keyof" || token.isWord "unique" || token.isWord "readonly" then
      advance
      refuse
      return .inl (if token.text == "readonly" then some token.start else none)
    else if token.isWord "infer" then
      advance
      discard bindingName
      if ← isWord "extends" then
        let hasConditional := (← context).hasConditional
        discard <| attempt do
          advance
          within (fun c => { c with hasConditional := false }) g.type
          if hasConditional && (← isMark "?") then unexpected (α := Unit)
      refuse
      return .inr ()
    else
      if !(← indexedType g) then refuse
      return .inr ()) none

/-- Reads types with a mark between them, which may also stand in front. -/
def typesBetween (mark : String) (part : Parser Unit) : Parser Unit := do
  discard <| eatMark mark
  part
  iterate (fun _ => do
    if ← eatMark mark then part; return .inl () else return .inr ()) ()

def typeRule : Parser Unit := do
  if ← isFunctionType g then functionType g
  else
    let part : Parser Unit := do
      if ← isFunctionType g then functionType g else operatorType g
    typesBetween "|" (typesBetween "&" part)
    if (← context).hasConditional && (← isWord "extends") && !(← isNewline) then
      advance
      within (fun c => { c with hasConditional := false }) g.type
      expectMark "?"
      g.type
      expectMark ":"
      g.type

end ComponentBundle.Script.Parser
