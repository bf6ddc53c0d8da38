import ComponentBundle.Script.Parser.Function
import ComponentBundle.Script.Parser.Markup
import ComponentBundle.Script.Parser.Target

/-!
# Expressions
-/
namespace ComponentBundle.Script.Parser

variable (g : Grammar)

def isOperand (token : Token) : Bool :=
  !token.newline && (token.isName || token.isNumber || token.kind == .bigint || token.isString)

def objectMethod (kind : MethodKind) (key : Key) (isAsync isGenerator : Bool) : Parser Member := do
  let tail ← functionTail g (← current).start none isAsync isGenerator false
  checkAccessor kind tail.params
  return .method kind key tail.function

def objectMember : Parser Member := do
  if ← eatMark "..." then return .spread (← g.value)
  let words ← modifiers false false
  let accessor (kind : MethodKind) : Parser Member := do
    let found ← objectMethod g kind (← memberKey g) false false
    requireAdmitted [] misplacedModifier words
    return found
  if ← eatModifier "get" then return ← accessor .get
  if ← eatModifier "set" then return ← accessor .set
  let isGenerator ← eatMark "*"
  let token ← current
  let key ← memberKey g
  if isGenerator || (← isOneOf ["(", "<"]) then
    requireAdmitted ["async"] misplacedModifier words
    return ← objectMethod g .method key (words.any (·.word == "async")) isGenerator
  requireAdmitted [] misplacedModifier words
  let c ← context
  let isOperator := (c.awaits && token.isWord "await") || (c.yields && token.isWord "yield")
  match key, token.isBindable && !isOperator && !(← isMark ":") with
  | .name name, true =>
    if ← eatMark "=" then
      modify fun s => { s with covers := s.covers ++ [token.start] }
      return .cover name (← g.value) token.start
    else return .short name
  | _, _ =>
    expectMark ":"
    return .field key (← g.value)

def listItem : Parser Element := do
  if ← eatMark "..." then return .spread (← g.value) else return .item (← g.value)

def commentItem : Parser (List Element) := do
  if ← isCommented then return [.comments (← current).start] else return []

def argumentList : Parser (List Element) := do
  let items ← delimited ")" do
    let comments ← commentItem
    return comments ++ [← listItem g]
  let last ← commentItem
  expectMark ")"
  return items.flatten ++ last

/-- Reads the part of a template that is the token. Only a tag can have use for an escape that
denotes nothing. -/
def templatePart (isTagged : Bool) : Parser Token := do
  let token ← current
  advance
  if !isTagged && Lexer.hasBadEscape token.text.toList then
    note "Bad escape sequence in untagged template literal" (token.start + 1)
  return token

/-- Reads a value in a template. Where the brace behind it stands in its place, the template is taken
to go on behind the end of the script. -/
def templateValue : Parser Expr := fun s =>
  match withIn g.expression s with
  | .ok result => .ok result
  | .error halt =>
    if halt.atBrace then
      let stop := s.token.start + Text.byteLength s.here
      .error {
        halt with
        failures := halt.failures ++ [⟨"Unterminated string", stop - 1⟩], atBrace := false }
    else .error halt

def templateParts (isTagged : Bool) : Parser (List String × List Expr) := do
  let first ← templatePart isTagged
  if first.kind != .template false then return ([first.text], [])
  iterate (fun (parts, values) => do
    let value ← templateValue g
    if !(← isMark "\x7d") then expectMark "\x7d"
    relex Lexer.template
    if (← current).kind == .unknown then unexpected
    let token ← templatePart isTagged
    let parts := token.text :: parts
    let values := value :: values
    if token.kind == .template false then return .inl (parts, values)
    else return .inr (parts.reverse, values.reverse)) ([first.text], [])

/-- Reads a regular expression, whose slash begins the token. -/
def regexRule : Parser Expr := do
  let s ← get
  match Lexer.regexUpTo s.here.length false [] (s.here.drop 1) with
  | some (pattern, after) =>
    let flags := after.takeWhile fun c => c.isAlphanum || c = '$' || c = '_'
    let rest := after.drop flags.length
    relex fun newline start here =>
      let first := start + (Text.byteLength here - Text.byteLength after)
      Lexer.make .string "" newline start here rest (Lexer.flagFailures first flags)
    advance
    return .regex (String.ofList pattern.reverse)
      (String.ofList (Lexer.regexFlags.filter flags.contains))
  | none =>
    relex fun newline start here =>
      Lexer.refuse "Unterminated regular expression" start newline start here (Lexer.afterLine here)
    unexpected

def parenthesized : Parser Expr := do
  let start := (← current).start
  expectMark "("
  let (values, comma) ← within (fun c => { c with hasIn := true, isDecorator := false }) <|
    delimitedBy ")" (g.assignment true)
  if let some offset := comma then
    stopAt "Parenthesized expressions may not have a trailing comma." offset
  expectMark ")"
  match values with
  | [] => stopAt "Empty parenthesized expression" start
  | [value] => return .paren value
  | values => return .paren (.sequence values)

def importRule : Parser Expr := do
  let start := (← current).start
  expectWord "import"
  if ← eatMark "." then
    if ← eatWord "meta" then return .metaProperty "import.meta"
    stopAt "The only valid meta property for import is import.meta" start
  if !(← eatMark "(") then unexpected
  if ← isMark ")" then stopAt "import() requires a specifier." start
  let argument : Parser (List Element) := do
    let comments ← commentItem
    return comments ++ [.item (← closed g.value)]
  let source ← argument
  let options ←
    if (← eatMark ",") && !(← isMark ")") then
      let options ← argument
      discard <| eatMark ","
      pure options
    else pure []
  let last ← commentItem
  if !(← eatMark ")") then
    stopAt ("Dynamic imports can only accept a module specifier and an optional set of attributes " ++
      "as arguments") start
  return .importCall (source ++ options ++ last)

/-- Reads the word for the members of what a class extends, which does not stand alone. -/
def superRule : Parser Expr := do
  let token ← current
  advance
  if !(← isOneOf [".", "[", "("]) then
    note "'super' can only be used with function calls or in property accesses" token.start
  return .super

def primaryWord (token : Token) : Parser Expr := do
  let next ← peek
  match token.text with
  | "this" => advance; return .this
  | "null" => advance; return .null
  | "true" => advance; return .bool true
  | "false" => advance; return .bool false
  | "super" => superRule
  | "import" => importRule g
  | "function" => return .function (← functionRule g false .expression).function
  | "class" => return .classExpr (← classRule g [])
  | text =>
    if text == "async" && next.isWord "function" && !next.newline && !token.escaped then
      advance
      return .function (← functionRule g true .expression).function
    else if token.isBindable then
      skip
      return .ident text
    else unexpected

/-- What an expression may be at its end: an item of a chain in which a member is optional. -/
structure Operand where
  value : Expr
  isChained : Bool := false

/-- Whether an operator between two values can begin with the token. -/
def isInfix (token : Token) : Bool :=
  match token.kind with
  | .mark =>
    ["??", "||", "&&", "|", "^", "&", "==", "!=", "===", "!==", "<=", "<<", "*", "/", "%",
      "**"].contains token.text
  | .word => ["in", "instanceof", "as", "satisfies"].contains token.text
  | _ => false

def beginsExpression (token : Token) : Bool :=
  match token.kind with
  | .finish | .unknown => false
  | .mark =>
    ["(", "[", "\x7b", "+", "-", "!", "~", "++", "--", "<", "/", "/=", "@"].contains token.text
  | .word =>
    !reservedWords.contains token.text ||
      ["class", "delete", "false", "function", "import", "new", "null", "super", "this", "true",
        "typeof", "void"].contains token.text
  | _ => true

/-- Reads types in angle brackets behind a value, which can only be arguments. -/
def valueTypeArguments : Parser Unit := do
  typeArguments g
  joinAngles
  let token ← current
  match token.kind with
  | .template _ => return
  | _ =>
    if token.isMark "(" then return
    if token.kind == .mark && ["<", ">", "+", "-", ">=", ">>", ">>>", ">>=", ">>>="].contains token.text
    then unexpected
    if token.newline || isInfix token || !beginsExpression token then return
    unexpected

/-- Reads types behind a value if they are there; the last mark has to stand alone. -/
def eatValueTypeArguments : Parser Bool := do
  if (← isTyped) && (← isOneOf ["<", "<<"]) then
    return (← attempt (valueTypeArguments g)).isSome
  else return false

def taggedRule (found : Operand) : Parser Operand := do
  if found.isChained then
    note "Tagged template expressions are not permitted in an optional chain" (← current).start
  let (parts, values) ← templateParts g true
  return { found with value := .tagged found.value parts values }

/-- Reads one member behind a value, or nothing if there is none. -/
def memberStep (allowsOptional : Bool) (found : Operand) : Parser (Option Operand) := do
  let token ← current
  let name (optional : Bool) : Parser (Option Operand) := do
    let inner ← current
    let isChained := found.isChained || optional
    if inner.kind == .hidden then
      advance
      return some ⟨.hiddenMember found.value inner.text optional, isChained⟩
    else return some ⟨.member found.value (← anyName) optional, isChained⟩
  let index (optional : Bool) : Parser (Option Operand) := do
    let key ← closed <| within (fun c => { c with hasIn := true, isDecorator := false }) g.expression
    expectMark "]"
    return some ⟨.index found.value key optional, found.isChained || optional⟩
  match token.kind with
  | .template _ => return some (← taggedRule g found)
  | .mark =>
    if token.text == "." then
      advance
      name false
    else if token.text == "?." && allowsOptional then
      let next ← peek
      if next.isMark "[" then
        advance
        advance
        index true
      else if next.isName || next.kind == .hidden then
        advance
        name true
      else return none
    else if token.text == "[" && !(← context).isDecorator then
      advance
      index false
    else if token.text == "!" && !token.newline && (← isTyped) then
      advance
      return some found
    else return none
  | _ => return none

def memberRest (allowsOptional : Bool) (first : Operand) : Parser Operand :=
  iterate (fun found => do
    match ← memberStep g allowsOptional found with
    | some next => return .inl next
    | none =>
      if ← eatValueTypeArguments g then
        match (← current).kind with
        | .template _ => return .inl found
        | _ => return .inr found
      else return .inr found) first

/-- Reads what begins with `new`; `value` reads what is not a word of its own. -/
def newRule (value : Parser Expr) : Parser Expr := do
  let start := (← current).start
  expectWord "new"
  if ← eatMark "." then
    if ← eatWord "target" then return .metaProperty "new.target"
    stopAt "The only valid meta property for new is new.target" start
  let place := (← current).start
  let callee ← memberRest g false ⟨← value, false⟩
  let token ← current
  if token.isMark "?." then stopAt "Invalid optional chain from new expression." token.start
  let arguments ← if ← eatMark "(" then withIn (argumentList g) else pure []
  match callee.value with
  | .importCall .. => note "Cannot use new with dynamic import" place
  | _ => pure ()
  return .new callee.value arguments false

/-- Reads a value; `n` bounds how often `new` may be repeated. -/
def primary : (n : Nat) → Parser Expr
  | 0 => unexpected
  | n + 1 => do
    let token ← current
    match token.kind with
    | .word => if token.text == "new" then newRule g (primary n) else primaryWord g token
    | .string => advance; return .string token.text
    | .number value => advance; return .number value
    | .bigint => advance; return .bigint token.text token.start
    | .template _ =>
      let (parts, values) ← templateParts g false
      return .template parts values
    | .mark =>
      match token.text with
      | "(" => parenthesized g
      | "[" =>
        advance
        let items ← withIn <| delimited "]" do
          if ← isMark "," then return .hole else listItem g
        expectMark "]"
        return .array items
      | "\x7b" =>
        let hasComments ← isCommented
        advance
        let members ← withIn (delimited "\x7d" (objectMember g))
        expectMark "\x7d"
        return if hasComments then .commented token.start (.object members) else .object members
      | "/" | "/=" => regexRule
      | "@" => return .classExpr (← classRule g (← decorators g))
      | _ => unexpected
    | _ => unexpected

def memberRule : Parser Expr := do
  let value ← primary g ((← get).here.length + 1)
  let found ← iterate (fun found => do
    let found ← memberRest g true found
    let question := (← current).start
    if ← eatMark "?." then
      let hasTypes ← eatValueTypeArguments g
      match (← current).kind with
      | .template _ => return .inl (← taggedRule g { found with isChained := true })
      | _ =>
        if !hasTypes && !(← isMark "(") then stopAt "Identifier expected after '?.'" question
        expectMark "("
        return .inl ⟨.call found.value (← withIn (argumentList g)) true false, true⟩
    else if ← eatMark "(" then
      return .inl ⟨.call found.value (← withIn (argumentList g)) false false, found.isChained⟩
    else return .inr found) ⟨value, false⟩
  return if found.isChained then .chain found.value else found.value

/-- Finds out what keeps the expression at the token from being a name or a member, in at most `n`
pairs of parentheses. -/
def checkSimple : (n : Nat) → Expr → Parser Unit
  | n + 1, .paren value => do
    let start := (← current).start
    advance
    match value with
    | .array _ | .object _ | .commented .. => stopAt targetMessage start
    | value => checkSimple n value
  | _, .ident _ | _, .member _ _ false | _, .hiddenMember _ _ false | _, .index _ _ false => return
  | _, _ => do stopAt targetMessage (← current).start

def twice (check : Expr → Parser Unit) : Parser Unit := do
  let before ← get
  let value ← g.value
  let after ← get
  set { before with faults := after.faults, failures := after.failures }
  check value
  let faults := (← get).faults
  set { after with faults }

/-- Finds out what keeps the rest behind the points at the token from being the last part of a
target; `isArgument` tells which values it can have. -/
def checkRest (close : String) (isWrong : Expr → Bool) (check : Expr → Parser Unit) :
    Parser Unit := do
  let points := (← current).start
  advance
  let start := (← current).start
  let before ← get
  discard g.value
  let comma := (← current).start
  let isLast ← lookahead do
    discard <| eatMark ","
    isMark close
  if !isLast then stopAt "Spread must be last element" points
  set before
  twice g fun value => do
    if isWrong value then stopAt "Invalid rest operator's argument." start else check value
  if ← eatMark "," then note restCommaMessage comma

/-- Finds out what keeps the expression at the token from being a part of a target, which may have a
default. -/
def checkElement (check : Expr → Parser Unit) (value : Expr) : Parser Unit := do
  match value with
  | .assign operator _ _ =>
    if operator != "=" then
      stopAt "Only '=' operator can be used for specifying default value." (← current).start
  | value => check value

def checkField (check : Expr → Parser Unit) : Parser Unit := do
  let before ← get
  let member ← objectMember g
  let after ← get
  match member with
  | .field _ _ =>
    set before
    discard <| memberKey g
    expectMark ":"
    twice g (checkElement check)
  | .method .. =>
    set before
    discard <| modifiers false false
    if !(← eatModifier "get") then discard <| eatModifier "set"
    discard <| eatMark "*"
    discard <| memberKey g
    stopAt targetMessage (← current).start
  | _ => set after

/-- Finds out what keeps the expression at the token from being a target, nested at most `n`
deep. -/
def checkTarget : (n : Nat) → Expr → Parser Unit
  | n + 1, .array _ => do
    let isAssign : Expr → Bool
      | .assign .. => true
      | _ => false
    advance
    iterate (fun _ => do
      if (← isMark "]") || (← isOver) then return .inr ()
      if ← eatMark "," then return .inl ()
      if ← isMark "..." then checkRest g "]" isAssign (checkTarget n)
      else twice g (checkElement (checkTarget n))
      return .inl ()) ()
  | n + 1, .object _ => do
    let isPattern : Expr → Bool
      | .assign .. | .array _ | .object _ | .commented .. => true
      | _ => false
    advance
    iterate (fun _ => do
      if (← isMark "\x7d") || (← isOver) then return .inr ()
      if ← eatMark "," then return .inl ()
      if ← isMark "..." then checkRest g "\x7d" isPattern (checkTarget n)
      else checkField g (checkTarget n)
      return .inl ()) ()
  | n + 1, .commented _ value => checkTarget n value
  | n, value => checkSimple n value

/-- Takes the name or the member that an expression is, which begins where the parser was at
first. -/
def simpleTarget (before : State) (value : Expr) : Parser Pattern :=
  targetOf Pattern.simple? (checkSimple before.here.length) before value

/-- Takes the target that an expression is, which begins where the parser was at first. -/
def anyTarget (before : State) (value : Expr) : Parser Pattern :=
  targetOf Pattern.ofExpr? (checkTarget g before.here.length) before value

def updateRule : Parser Expr := do
  let token ← current
  if token.isMark "++" || token.isMark "--" then
    advance
    let before ← get
    let value ← g.unary
    discard <| simpleTarget before value
    return .update token.text true value
  let before ← get
  let value ← g.member
  let behind ← current
  if (behind.isMark "++" || behind.isMark "--") && !behind.newline then
    discard <| simpleTarget before value
    advance
    return .update behind.text false value
  return value

def isUnaryOperator (token : Token) : Bool :=
  (token.kind == .mark && ["+", "-", "!", "~"].contains token.text) ||
    (token.kind == .word && ["typeof", "void", "delete"].contains token.text)

def isAwait : Parser Bool := do
  if !(← isWord "await") then return false
  if (← context).awaits then return true
  return isOperand (← peek)

/-- Reads markup where a value has to be. It is refused, but it can be read. -/
def markupRule : Parser Expr := do
  let s ← get
  match markupEnd? s.here with
  | some rest =>
    note "Unexpected JSX expression" s.token.start
    relex fun newline start here => Lexer.make .string "" newline start here rest []
    advance
    return .this
  | none => unexpected

inductive Front where
  | operator (text : String)
  | await (offset : Nat)
  /-- A type that the value is taken to have. -/
  | assertion

def Front.apply (value : Expr) : Front → Expr
  | .operator text => .unary text value
  | .await offset => .await value offset
  | .assertion => value

/-- Reads what stands in front of a value, if it is there. -/
def front? : Parser (Option Front) := do
  let token ← current
  if isUnaryOperator token then
    advance
    return some (.operator token.text)
  else if token.isMark "<" && (← isTyped) then
    advance
    closed g.type
    expectMark ">"
    return some .assertion
  else if ← isAwait then
    if !(← context).awaits then
      note "`await` is only allowed within async functions and at the top levels of modules"
        token.start
    advance
    return some (.await token.start)
  else return none

/-- Reads a value and what stands in front of it, which does not stand in front of a power. -/
def unaryRule : Parser Expr := do
  let start := (← current).start
  let found ← iterate (fun found => do
    match ← front? g with
    | some front => return .inl (front :: found)
    | none => return .inr found) []
  let value ← if ← isMark "<" then markupRule else updateRule g
  if !found.isEmpty && (← isMark "**") then note "Unexpected exponentiation expression" start
  return found.foldl Front.apply value

def strength? (token : Token) : Option Nat :=
  match token.kind with
  | .word =>
    if ["in", "instanceof", "as", "satisfies"].contains token.text then some 8 else none
  | .mark =>
    match token.text with
    | "??" => some 1
    | "||" => some 2
    | "&&" => some 3
    | "|" => some 4
    | "^" => some 5
    | "&" => some 6
    | "==" | "!=" | "===" | "!==" => some 7
    | "<" | ">" | "<=" | ">=" => some 8
    | "<<" | ">>" | ">>>" => some 9
    | "+" | "-" => some 10
    | "*" | "/" | "%" => some 11
    | "**" => some 12
    | _ => none
  | _ => none

/-- Whether two logical operators cannot stand beside each other without parentheses. -/
def isMixed (operator : String) (left right : Expr) : Bool :=
  let has (operators : List String) : Expr → Bool
    | .binary inner _ _ => operators.contains inner
    | _ => false
  if operator == "??" then has ["||", "&&"] left || has ["||", "&&"] right
  else (operator == "||" || operator == "&&") && (has ["??"] left || has ["??"] right)

def binaryRule (least : Nat) : Parser Expr := do
  let start := (← current).start
  let token ← current
  let first ←
    if token.kind == .hidden && (← context).hasIn then
      advance
      expectWord "in"
      let place := (← current).start
      let right ← g.binary 8
      match right with
      | .binary _ (.hiddenName _) _ =>
        stopAt "Unexpected right-hand side of private-in expression" place
      | _ => pure (.binary "in" (.hiddenName token.text) right)
    else g.unary
  iterate (fun left => do
    joinAngles
    let token ← current
    match strength? token with
    | none => return .inr left
    | some strength =>
      if strength < least || (strength == least && strength != 12) then return .inr left
      if token.isWord "in" && !(← context).hasIn then return .inr left
      if token.isWord "as" || token.isWord "satisfies" then
        if token.newline then return .inr left
        advance
        if token.isWord "as" && (← isWord "const") then advance else g.type
        if !(← isTyped) then
          note ((if token.isWord "as" then "Type assertion" else "Type satisfaction") ++
            " expressions can only be used in TypeScript files.") start
        return .inl left
      advance
      let right ← g.binary strength
      if isMixed token.text left right then
        note "Logical expressions and coalesce expressions cannot be mixed" start
      return .inl (.binary token.text left right)) first

def assignmentOperators : List String :=
  ["=", "+=", "-=", "*=", "/=", "%=", "<<=", ">>=", ">>>=", "|=", "^=", "&=", "**=", "||=", "&&=",
    "??="]

def isAssignment (token : Token) : Bool :=
  token.kind == .mark && assignmentOperators.contains token.text

def arrowBody (returns : Bool) (isAsync : Bool) (params : List Pattern) (rest : Option Pattern) :
    Parser Expr := do
  if ← isNewline then note "Line terminator not permitted before arrow" (← current).start
  expectMark "=>"
  let found : Function := { isAsync, isArrow := true, params, rest }
  within (fun c => { c with awaits := isAsync, yields := false, isDecorator := false }) do
    if ← isMark "\x7b" then
      let body ← within (fun c => { c with returns := true, hasIn := true }) (block g)
      let (directives, body) := splitDirectives body
      let close := (← get).previous - 1
      return .function { found with directives := directives.map (·.2.2), body, close }
    else
      let start := (← current).start
      let value ← g.assignment returns
      let stop := (← get).previous
      return .function {
        found with isShort := true, body := [.mk start stop (.expression value)] }

/-- What a look ahead finds out. -/
inductive Guess where
  | yes
  | no
  | maybe
  deriving DecidableEq

def guessBehindParen : Parser Guess := do
  let second ← current
  if second.isMark ")" then
    advance
    let third ← current
    if third.isMark ":" && (← isTyped) then return .maybe
    if third.isMark "=>" || third.isMark "\x7b" then return .yes
    return .no
  if second.isMark "[" || second.isMark "\x7b" then return .maybe
  if second.isMark "..." then
    advance
    let third ← current
    return if third.isBindable || third.isMark "[" || third.isMark "\x7b" then .yes else .no
  advance
  let third ← current
  if second.isName && modifierWords.contains second.text && second.text != "async" &&
      third.isBindable then
    return if third.isWord "as" then .no else .yes
  if !second.isBindable && !second.isWord "this" then return .no
  if third.isMark ":" then return .yes
  if third.isMark "?" then
    advance
    return if ← isOneOf [":", ",", "=", ")"] then .yes else .no
  return if third.isMark "," || third.isMark "=" || third.isMark ")" then .maybe else .no

def guessArrow : Parser Guess := fun s =>
  let worker : Parser Guess := do
    if ← eatWord "async" then
      if ← isNewline then return .no
      if !(← isOneOf ["(", "<"]) then return .no
    let first ← current
    advance
    if first.isMark "(" then guessBehindParen
    else if first.isMark "<" then
      let second ← current
      return if second.isBindable || second.isWord "const" then .maybe else .no
    else return .no
  if s.token.isMark "(" || s.token.isMark "<" || s.token.isWord "async" then
    match worker s with
    | .ok (found, _) => .ok (found, s)
    | .error _ => .ok (.no, s)
  else .ok (.no, s)

/-- Reads the parameters in front of an arrow, and tells whether they are asynchronous and whether
the type of the result is given. -/
def arrowHead : Parser (Bool × Parameters × Bool) := do
  let isAsync ← eatWord "async"
  within (fun c => { c with awaits := isAsync || c.awaits }) do
    discard <| typeParameters g
    let params ← parameters g false
    if let some offset := params.receiver then
      note "An arrow function cannot have a `this` parameter." offset
    let hasResult ← resultAnnotation g
    if !(← isMark "=>") then missing "`=>`"
    return (isAsync, params, hasResult)

/-- Reads a function that is written with an arrow behind parentheses, if there is one. -/
def arrow? (returns : Bool) : Parser (Option Expr) := do
  match ← guessArrow with
  | .no => return none
  | .yes =>
    let (isAsync, params, _) ← arrowHead g
    return some (← arrowBody g returns isAsync params.items params.rest)
  | .maybe =>
    let before ← get
    match ← attempt (arrowHead g) with
    | none => return none
    | some (isAsync, params, hasResult) =>
      let found ← arrowBody g returns isAsync params.items params.rest
      if !returns && hasResult && !(← isMark ":") then
        set before
        return none
      return some found

/-- Whether a function with one parameter and no parentheses begins with `async`. -/
def isAsyncArrow : Parser Bool := do
  if !(← isWord "async") then return false
  lookahead do
    advance
    let token ← current
    if token.newline || token.isMark "=>" || !token.isBindable then return false
    advance
    return !(← isNewline) && (← isMark "=>")

def yieldRule : Parser Expr := do
  let start := (← current).start
  if !(← context).yields then
    note "A 'yield' expression is only allowed in a generator body." start
  advance
  if ← isNewline then return .yield false none
  let isAll ← eatMark "*"
  let isAlone := (← isOver) || (← isOneOf [";", "\x7d", ")", "]", ":", ","]) || (← isWord "in")
  if isAlone && !isAll then return .yield false none
  return .yield isAll (some (← g.assignment true))

def isYield : Parser Bool := do
  if !(← isWord "yield") then return false
  if (← context).yields then return true
  return isOperand (← peek)

/-- Marks the call that an expression begins with, or is, as one without effects. -/
def markPure : Expr → Expr
  | .call callee items isOptional _ => .call callee items isOptional true
  | .new callee items _ => .new callee items true
  | .paren value => .paren (markPure value)
  | .binary operator left right => .binary operator (markPure left) right
  | .conditional test yes no => .conditional (markPure test) yes no
  | .chain (.call callee items isOptional _) => .chain (.call callee items isOptional true)
  | value => value

def markQuiet : Expr → Expr
  | .function found => .function { found with isQuiet := true }
  | value => value

def assignmentRule (returns : Bool) : Parser Expr := do
  let before ← get
  let noted (value : Expr) : Expr :=
    let value := if before.isPure then markPure value else value
    if before.isQuiet then markQuiet value else value
  if ← isYield then return ← yieldRule g
  if let some found ← arrow? g returns then return noted found
  if ← isAsyncArrow then
    advance
    let name ← bindingName
    return ← arrowBody g returns true [.ident name] none
  let value ← g.binary 0
  let token ← current
  match value, token.isMark "=>" with
  | .ident name, true => return noted (← arrowBody g returns false [.ident name] none)
  | _, _ =>
    if isAssignment token then
      let target ← if token.text == "=" then anyTarget g before value else simpleTarget before value
      advance
      return .assign token.text target (← g.assignment returns)
    else if ← eatMark "?" then
      let yes ← closed (withIn (g.assignment false))
      expectMark ":"
      return noted (.conditional value yes (← g.assignment returns))
    else return noted value

def expressionRule : Parser Expr := do
  let first ← g.assignment true
  if !(← isMark ",") then return first
  iterate (fun found => do
    if ← eatMark "," then return .inl ((← g.assignment true) :: found)
    else return .inr (.sequence found.reverse)) [first]

end ComponentBundle.Script.Parser
