import ComponentBundle.Script.Parser.Expression
import ComponentBundle.Script.Parser.Module

/-!
# Statements
-/
namespace ComponentBundle.Script.Parser

variable (g : Grammar)

def condition : Parser Expr := do
  expectMark "("
  let value ← withIn g.expression
  expectMark ")"
  return value

/-- What is said about a loop that waits for items and takes none. -/
def awaitLoopMessage : String := "await can only be used in conjunction with `for...of` statements"

/-- Notes that a loop which waits for items takes none; `awaitAt` is where such a loop begins. -/
def refuseAwait (awaitAt : Option Nat) : Parser Unit := awaitAt.forM (note awaitLoopMessage)

def loopRest (awaitAt : Option Nat) (first : Option Stmt) : Parser Node := do
  expectMark ";"
  match first.map Stmt.node with
  | some (.variable word items) =>
    let start := (first.map Stmt.start).getD 0
    items.forM fun (pattern, value) => do
      if value.isNone then requireInitial word pattern start
  | _ => pure ()
  let test ← if ← isOneOf [";", ")"] then pure none else pure (some (← withIn g.expression))
  expectMark ";"
  let step ← if ← isMark ")" then pure none else pure (some (← withIn g.expression))
  expectMark ")"
  refuseAwait awaitAt
  return .forStmt first test step (← g.single)

/-- Reads a loop over keys or items behind its left side, if it is one. -/
def loopOver? (awaitAt : Option Nat) (left : Stmt) : Parser (Option Node) := do
  if ← eatWord "in" then
    let right ← withIn g.expression
    expectMark ")"
    refuseAwait awaitAt
    return some (.forIn left right (← g.single))
  else if ← eatWord "of" then
    let right ← withIn (g.assignment true)
    expectMark ")"
    return some (.forOf awaitAt.isSome left right (← g.single))
  else return none

/-- Reads what a loop declares for each of its turns, if it declares anything. -/
def loopDeclaration? : Parser (Option Stmt) := do
  let token ← current
  let next ← peek
  let withoutIn (c : Context) : Context := { c with hasIn := false }
  let declares := token.isWord "var" || token.isWord "const" ||
    (token.isWord "let" && (next.isBindable || next.isMark "[" || next.isMark "\x7b"))
  if declares then
    advance
    let found ← within withoutIn (declarators g token.text .loop)
    return some (.mk token.start (← get).previous found.node)
  else if (← isUsing) && !(token.isWord "using" && next.isWord "of") then
    let found ← within withoutIn (usingRule g .loop)
    if ← isWord "in" then
      let word := if token.isWord "await" then "an `await using`" else "a `using`"
      note ("The left-hand side of a for...in statement cannot be " ++ word ++ " declaration.")
        token.start
    return some (.mk token.start (← get).previous found.node)
  else return none

def loopRule : Parser Node := do
  let start := (← current).start
  expectWord "for"
  let token ← current
  let awaitAt ←
    if ← eatWord "await" then
      if !(← context).awaits then
        note "`await` is only allowed within async functions and at the top levels of modules"
          token.start
      pure (some start)
    else pure none
  expectMark "("
  if ← isMark ";" then return ← loopRest g awaitAt none
  if let some left ← loopDeclaration? g then
    match ← loopOver? g awaitAt left with
    | some node => return node
    | none => loopRest g awaitAt (some left)
  else if ← isMark ")" then loopRest g awaitAt none
  else
    let before ← get
    let token := before.token
    let value ← within (fun c => { c with hasIn := false }) g.expression
    if (← isWord "in") || (← isWord "of") then
      if (← isWord "of") && awaitAt.isNone && token.isWord "async" && !token.escaped then
        match value with
        | .ident _ =>
          note "The left-hand side of a `for...of` statement may not be `async`" token.start
        | _ => pure ()
      let target ← anyTarget g before value
      match ← loopOver? g awaitAt (.mk token.start (← get).previous (.forTarget target)) with
      | some node => return node
      | none => unexpected
    else loopRest g awaitAt (some (.mk token.start (← get).previous (.expression value)))

def caseRule : Parser (Nat × Option Expr × List Stmt) := do
  let start := (← current).start
  let test ←
    if ← eatWord "case" then pure (some (← withIn g.expression))
    else if ← eatWord "default" then pure none
    else stopAt "Expected switch clause" start
  expectMark ":"
  let body ← iterate (fun found => do
    if (← isWord "case") || (← isWord "default") || (← isMark "\x7d") || (← isOver) then
      return .inr found.reverse
    else return .inl ((← g.statement) :: found)) []
  return (start, test, body)

def tryRule : Parser Node := do
  expectWord "try"
  let body ← block g
  let stop := (← get).previous
  let handler ←
    if ← eatWord "catch" then
      let pattern ←
        if ← eatMark "(" then
          let pattern ← g.pattern
          discard <| annotation g
          expectMark ")"
          pure (some pattern)
        else pure none
      pure (some (pattern, ← block g))
    else pure none
  let finalizer ← if ← eatWord "finally" then pure (some (← block g)) else pure none
  if handler.isNone && finalizer.isNone then note "Missing catch or finally clause" stop
  return .tryStmt body handler finalizer

/-- Reads a label behind a word, if there is one. -/
def jumpLabel : Parser (Option String) := do
  let token ← current
  let label ←
    if ← endsStatement then pure none
    else if token.isBindable then skip; pure (some token.text)
    else unexpected
  semicolon
  return label

def expressionStatement : Parser Node := do
  let value ← withIn g.expression
  match value, ← isMark ":" with
  | .ident label, true =>
    advance
    return .labeled label (← g.single)
  | _, _ =>
    semicolon
    return .expression value

def refuseSingle (isSingle : Bool) (message : String) (start : Nat) : Parser Unit := do
  if isSingle then note message start

/-- What is said about variables that are declared in the place of a block. -/
def lexicalMessage : String := "Lexical declaration cannot appear in a single-statement context"

def lexicalRule (isSingle : Bool) : Parser Node := do
  let start := (← current).start
  let found ← variableRule g
  refuseSingle isSingle lexicalMessage start
  return found.node

def usingStatement (isSingle : Bool) : Parser Node := do
  let start := (← current).start
  let found ← usingRule g .statement
  refuseSingle isSingle lexicalMessage start
  semicolon
  return found.node

/-- Reads a function that is declared. Only one that is called at once can stand in the place of a
block. -/
def functionStatement (isSingle : Bool) : Parser Node := do
  let start := (← current).start
  let found ← declaredFunction g []
  match found.node with
  | .functionDecl function =>
    if function.isAsync then
      refuseSingle isSingle
        "Async functions can only be declared at the top level or inside a block" start
    if function.isGenerator then
      refuseSingle isSingle
        "Generators can only be declared at the top level or inside a block" start
  | _ => pure ()
  return found.node

/-- Reads a statement that begins with `let`. -/
def letRule (isSingle : Bool) : Parser Node := do
  let next ← peek
  let isOperator := isAssignment next || isInfix next || ["<", ">", "+", "-"].any next.isMark
  if isOperator || next.isMark "." || next.isMark "(" || next.isMark ";" ||
      (isSingle && !next.isMark "[") then
    expressionStatement g
  else lexicalRule g isSingle

def wordStatement (isSingle : Bool) (token : Token) : Parser Node := do
  let next ← peek
  match token.text with
  | "if" =>
    advance
    let test ← condition g
    let yes ← g.single
    let no ← if ← eatWord "else" then pure (some (← g.single)) else pure none
    return .ifStmt test yes no
  | "do" =>
    advance
    let body ← g.single
    expectWord "while"
    let test ← condition g
    discard <| eatMark ";"
    return .doWhile body test
  | "while" =>
    advance
    let test ← condition g
    return .whileStmt test (← g.single)
  | "for" => loopRule g
  | "continue" => advance; return .continueStmt (← jumpLabel)
  | "break" => advance; return .breakStmt (← jumpLabel)
  | "with" =>
    advance
    let value ← condition g
    return .withStmt value (← g.single)
  | "switch" =>
    advance
    let value ← condition g
    return .switchStmt value (← enclosed "\x7b" "\x7d" do return some (← caseRule g))
  | "throw" =>
    advance
    if ← isNewline then note "Illegal newline after throw" token.start
    let value ← withIn g.expression
    semicolon
    return .throwStmt value
  | "try" => tryRule g
  | "debugger" => advance; semicolon; return .debugger
  | "class" =>
    let found ← declaredClass g [] []
    refuseSingle isSingle "Invalid class declaration" token.start
    return found.node
  | "export" => exportRule g []
  | "return" =>
    advance
    let value ←
      if ← endsStatement then
        discard <| eatMark ";"
        pure none
      else
        let value ← withIn g.expression
        semicolon
        pure (some value)
    if !(← context).returns then
      note "A 'return' statement can only be used within a function body." token.start
    return .returnStmt value
  | "var" => return (← variableRule g).node
  | "const" =>
    if (← isTyped) && next.isWord "enum" then
      advance
      return (← enumRule g).node
    else lexicalRule g isSingle
  | "function" => functionStatement g isSingle
  | "let" => if token.escaped then expressionStatement g else letRule g isSingle
  | "async" =>
    if next.isWord "function" && !next.newline && !token.escaped then functionStatement g isSingle
    else if (← isTyped) && (← beginsTypedDeclaration) then
      return (← declaration g [] token.start).node
    else expressionStatement g
  | "import" =>
    if next.isMark "." || next.isMark "(" then expressionStatement g else importDeclaration
  | text =>
    let declares := ["interface", "type", "module", "namespace", "declare", "enum", "private",
      "protected", "public", "abstract", "accessor", "static", "readonly", "global"].contains text
    if declares && (← isTyped) && (← beginsTypedDeclaration) then
      return (← declaration g [] token.start).node
    else if ← isUsing then usingStatement g isSingle
    else expressionStatement g

def decoratedRule (isSingle : Bool) : Parser Stmt := do
  let start := (← current).start
  let found ← decorators g
  let token ← current
  if token.isWord "export" then
    let node ← exportRule g found
    return .mk token.start (← get).previous node
  let words ← modifiers false false
  if !(← isWord "class") then unexpected
  let declared ← declaredClass g found words
  refuseSingle isSingle "Invalid class declaration" start
  return .mk start (← get).previous declared.node

def statementNode (isSingle : Bool) : Parser Node := do
  let token ← current
  match token.kind with
  | .mark =>
    match token.text with
    | "\x7b" => return .block (← block g)
    | ";" => advance; return .empty
    | _ => expressionStatement g
  | .word => wordStatement g isSingle token
  | _ => expressionStatement g

/-- Marks the function that a statement declares as one whose calls have no effect. -/
def quietNode : Node → Node
  | .functionDecl found => .functionDecl { found with isQuiet := true }
  | .variable "const" ((found, some value) :: others) =>
    .variable "const" ((found, some (Parser.markQuiet value)) :: others)
  | .exportDecl (.mk start stop node) => .exportDecl (.mk start stop (quietNode node))
  | .exportDefault value => .exportDefault (Parser.markQuiet value)
  | .exportDefaultDecl (.mk start stop node) => .exportDefaultDecl (.mk start stop (quietNode node))
  | node => node

def statementRule (isSingle : Bool) : Parser Stmt := do
  if ← isMark "@" then return ← decoratedRule g isSingle
  let s ← get
  let node ← statementNode g isSingle
  return .mk s.token.start (← get).previous (if s.isQuiet then quietNode node else node)

end ComponentBundle.Script.Parser
