import ComponentBundle.Script.Lowering.Enumeration
import ComponentBundle.Script.Lowering.Expression
import ComponentBundle.Script.Lowering.Resource

/-!
# Lowering statements

A statement becomes any number of statements.
-/
namespace ComponentBundle.Script.Lowering

variable (l : Lowering)

def inBlock (body : List Stmt) : Lowering :=
  (l.declaring (Scope.blockDeclares l.depth body)
    (Scope.partUses l.depth (.statements body))).within fun around =>
      { around with isOutermost := false }

def block (body : List Stmt) : Lower (List Stmt) := (inBlock l body).statements body

def one (stmt : Stmt) : Lower Stmt := do
  let inner := l.declaring (Scope.blockDeclares l.depth [stmt])
    (Scope.partUses l.depth (.statements [stmt]))
  match ← inner.statements [stmt] with
  | [only] => return only
  | [] => return .new .empty
  | several => return .new (.block several)

def withFront (front : List Stmt) (body : Stmt) : Stmt :=
  if front.isEmpty then body
  else match body with
    | .mk start stop (.block inner) => .mk start stop (.block (front ++ inner))
    | body => .new (.block (front ++ [body]))

/-- The left side and the body of a loop over values, where the body takes what it is given apart if
the left side cannot. -/
def loopParts (left body : Stmt) : Lower (Stmt × Stmt) := do
  match left with
  | .mk start stop (.variable word [(found, none)]) =>
    if declaresResource left then
      let name ← Lower.fresh ((Scope.boundNames l.depth found).headD "ref")
      let inner := Stmt.new (.variable word [(found, some (.ident name))])
      return (.mk start stop (.variable "const" [(.ident name, none)]), withFront [inner] body)
    else
      let (found, front) ← received l.depth word found
      return (.mk start stop (.variable word [(found, none)]), withFront front body)
  | .mk start stop (.forTarget found) =>
    if hasObjectRest l.depth found then
      let name ← Lower.fresh "ref"
      return (.mk start stop (.variable "let" [(.ident name, none)]),
        withFront [.ofExpr (.assign "=" found (.ident name))] body)
    else return (left, body)
  | left => return (left, body)

/-- Lowers the left side of a loop over values. -/
def loopLeft (left : Stmt) : Lower Stmt := do
  match left with
  | .mk start stop (.variable word items) =>
    return .mk start stop (.variable word (← loweredItems l items))
  | .mk start stop (.forTarget found) => return .mk start stop (.forTarget (← l.pattern found))
  | left => return left

/-- The lowering inside a loop that may declare names. -/
def inLoop (left : List Stmt) (body : Stmt) : Lowering :=
  (l.declaring (Scope.blockDeclares l.depth left)
    (Scope.partUses l.depth (.statements (left ++ [body])))).within fun around =>
      { around with isOutermost := false }

def loopOver (left : Stmt) (right : Expr) (body : Stmt) : Lower (Stmt × Expr × Stmt) := do
  let (left, body) ← loopParts l left body
  let inner := inLoop l [left] body
  let left ← loopLeft inner left
  return (left, ← l.expr right, ← one inner body)

def loopFirst (stmt : Stmt) : Lower Stmt := do
  match stmt with
  | .mk start stop (.variable word items) =>
    return .mk start stop (.variable word (← loweredItems l items))
  | .mk start stop (.expression value) => return .mk start stop (.expression (← l.expr value))
  | stmt => return stmt

def handler (found : Option Pattern) (body : List Stmt) : Lower (Option Pattern × List Stmt) := do
  match found with
  | none =>
    let name ← Lower.fresh "unused"
    return (some (.ident name), ← block l body)
  | some found =>
    let names := Scope.boundNames l.depth found
    let inner := l.declaring names (Scope.partUses l.depth (.statements body))
    let (found, front) ← received l.depth "let" found
    let found ← inner.pattern found
    return (some found, ← block inner (front ++ body))

/-- A lowered statement with what is in front of it and behind it. -/
structure Split where
  before : List Stmt := []
  main : Option Node := none
  after : List Stmt := []

/-- Notes that a name has been declared, so that more can be added to it. -/
def noteDeclared (name : String) : Lower Unit :=
  modify fun s => { s with enums := s.enums ++ [(name, [])] }

def declaredName (name : String) : String :=
  match l.meaning? name with
  | some (.name text) => text
  | _ => name

def classDeclaration (found : Class) : Lower Split := do
  let isShared := Class.hasShared found || found.members.any fun
    | .method _ _ _ _ (.hidden _) _ _ => true
    | _ => false
  let name ← match found.name with
    | some name => pure (declaredName l name)
    | none => if isShared then Lower.fresh "Class" else pure "Class"
  found.name.forM noteDeclared
  let owner ← newOwner name false
  let (value, parts) ← classParts l owner found
  let value := if isShared || found.name.isSome then { value with name := some name } else value
  let later ← parts.later.mapM fun later => later.toStmt (.ident name)
  let held ← match ← classHolder? owner with
    | some holder => do
      modify fun s => { s with hoisted := holder :: s.hoisted }
      pure [Stmt.ofExpr (.assign "=" (.ident holder) (.ident name))]
    | none => pure []
  return ⟨parts.before, some (.classDecl value), held ++ parts.functions ++ later⟩

/-- What a namespace is made from: itself if it has been begun, else a new object. -/
def namespaceStart (outer : Option String) (name : String) : Expr :=
  let new : Expr := match outer with
    | none => .object []
    | some outer =>
      let place : Expr := .member (.ident outer) name false
      .binary "||" place (.assign "=" (.target place) (.object []))
  .binary "||" (.ident name) (.assign "=" (.ident name) new)

def assignMember (outer name : String) : Stmt :=
  .ofExpr (.assign "=" (.target (.member (.ident outer) name false)) (.ident name))

/-- An exported declaration of variables in a namespace. Variables that can change cannot be
exported. -/
def exposed (n : Nat) (owner word : String) (items : List Declarator) (start : Nat) :
    Lower (List Node) := do
  if word != "const" then
    -- The name and the link are part of the message, which is given as it is.
    let place := ((← get).declared.find? fun found => found.1 == start).map Prod.snd
    Lower.refuse ("Namespaces exporting non-const are not supported by Babel. Change to const or see: " ++
      "https://babeljs.io/docs/en/babel-plugin-transform-typescript") (place.getD start)
  let place (name : String) : Pattern := .target (.member (.ident owner) name false)
  let isPlain := items.all fun
    | (.ident _, _) => true
    | _ => false
  if isPlain then
    let items := items.map fun
      | (.ident name, some value) => (Pattern.ident name, some (Expr.assign "=" (place name) value))
      | item => item
    return [.variable word items]
  else
    let names := Scope.variableNames n items
    return [.variable word items,
      .expression (.sequence (names.map fun name => .assign "=" (place name) (.ident name)))]

/-- The statements that a namespace becomes, at most `n` namespaces deep. They have to be lowered. -/
def namespaceBody : (n : Nat) → (outer : Option String) → (name : String) → List Stmt →
    Lower (List Stmt)
  | 0, _, _, _ => return []
  | n + 1, outer, name, body => do
    let owner ← Lower.fresh name
    let statements ← body.mapM fun stmt => do
      match stmt.node with
      | .erased .. => return []
      | .namespaceDecl inner body => namespaceBody n none inner body
      | .exportDecl declaration =>
        match declaration.node with
        | .erased .. => return []
        | .namespaceDecl inner body => namespaceBody n (some owner) inner body
        | .variable word items =>
          return (← exposed n owner word items declaration.start).map (.mk stmt.start stmt.stop ·)
        | node =>
          return .mk stmt.start stmt.stop node ::
            (Scope.blockNames n declaration).map (assignMember owner)
      | _ => return [stmt]
    let statements := statements.flatten
    if statements.isEmpty then return []
    let maker : Function := { params := [.ident owner], body := statements }
    return [
      .declare "let" name none,
      .ofExpr (.callOf (.paren (.function maker)) [namespaceStart outer name])]

def namespaceDeclaration (name : String) (body : List Stmt) : Lower Split := do
  let isAgain := (← get).enums.any fun found => found.1 == name
  match ← namespaceBody l.depth none name body with
  | _ :: made =>
    noteDeclared name
    let made ← made.mapM fun stmt => match stmt.node with
      | .expression value => do return Stmt.ofExpr (← l.expr value)
      | _ => return stmt
    if isAgain then return { after := made }
    else return { main := some (.variable "let" [(.ident name, none)]), after := made }
  | [] => return {}

def pathExpr : List String → Expr
  | [] => .nothing
  | first :: rest => rest.foldl (fun base name => .member base name false) (.ident first)

def declared (isExported : Bool) (node : Node) : Lower Split := do
  match node with
  | .functionDecl found =>
    found.name.forM noteDeclared
    let (found, after) ← functionDeclaration l
      { found with name := found.name.map (declaredName l) }
    return { main := some (.functionDecl found), after }
  | .classDecl found => classDeclaration l found
  | .variable word items => return { main := some (.variable word (← loweredItems l items)) }
  | .enumDecl name members => do
    match ← enumeration l name members isExported with
    | .expression value => return { after := [.ofExpr value] }
    | node => return { main := some node }
  | .namespaceDecl name body => namespaceDeclaration l name body
  | .importEquals isType name path source =>
    if isType then return {}
    match source with
    | some source =>
      let value : Expr := .callOf (.ident "require") [.string source]
      return { main := some (.variable "const" [(.ident name, some value)]) }
    | none => return { main := some (.variable "var" [(.ident name, some (pathExpr path))]) }
  | .erased .. => return {}
  | node => return { main := some node }

/-- The statements of a split one, whose main part may be wrapped. -/
def joined (start stop : Nat) (split : Split) (wrap : Stmt → Node) : List Stmt :=
  split.before ++
    (split.main.toList.map fun node => .mk start stop (wrap (.mk start stop node))) ++ split.after

def statementRule (stmt : Stmt) : Lower (List Stmt) := do
  let start := stmt.start
  let stop := stmt.stop
  let only (node : Node) : Lower (List Stmt) := return [.mk start stop node]
  match stmt.node with
  | .expression value =>
    let before := (← get).pending
    modify fun s => { s with pending := some [] }
    let value ← l.expr value
    let names := ((← get).pending.getD []).reverse
    modify fun s => { s with pending := before }
    let front := if names.isEmpty then []
      else [Stmt.new (.variable "var" (names.map fun name => (.ident name, none)))]
    return front ++ [.mk start stop (.expression value)]
  | .returnStmt value => only (.returnStmt (← value.mapM l.expr))
  | .ifStmt test yes no =>
    only (.ifStmt (← l.expr test) (← one l yes) (← no.mapM (one l)))
  | .forStmt first test step body =>
    let inner := inLoop l first.toList body
    let first ← first.mapM (loopFirst inner)
    only (.forStmt first (← test.mapM inner.expr) (← step.mapM inner.expr) (← one inner body))
  | .forIn left right body =>
    let (left, right, body) ← loopOver l left right body
    only (.forIn left right body)
  | .forOf isAwait left right body =>
    let (left, right, body) ← loopOver l left right body
    if isAwait then awaitLoop l none left right body else only (.forOf false left right body)
  | .labeled label (.mk _ _ (.forOf true left right body)) =>
    let (left, right, body) ← loopOver l left right body
    awaitLoop l (some label) left right body
  | .whileStmt test body => only (.whileStmt (← l.expr test) (← one l body))
  | .doWhile body test =>
    let body ← one l body
    only (.doWhile body (← l.expr test))
  | .throwStmt value => only (.throwStmt (← l.expr value))
  | .tryStmt body found finalizer =>
    let body ← block l body
    let found ← found.mapM fun (pattern, body) => handler l pattern body
    only (.tryStmt body found (← finalizer.mapM (block l)))
  | .switchStmt value cases =>
    let inner := inBlock l (cases.flatMap fun (_, _, body) => body)
    let value ← l.expr value
    let cases ← cases.mapM fun (start, test, body) => do
      return (start, ← test.mapM inner.expr, ← inner.statements body)
    only (.switchStmt value cases)
  | .labeled label body => only (.labeled label (← one l body))
  | .block body => only (.block (← block l body))
  | .withStmt value body => only (.withStmt (← l.expr value) (← one l body))
  | .exportDecl (.mk innerStart innerStop node) =>
    let split ← declared l true node
    let isWrapped := match node with
      | .enumDecl .. => split.main.isSome
      | _ => true
    return joined start stop split fun found =>
      if isWrapped then .exportDecl (.mk innerStart innerStop found.node) else found.node
  | .exportDefault value => only (.exportDefault (← l.expr value))
  | .exportDefaultDecl (.mk innerStart innerStop node) =>
    return joined start stop (← declared l true node) fun found =>
      .exportDefaultDecl (.mk innerStart innerStop found.node)
  | .exportAssign value =>
    only (.expression (.assign "=" (.target (.member (.ident "module") "exports" false))
      (← l.expr value)))
  | .exportAll false (some name) source attributes =>
    let inner := Identifier.of (← Lower.fresh name.text)
    return [
      .mk start stop (.importDecl false (some [.whole inner]) source attributes),
      .new (.exportNames false [⟨{ text := inner.text }, name, false⟩] none none)]
  | node => return joined start stop (← declared l false node) Stmt.node

/-- Lowers a statement and puts the functions that it needs behind it. -/
def withTrailing (stmt : Stmt) : Lower (List Stmt) := do
  modify fun s => { s with trailing := [] }
  let found ← statementRule l stmt
  return found ++ (← get).trailing

/-- Lowers statements and puts the variables that they need in front of them. -/
def statementsRule (body : List Stmt) : Lower (List Stmt) := do
  let before ← get
  set { before with hoisted := [] }
  let body ← resourceFree l.depth l.around.isOutermost body
  let lowered ← body.mapM (withTrailing l)
  let s ← get
  set { s with hoisted := before.hoisted, trailing := before.trailing, enums := before.enums }
  let names := s.hoisted.reverse
  let front := if names.isEmpty then []
    else [Stmt.new (.variable "var" (names.map fun name => (.ident name, none)))]
  return front ++ lowered.flatten

end ComponentBundle.Script.Lowering
