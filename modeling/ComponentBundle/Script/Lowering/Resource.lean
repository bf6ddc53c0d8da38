import ComponentBundle.Script.Lowering.State

/-!
# Lowering declarations of resources

A resource is given up behind the statements that it is declared among, whether these succeed or not.
A helper keeps account of the resources.
-/
namespace ComponentBundle.Script.Lowering

/-- Whether giving up the resources that a statement declares has to be waited for, if it declares
any. -/
def resourceWaits? (stmt : Stmt) : Option Bool :=
  match stmt.node with
  | .variable "using" _ => some false
  | .variable "await using" _ => some true
  | _ => none

def declaresResource (stmt : Stmt) : Bool := (resourceWaits? stmt).isSome

def enterResource (account word : String) (stmt : Stmt) : Stmt :=
  match resourceWaits? stmt, stmt with
  | some waits, .mk start stop (.variable _ items) =>
    let enter : Expr := .member (.ident account) (if waits then "a" else "u") false
    .mk start stop (.variable word (items.map fun (found, value) =>
      (found, value.map fun value => .callOf enter [value])))
  | _, _ => stmt

/-- Statements whose resources are given up behind them. What declares a resource declares with the
word then. -/
def withResources (word : String) (body : List Stmt) : Lower Stmt := do
  let account ← Lower.fresh "usingCtx"
  let helper ← Lower.helper "usingCtx"
  let failure ← Lower.fresh "_"
  let part (name : String) : Expr := .member (.ident account) name false
  let close : Expr := .callOf (part "d") []
  let close := if body.any fun stmt => resourceWaits? stmt == some true then .await close 0 else close
  return .new (.tryStmt
    (.declare "var" account (some (.callOf (.ident helper) [])) ::
      body.map (enterResource account word))
    (some (some (.ident failure),
      [.ofExpr (.assign "=" (.target (part "e")) (.ident failure))]))
    (some [.ofExpr close]))

def exportOf (names : List String) : Stmt :=
  .new (.exportNames false (names.map fun name => ⟨{ text := name }, { text := name }, false⟩) none none)

def classVariable (found : Class) : Node :=
  .variable "var" [(.ident (found.name.getD ""), some (.classExpr found))]

/-- What stays at the top of a script and what belongs to the statements whose resources are given
up, at most `n` deep. -/
def splitTop (n : Nat) (stmt : Stmt) : Lower (List Stmt × List Stmt) := do
  let inside (node : Node) : Stmt := .mk stmt.start stmt.stop node
  let defaultOf (name : String) : Stmt :=
    .new (.exportNames false [⟨{ text := name }, { text := "default" }, false⟩] none none)
  let default (value : Expr) : Lower (List Stmt × List Stmt) := do
    let name ← Lower.fresh "default"
    return ([defaultOf name], [inside (.variable "var" [(.ident name, some value)])])
  match stmt.node with
  | .functionDecl _ | .importDecl .. | .exportAll .. | .exportNames .. => return ([stmt], [])
  | .classDecl found => return ([], [inside (classVariable found)])
  | .variable _ items =>
    return ([], [if declaresResource stmt then stmt else inside (.variable "var" items)])
  | .exportDecl declaration =>
    match declaration.node with
    | .classDecl found => return ([exportOf found.name.toList], [inside (classVariable found)])
    | .variable _ items =>
      return ([exportOf (Scope.variableNames n items)], [inside (.variable "var" items)])
    | _ => return ([stmt], [])
  | .exportDefault value => default value
  | .exportDefaultDecl declaration =>
    match declaration.node with
    | .classDecl found =>
      match found.name with
      | some name => return ([defaultOf name], [inside (classVariable found)])
      | none => default (.classExpr found)
    | _ => return ([stmt], [])
  | _ => return ([], [stmt])

/-- Statements without declarations of resources; `isTop` tells that they are those of a script. -/
def resourceFree (n : Nat) (isTop : Bool) (body : List Stmt) : Lower (List Stmt) := do
  if !body.any declaresResource then return body
  else if isTop then
    let parts ← body.mapM (splitTop n)
    return parts.flatMap Prod.fst ++ [← withResources "var" (parts.flatMap Prod.snd)]
  else return [← withResources "const" body]

end ComponentBundle.Script.Lowering
