import ComponentBundle.Script.Lowering.Pattern
import ComponentBundle.Script.Lowering.Value

/-!
# Lowering functions

A function that waits becomes a generator that a helper runs.
-/
namespace ComponentBundle.Script.Lowering

variable (l : Lowering)

/-- The value of `arguments`, which a whole script may not have. -/
def argumentsValue (isTop : Bool) : Expr :=
  let value : Expr := .ident "arguments"
  if isTop then
    .conditional (.binary "===" (.unary "typeof" value) (.string "undefined")) .nothing value
  else value

/-- The declaration of the variables that hold what belongs to a function; `isLate` tells that there
is no `this` yet. -/
def heldDeclaration (isTop isLate : Bool) (held : Held) : List Stmt :=
  let items : List Declarator :=
    held.argumentsName.toList.map (fun name => (.ident name, some (argumentsValue isTop))) ++
      held.superUses.reverse.map (fun (_, name, value) => (.ident name, some value)) ++
      held.thisName.toList.map fun name => (.ident name, if isLate then none else some .this)
  if items.isEmpty then [] else [.new (.variable "var" items)]

/-- Runs a step where `this` and `arguments` belong to a new function, and tells which variables hold
them. -/
def withHeld {α : Type} (step : Lower α) : Lower (α × Held) := do
  let before := (← get).held
  modify fun s => { s with held := {} }
  let result ← step
  let held := (← get).held
  modify fun s => { s with held := before }
  return (result, held)

/-- Runs a step that lowers a function with a `this` and `arguments` of its own. -/
def withThis (step : Lower Function) : Lower Function := do
  let (result, held) ← withHeld step
  return { result with body := heldDeclaration false false held ++ result.body }

def inside (found : Function) (isExpression : Bool) (change : Surroundings → Surroundings) :
    Lowering :=
  let n := l.depth
  let own := if isExpression then found.name.toList else []
  let uses := Scope.partUses n (.statements found.body) ++
    (found.params ++ found.rest.toList).flatMap fun param => Scope.partUses n (.pattern true param)
  (l.declaring (own ++ Scope.parameterNames n found ++ Scope.functionDeclares n found.body) uses).within
    fun around => change { around with isTop := false, isOutermost := false, waiting := .plain }

/-- The value of a function's only statement, which the function results in. -/
def returned (stmt : Stmt) : Stmt :=
  match stmt with
  | .mk start stop (.expression value) => .mk start stop (.returnStmt (some value))
  | stmt => stmt

def withBlock (found : Function) : Function :=
  if found.isShort then { found with isShort := false, body := found.body.map returned } else found

def lengthen (found : Function) : Function :=
  match found.isShort, found.body.reverse with
  | true, last :: first :: before =>
    { found with isShort := false, body := (returned last :: first :: before).reverse }
  | _, _ => found

def parameter (l : Lowering) : Pattern → Lower Pattern
  | .default found (.binary "??" left right) => do
    return .default (← l.pattern found) (← l.expr (← coalesceDefault l left right))
  | found => l.pattern found

/-- Lowers the parameters of a function inside it, and tells what has to be declared in its body
because of them. -/
def parameters (l : Lowering) (found : Function) : Lower (Function × List Stmt) := do
  let params ← found.params.mapM (received l.depth "let")
  let rest ← found.rest.mapM (received l.depth "let")
  let declared := params.flatMap Prod.snd ++ rest.toList.flatMap Prod.snd
  modify fun s => { s with inParameters := true }
  let params ← params.mapM fun param => parameter l param.1
  let rest ← rest.mapM fun rest => l.pattern rest.1
  modify fun s => { s with inParameters := false }
  return ({ found with params, rest }, declared.reverse)

def parts (l : Lowering) (found : Function) : Lower Function := do
  let (found, declared) ← parameters l found
  return lengthen { found with body := ← l.statements (declared ++ found.body) }

def runner (isGenerator : Bool) : Lower String :=
  Lower.helper (if isGenerator then "wrapAsyncGenerator" else "asyncToGenerator")

def generator (found : Function) : Function :=
  { withBlock found with name := none, isAsync := false, isArrow := false, isGenerator := true }

def applied (name : String) : Stmt :=
  .new (.returnStmt (some
    (.callOf (.member (.ident name) "apply" false) [.this, .ident "arguments"])))

def placeholders : List Pattern → Lower (List Pattern)
  | [] => return []
  | .default .. :: _ => return []
  | _ :: rest => do
    let name ← Lower.fresh "x"
    return .ident name :: (← placeholders rest)

/-- What a declared function that waits becomes: a function with its name, and one that makes the
generator when it is called first. -/
def declaredAsync (found : Function) : Lower (Function × Stmt) := do
  let holder ← Lower.fresh (found.name.getD "ref")
  let params ← placeholders found.params
  let helper ← runner found.isGenerator
  let made : Expr := .callOf (.ident helper) [.function (generator found)]
  return ({ name := found.name, params, body := [applied holder] },
    .new (.functionDecl {
      name := some holder
      body := [.ofExpr (.assign "=" (.ident holder) made), applied holder] }))

/-- What a function that waits and is a value becomes. `name` is the one of the variable that holds
it. -/
def asyncValue (found : Function) (name : Option String) : Lower Expr := do
  let helper ← runner found.isGenerator
  let made : Expr := .callOf (.ident helper) [.function (generator found)]
  let isCounted := match found.params with
    | [] | .default .. :: _ => false
    | _ => true
  if found.name.isNone && name.isNone && !isCounted then return made
  let holder ← Lower.fresh (found.name.getD "ref")
  let params ← placeholders found.params
  let caller : Function := { name := found.name.or name, params, body := [applied holder] }
  let last : List Stmt :=
    match found.name with
    | some own => [.new (.functionDecl caller), .new (.returnStmt (some (.ident own)))]
    | none => [.new (.returnStmt (some (.function caller)))]
  let maker : Function := { body := Stmt.declare "var" holder (some made) :: last }
  return .callOf (.function maker) []

/-- Lowers a function that is a value. `name` is the one of the variable that holds it. -/
def functionValue (found : Function) (name : Option String) : Lower Expr := do
  if found.isArrow then
    if found.isAsync then
      let inner := inside l found true fun around =>
        { around with waiting := .yielded, borrowsThis := true }
      asyncValue (← parts inner (withBlock found)) name
    else
      return .function (← parts (inside l found true id) found)
  else
    let waiting : Waiting :=
      if !found.isAsync then .plain else if found.isGenerator then .wrapped else .yielded
    let inner := inside l found true fun around => { around with waiting }.ownThis
    let result ← withThis (parts inner found)
    if found.isAsync then asyncValue result name else return .function result

def functionDeclaration (found : Function) : Lower (Function × List Stmt) := do
  let waiting : Waiting :=
    if !found.isAsync then .plain else if found.isGenerator then .wrapped else .yielded
  let inner := inside l found false fun around => { around with waiting }.ownThis
  let result ← withThis (parts inner found)
  if found.isAsync then
    let (outer, made) ← declaredAsync result
    return (outer, [made])
  else return (result, [])

def method (superHome : Option SuperHome) (found : Function) : Lower Function := do
  if !found.isAsync then
    withThis (parts (inside l found true fun around => { around.ownThis with superHome }) found)
  else
    let waiting : Waiting := if found.isGenerator then .wrapped else .yielded
    let inner := (inside l found true Surroundings.ownThis).within fun around =>
      { around with waiting, borrowsThis := true, superHome }
    let helper ← runner found.isGenerator
    withThis do
      let result ← parts inner found
      let body : Function := { generator result with params := [], rest := none, directives := [] }
      let made : Expr := .callOf (.callOf (.ident helper) [.function body]) []
      return { result with
        isAsync := false
        isGenerator := false
        close := 0
        body := [.new (.returnStmt (some made))] }

/-- The name of the variable that holds `this` of the function at hand. -/
def heldThis : Lower String := do
  match (← get).held.thisName with
  | some name => return name
  | none =>
    let name ← Lower.fresh "this"
    modify fun s => { s with held := { s.held with thisName := some name } }
    return name

/-- The name of the variable that holds `arguments` of the function at hand. -/
def heldArguments : Lower String := do
  match (← get).held.argumentsName with
  | some name => return name
  | none =>
    let name ← Lower.fresh "arguments"
    modify fun s => { s with held := { s.held with argumentsName := some name } }
    return name

def shortArrow (params : List String) (value : Expr) : Expr :=
  .function { isArrow := true, isShort := true, params := params.map .ident, body := [.ofExpr value] }

def superFunction : SuperUse → Lower Expr
  | .read name => return shortArrow [] (.member .super name false)
  | .write name => do
    let value ← Lower.fresh "value"
    return shortArrow [value] (.assign "=" (.target (.member .super name false)) (.ident value))
  | .readAny => do
    let key ← Lower.fresh "prop"
    return shortArrow [key] (.index .super (.ident key) false)
  | .writeAny => do
    let key ← Lower.fresh "prop"
    let value ← Lower.fresh "value"
    return shortArrow [key, value]
      (.assign "=" (.target (.index .super (.ident key) false)) (.ident value))

def superFunctionName : SuperUse → String
  | .read name => "superprop_get" ++ capitalized name
  | .write name => "superprop_set" ++ capitalized name
  | .readAny => "superprop_get"
  | .writeAny => "superprop_set"
where
  capitalized (name : String) : String := String.ofList <|
    match name.toList with
    | first :: rest => Char.toUpper first :: rest
    | [] => []

def heldSuper (use : SuperUse) : Lower Expr := do
  match (← get).held.superUses.find? fun found => found.1 = use with
  | some (_, name, _) => return .ident name
  | none =>
    let name ← Lower.fresh (superFunctionName use)
    let function ← superFunction use
    modify fun s =>
      { s with held := { s.held with superUses := (use, name, function) :: s.held.superUses } }
    return .ident name

def wait (value : Expr) (offset : Nat) : Lower Expr := do
  match l.around.waiting with
  | .yielded => return .yield false (some value)
  | .wrapped =>
    let helper ← Lower.helper "awaitAsyncGenerator"
    return .yield false (some (.callOf (.ident helper) [value]))
  | .plain =>
    if l.around.isTop then
      Lower.refuse
        "Top-level await is not available in the configured target environment." offset
    return .await value offset

def yieldAll (value : Expr) : Lower Expr := do
  if l.around.waiting = .wrapped then
    let iterator ← Lower.helper "asyncIterator"
    let delegate ← Lower.helper "asyncGeneratorDelegate"
    return .yield true (some (.callOf (.ident delegate) [.callOf (.ident iterator) [value]]))
  else return .yield true (some value)

/-- What a loop over values that have to be waited for becomes; its parts have been lowered. -/
def awaitLoop (label : Option String) (left : Stmt) (right : Expr) (body : Stmt) :
    Lower (List Stmt) := do
  let iterator ← Lower.helper "asyncIterator"
  let abrupt ← Lower.fresh "iteratorAbruptCompletion"
  let failed ← Lower.fresh "didIteratorError"
  let failure ← Lower.fresh "iteratorError"
  let items ← Lower.fresh "iterator"
  let step ← Lower.fresh "step"
  let name (text : String) : Expr := .ident text
  let waitFor (value : Expr) : Lower Expr := wait l value 0
  let set_ (target : String) (value : Expr) : Expr := .assign "=" (.ident target) value
  let item : Expr := .member (name step) "value" false
  let first : Stmt := match left.node with
    | .variable word [(found, none)] => .new (.variable word [(found, some item)])
    | .forTarget found => .ofExpr (.assign "=" found item)
    | _ => left
  let inner : List Stmt := match body.node with
    | .block (_ :: _) => [body]
    | _ => []
  let next ← waitFor (.callOf (.member (name items) "next" false) [])
  let close ← waitFor (.callOf (.member (name items) "return" false) [])
  let loop : Stmt := .new (.forStmt
    (some (.new (.variable "var" [(.ident items, some (.callOf (name iterator) [right])),
      (.ident step, none)])))
    (some (set_ abrupt (.unary "!" (.member (.paren (set_ step next)) "done" false))))
    (some (set_ abrupt (.bool false)))
    (.new (.block (first :: inner))))
  let loop := match label with
    | some label => Stmt.new (.labeled label loop)
    | none => loop
  let hasReturn : Expr := .binary "&&" (name abrupt)
    (.binary "!=" (.member (name items) "return" false) .null)
  return [
    .declare "var" abrupt (some (.bool false)),
    .declare "var" failed (some (.bool false)),
    .declare "var" failure none,
    .new (.tryStmt [loop]
      (some (some (.ident "err"), [
        .ofExpr (set_ failed (.bool true)), .ofExpr (set_ failure (name "err"))]))
      (some [.new (.tryStmt
        [.new (.ifStmt hasReturn (.new (.block [.ofExpr close])) none)] none
        (some [.new (.ifStmt (name failed) (.new (.block [.new (.throwStmt (name failure))])) none)]))]))]

end ComponentBundle.Script.Lowering
