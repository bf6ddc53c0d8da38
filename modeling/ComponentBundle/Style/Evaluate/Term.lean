import ComponentBundle.Style.Evaluate.Reflection

/-!
# Values of expressions
-/
namespace ComponentBundle.Style.Eval

variable (i : Interpreter) (c : Context)

def pairs (list : List (Term × Term)) : Eval Value := do
  let found ← list.foldlM (fun found (key, value) => do
    let k ← i.term c key
    if (Builtin.lookup found k).isSome then stop "Duplicate key." key.span
    let v ← i.term c value
    return found ++ [(k, v.withoutQuotient)]) []
  return .map found

def binary (operator : Operator) (left right : Term) (keepsSlash : Bool) (span : Span) :
    Eval Value := do
  let first ← i.term c left
  match operator, first.isTruthy with
  | .or, true => return first
  | .and, false => return first
  | _, _ =>
    let second ← i.term c right
    if keepsSlash then ofOutcome (Value.quotient first second) span
    else ofOutcome (Value.operate operator first second) span

/-- Whether an expression stands for a value that is known later. -/
def isVariableCall (t : Term) : Bool :=
  match t.node with
  | .call r _ => r.name.toLower == "var"
  | _ => false

/-- An operand of a calculation; `n` bounds how deep the operations are nested. What is wrong with a
calculation is reported in front of the whole style. -/
def operand (isInExtreme : Bool) : (n : Nat) → Term → Eval Calculation
  | 0, _ => stop "Value can't be used in a calculation." c.front
  | n + 1, t =>
    match t.node with
    | .paren inner => do
      let found ← operand isInExtreme n inner
      match found with
      | .word text => return if isVariableCall inner then .word ("(" ++ text ++ ")") else found
      | _ => return found
    | .string pieces false => do return .inserted (← piecesText i c pieces)
    | .binary operator left right _ => do
      let first ← operand isInExtreme n left
      let second ← operand isInExtreme n right
      if c.isInSupports then return .operation operator first second
      ofOutcome (Calculation.operate operator first second isInExtreme) c.front
    | _ => do
      let value ← i.term c t
      ofOutcome (Calculation.ofValue value) c.front

def calculationDepth : Nat := 1000

/-- A calculation, carried out if it can be, unless it is a declaration that has to be supported. -/
def calculation (name : String) (arguments : List Term) : Eval Value := do
  let isInExtreme := name == "min" || name == "max"
  let operands ← arguments.mapM (operand i c isInExtreme calculationDepth)
  if c.isInSupports then return .calculation (.call name operands)
  ofOutcome (Calculation.evaluate name operands) c.front

/-- The number of functions that may call each other by their names at once. -/
def callDepth : Nat := 64

def call (r : Reference) (arguments : Arguments) (span : Span) : Eval Value := do
  let known := { r with name := r.name.map fun ch => if ch = '_' then '-' else ch }
  match (← findFunction c known span).or (globalFunction? known.name) with
  | some f => callFunction i c callDepth f (← passed i c arguments span) span
  | none =>
    if r.space.isSome then stop "Undefined function." span
    plainCall i c known.name arguments span

def term (t : Term) : Eval Value := do
  match t.node with
  | .null => return .null
  | .bool value => return .bool value
  | .number m => return .number m none
  | .color value => return .color value
  | .string pieces isQuoted => return .string (← stringText i c pieces) isQuoted
  | .name reference =>
    match ← findVariable c reference t.span with
    | some value => return value
    | none => stop "Undefined variable." t.span
  | .list items separator hasBrackets => return .list (← items.mapM (i.term c)) separator hasBrackets
  | .map list => pairs i c list
  | .binary operator left right keepsSlash => binary i c operator left right keepsSlash t.span
  | .unary sign value => ofOutcome (Value.signed sign (← i.term c value)) t.span
  | .paren value => i.term c value
  | .call reference arguments => call i c reference arguments t.span
  | .plainCall name arguments => plainCall i c (← piecesText i c name) arguments t.span
  | .choice arguments => choose i c arguments
  | .parent => return ((← ruleSelector c).map Selector.value).getD .null
  | .calculation name arguments => calculation i c name arguments

end ComponentBundle.Style.Eval
