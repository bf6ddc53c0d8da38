import ComponentBundle.Style.Builtin.Collection
import ComponentBundle.Style.Builtin.Color
import ComponentBundle.Style.Builtin.Number
import ComponentBundle.Style.Builtin.Selector
import ComponentBundle.Style.Builtin.Text

/-!
# Tables of functions

The functions that may be called everywhere, and those of the modules that come with the language.
-/
namespace ComponentBundle.Style.Builtin

open Value

def kindOf : Builtin := do
  Call.atMost 1
  return plain (← Call.arg 0 "value").kind

def inspect : Builtin := do
  Call.atMost 1
  return plain (← Call.arg 0 "value").shown

def hasFeature : Builtin := do
  Call.atMost 1
  let (name, _) ← Call.string 0 "feature"
  return .bool (["global-variable-shadowing", "extend-selector-pseudoclass", "units-level-3",
    "at-error", "custom-property"].contains name)

/-- The calculation that an argument is, by its name and with its arguments. -/
def calculationAt : Call (String × List Calculation) := do
  Call.atMost 1
  match ← Call.arg 0 "calc" with
  | .calculation (.call name operands) => return (name, operands)
  | .calculation other => return ("calc", [other])
  | value => Call.stop ("$calc: " ++ value.shown ++ " is not a calculation.")

def calculationName : Builtin := do return .string (← calculationAt).1 true

def calculationArguments : Builtin := do
  let (_, operands) ← calculationAt
  return .list (operands.map fun (operand : Calculation) => match operand with
    | .number m => ofMeasure m
    | .call .. => .calculation operand
    | other => plain other.text) .comma false

/-- The first value if the condition holds, or else the second one. -/
def choice : Builtin := do
  Call.atMost 3
  if (← Call.arg 0 "condition").isTruthy then Call.arg 1 "if-true" else Call.arg 2 "if-false"

/-- Functions about values that may be called everywhere. -/
def metaFunctions : List (String × Builtin) :=
  [("type-of", kindOf), ("inspect", inspect), ("feature-exists", hasFeature)]

/-- Functions that only the module about values has. -/
def innerMetaFunctions : List (String × Builtin) :=
  [("calc-name", calculationName), ("calc-args", calculationArguments)]

/-- The functions that may be called everywhere. -/
def globals : List (String × Builtin) :=
  ("if", choice) :: numberFunctions ++ stringFunctions.map (fun (name, _, f) => (name, f)) ++
    listFunctions.map (fun (name, _, f) => (name, f)) ++
    mapFunctions.map (fun (name, _, f) => (name, f)) ++
    colorFunctions.map (fun (name, _, f) => (name, f)) ++
    selectorFunctions.map (fun (name, _, f) => (name, f)) ++ metaFunctions

def module? (name : String) : Option (List (String × Builtin)) :=
  match name with
  | "math" => some mathFunctions
  | "string" => some (stringFunctions.map fun (_, name, f) => (name, f))
  | "list" => some (listFunctions.map (fun (_, name, f) => (name, f)) ++ [("slash", slashList)])
  | "map" => some (mapFunctions.map (fun (_, name, f) => (name, f)) ++ innerMapFunctions)
  | "color" =>
    some (colorFunctions.filterMap (fun (_, name, f) => name.map fun name => (name, f)) ++
      innerColorFunctions)
  | "meta" => some (metaFunctions ++ innerMetaFunctions)
  | "selector" => some (selectorFunctions.map fun (_, name, f) => (name, f))
  | _ => none

def moduleVariables (name : String) : List (String × Value) :=
  if name == "math" then mathVariables else []

end ComponentBundle.Style.Builtin
