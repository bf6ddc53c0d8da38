import ComponentBundle.Style.Builtin.Given
import ComponentBundle.Style.Color

/-!
# Functions of numbers
-/
namespace ComponentBundle.Style.Builtin

open Value

def ofNumber (change : Float → Float) : Builtin := do
  Call.atMost 1
  let m ← Call.number 0 "number"
  return ofMeasure { m with value := change m.value }

/-- A function that makes a whole number of one. -/
def toInteger (change : Float → Float) : Builtin := do
  Call.atMost 1
  let m ← Call.number 0 "number"
  if m.value.isNaN || m.value.isInf then Call.stop "Infinity or NaN toInt"
  return ofMeasure { m with value := change m.value }

/-- A function of one number without units. -/
def ofPlainNumber (change : Float → Float) : Builtin := do
  Call.atMost 1
  return ofFloat (change (← Call.plainNumber 0 "number"))

def percentage : Builtin := do
  Call.atMost 1
  return ofMeasure (.ofUnit ((← Call.plainNumber 0 "number") * 100) "%")

def unit : Builtin := do
  Call.atMost 1
  return .string (← Call.number 0 "number").unitText true

/-- Whether a number has no units. -/
def isUnitless : Builtin := do
  Call.atMost 1
  return .bool (← Call.number 0 "number").isPlain

/-- Whether two numbers can be compared. -/
def comparable : Builtin := do
  Call.atMost 2
  let x ← Call.number 0 "number1"
  let y ← Call.number 1 "number2"
  return .bool (x.isComparable y)

/-- The quotient of two numbers. -/
def div : Builtin := do
  Call.atMost 2
  let x ← Call.arg 0 "number1"
  let y ← Call.arg 1 "number2"
  Value.div x y

/-- All arguments, which have to be numbers. -/
def allNumbers : Call (List Measure) := do
  Call.atLeastOne
  (← Call.others).mapM fun value =>
    match value with
    | .number m _ => pure m
    | _ => Call.stop (value.shown ++ " is not a number.")

/-- The number that another one is chosen over, of all arguments. -/
def extreme (operator : Operator) : Builtin := do
  match ← allNumbers with
  | [] => return .null
  | first :: rest =>
    let best ← rest.foldlM (fun best m => do
      let isChosen ← (Value.compare operator (ofMeasure m) (ofMeasure best) : Outcome Value)
      return if isChosen.isTruthy then m else best) first
    return ofMeasure best

/-- What is said of numbers some of which have units. -/
def mixedUnits (first second : String) : Call Unit :=
  Call.stop (first ++ " but " ++ second ++
    ". Arguments must all have units or all be unitless.")

/-- A number between two others. -/
def clampNumber : Builtin := do
  Call.atMost 3
  let low ← Call.number 0 "min"
  let m ← Call.number 1 "number"
  let high ← Call.number 2 "max"
  let exceeds (x y : Measure) : Call Bool := do
    let found ← (Value.compare .greater (ofMeasure x) (ofMeasure y) : Outcome Value)
    return found.isTruthy
  let _ ← exceeds low high
  let has (m : Measure) : String := " has unit " ++ m.unitText
  if low.isPlain && !m.isPlain then mixedUnits "$min is unitless" ("$number" ++ has m)
  if !low.isPlain && m.isPlain then mixedUnits ("$min" ++ has low) "$number is unitless"
  if !low.isPlain && high.isPlain then mixedUnits ("$min" ++ has low) "$max is unitless"
  if ← exceeds low m then return ofMeasure low
  let isAbove ← (Value.compare .less (ofMeasure high) (ofMeasure m) : Outcome Value)
  return ofMeasure (if isAbove.isTruthy then high else m)

def hypotenuse : Builtin := do
  match ← allNumbers with
  | [] => return .null
  | first :: rest =>
    let parts ← rest.zipIdx.mapM fun (m, n) => do
      let place := "argument " ++ toString (n + 2)
      if first.isPlain && !m.isPlain then
        mixedUnits "Argument 1 is unitless" (place ++ " has unit " ++ m.unitText)
      if !first.isPlain && m.isPlain then
        mixedUnits ("Argument 1 has unit " ++ first.unitText) (place ++ " is unitless")
      match m.valueIn? first with
      | some x => pure x
      | none => Call.stop (incompatible m first)
    let sum := parts.foldl (fun sum x => sum + x * x) (first.value * first.value)
    return ofMeasure { first with value := sum.sqrt }

def power : Builtin := do
  Call.atMost 2
  let x ← Call.plainNumber 0 "base"
  let y ← Call.plainNumber 1 "exponent"
  return ofFloat (x.pow y)

def logarithm : Builtin := do
  Call.atMost 2
  let x ← Call.plainNumber 0 "number"
  match ← Call.argD 1 "base" .null with
  | .null =>
    return ofFloat (if x < 0 then 0.0 / 0.0 else if x == 0 then -1.0 / 0.0 else x.log)
  | value =>
    let base ← (← (value.asNumber "base" : Outcome Measure)).asPlain "base"
    return ofFloat (if base == 0 then 0 else x.log / base.log)

def ofAngle (change : Float → Float) : Builtin := do
  Call.atMost 1
  let m ← Call.number 0 "number"
  match m.valueIn? (.ofUnit 0 "rad") with
  | some x => return ofFloat (change x)
  | none => Call.stop ("$number: Expected " ++ m.text ++ " to be an angle.")

def degreesOf (x : Float) : Value := ofMeasure (.ofUnit (x * (180 / halfTurn)) "deg")

def toAngle (change : Float → Float) : Builtin := do
  Call.atMost 1
  let m ← Call.number 0 "number"
  if !m.isPlain then Call.stop ("$number: Expected " ++ m.text ++ " to be unitless.")
  return degreesOf (change m.value)

def angleOf : Builtin := do
  Call.atMost 2
  let y ← Call.number 0 "y"
  let x ← Call.number 1 "x"
  if y.isPlain && !x.isPlain then mixedUnits "$y is unitless" ("$x has unit " ++ x.unitText)
  if !y.isPlain && x.isPlain then mixedUnits ("$y has unit " ++ y.unitText) "$x is unitless"
  match y.valueIn? x with
  | some height => return degreesOf (Float.atan2 height x.value)
  | none => Call.stop (incompatible x y)

/-- A number between zero and one, or from one to a limit. -/
def random : Builtin := do
  Call.atMost 1
  match ← Call.argD 0 "limit" .null with
  | .null => return ofFloat (Float.ofNat ((← get).draw % 9007199254740992) / 9007199254740992)
  | value =>
    let m ← (value.asNumber "limit" : Outcome Measure)
    let limit ← m.asInteger "$limit: "
    if limit < 1 then Call.stop ("$limit: Must be greater than 0, was " ++ m.text ++ ".")
    return ofInt (1 + (← get).draw % limit)

def numberFunctions : List (String × Builtin) := [
  ("percentage", percentage), ("round", toInteger roundNear), ("ceil", toInteger Float.ceil),
  ("floor", toInteger Float.floor), ("abs", ofNumber Float.abs), ("unit", unit),
  ("unitless", isUnitless), ("comparable", comparable), ("min", extreme .less),
  ("max", extreme .greater), ("random", random)]

def mathFunctions : List (String × Builtin) := [
  ("ceil", toInteger Float.ceil), ("floor", toInteger Float.floor), ("max", extreme .greater),
  ("min", extreme .less), ("round", toInteger roundNear), ("abs", ofNumber Float.abs),
  ("compatible", comparable), ("is-unitless", isUnitless), ("unit", unit),
  ("percentage", percentage), ("clamp", clampNumber), ("sqrt", ofPlainNumber Float.sqrt),
  ("cos", ofAngle Float.cos), ("sin", ofAngle Float.sin), ("tan", ofAngle Float.tan),
  ("acos", toAngle Float.acos), ("asin", toAngle Float.asin), ("atan", toAngle Float.atan),
  ("log", logarithm), ("pow", power), ("hypot", hypotenuse), ("atan2", angleOf),
  ("random", random), ("div", div)]

def mathVariables : List (String × Value) := [
  ("e", ofFloat 2.718281828459045), ("pi", ofFloat halfTurn),
  ("epsilon", ofFloat 2.220446049250313e-16), ("max-safe-integer", ofFloat 9007199254740991),
  ("min-safe-integer", ofFloat (-9007199254740991)),
  ("max-number", ofFloat 1.7976931348623157e308), ("min-number", ofFloat 2.2250738585072014e-308)]

end ComponentBundle.Style.Builtin
