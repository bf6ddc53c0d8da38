import ComponentBundle.Style.Value

/-!
# Operations on values

What the operators do. An operation that a calculation cannot carry out is left to the program that
shows the page.
-/
namespace ComponentBundle.Style

/-- A result, or the message that there is none. -/
abbrev Outcome := Except String

namespace Value

/-- The failure of an operator that means nothing for two values. -/
def undefinedOperation (left right : Value) (operator : Operator) : Outcome Value :=
  .error ("Undefined operation \"" ++ left.shown ++ " " ++ operator.text ++ " " ++ right.shown ++
    "\".")

def incompatible (left right : Measure) : String :=
  "Incompatible units " ++ right.unitText ++ " and " ++ left.unitText ++ "."

def measured (left right : Measure) (failure : String) (operate : Float → Float → Float) :
    Outcome Value :=
  match right.valueIn? left with
  | some value =>
    let units := if left.isPlain then right else left
    .ok (.number (Measure.withUnits (operate left.value value) units) none)
  | none => .error failure

def joined (left right : Value) (mark : String) : Outcome Value := do
  return plain ((← left.css) ++ mark ++ (← right.css))

/-- Whether a value can stand in no style sheet. -/
def isAbstract : Value → Bool
  | .map _ | .function _ => true
  | _ => false

def beforeText (left right : Value) : Outcome Value := do
  match right with
  | .string text isQuoted => return .string ((← left.css) ++ text) isQuoted
  | _ => joined left right ""

/-- The sum of two numbers, or two texts put together. -/
def add (left right : Value) : Outcome Value :=
  match left, right with
  | .number x _, .number y _ => measured x y (incompatible x y) (· + ·)
  | .number .., .calculation _ | .number .., .color _ => undefinedOperation left right .plus
  | .number x _, .string text isQuoted => .ok (.string (x.text ++ text) isQuoted)
  | .number x _, _ => do
    if right.isAbstract then throw (notWritable right)
    return plain (x.text ++ (← right.css))
  | .calculation _, .string .. => beforeText left right
  | .calculation _, _ => undefinedOperation left right .plus
  | .map _, _ | .function _, _ => .error (notWritable left)
  | .bool _, .string text true => do return .string ((← left.css) ++ text) true
  | .bool _, _ => joined left right ""
  | .null, .null => .ok .null
  | .null, _ => do return plain (← right.css)
  | .color _, .string .. | .color _, .null | .color _, .list .. => beforeText left right
  | .color _, _ => undefinedOperation left right .plus
  | .string text isQuoted, .string other _ => .ok (.string (text ++ other) isQuoted)
  | .string text isQuoted, _ => do return .string (text ++ (← right.css)) isQuoted
  | .list .., _ | .arguments .., _ => beforeText left right

/-- The difference of two numbers, or two texts with a dash between them. -/
def sub (left right : Value) : Outcome Value :=
  match left, right with
  | .number x _, .number y _ => measured x y (incompatible x y) (· - ·)
  | .number .., .calculation _ | .number .., .color _ | .color _, .number .. |
    .color _, .color _ | .calculation _, _ => undefinedOperation left right .minus
  | .number x _, _ => do
    if right.isAbstract then throw (notWritable right)
    return plain (x.text ++ "-" ++ (← right.css))
  | .map _, _ | .function _, _ => .error (notWritable left)
  | _, _ => joined left right "-"

def mul (left right : Value) : Outcome Value :=
  match left, right with
  | .number x _, .number y _ => .ok (.number (x.mul y) none)
  | _, _ => undefinedOperation left right .times

/-- The quotient of two numbers, or two texts with a slash between them. -/
def div (left right : Value) : Outcome Value :=
  match left, right with
  | .number x _, .number y _ => .ok (.number (x.div y) none)
  | _, _ => joined left right "/"

def modulo (left right : Value) : Outcome Value :=
  match left, right with
  | .number x _, .number y _ => measured x y (incompatible y x) signedRest
  | _, _ => undefinedOperation left right .modulo

def compare (operator : Operator) (left right : Value) : Outcome Value :=
  match left, right with
  | .number x _, .number y _ =>
    match y.valueIn? x with
    | some value =>
      let holds := match operator with
        | .less => x.value < value
        | .lessOrEqual => x.value ≤ value
        | .greater => value < x.value
        | _ => value ≤ x.value
      .ok (.bool holds)
    | none => .error (incompatible x y)
  | _, _ => undefinedOperation left right operator

def signed (sign : Sign) (value : Value) : Outcome Value :=
  match sign, value with
  | .not, _ => .ok (.bool !value.isTruthy)
  | .plus, .number m _ => .ok (.number m none)
  | .minus, .number m _ => .ok (.number { m with value := -m.value } none)
  | .plus, .calculation _ => .error ("Undefined operation \"+" ++ value.shown ++ "\".")
  | .minus, .calculation _ => .error ("Undefined operation \"-" ++ value.shown ++ "\".")
  | .plus, _ => do return plain ("+" ++ (← value.css))
  | .minus, _ => do return plain ("-" ++ (← value.css))
  | .over, _ => do return plain ("/" ++ (← value.css))

def operate (operator : Operator) (left right : Value) : Outcome Value :=
  match operator with
  | .singleEqual => joined left right "="
  | .or => .ok (if left.isTruthy then left else right)
  | .and => .ok (if left.isTruthy then right else left)
  | .equal => .ok (.bool (left.isEqual right))
  | .notEqual => .ok (.bool !(left.isEqual right))
  | .greater | .greaterOrEqual | .less | .lessOrEqual => compare operator left right
  | .plus => add left right
  | .minus => sub left right
  | .times => mul left right
  | .over => div left right
  | .modulo => modulo left right

def quotient (left right : Value) : Outcome Value := do
  match left, right, ← div left right with
  | .number x p, .number y q, .number value _ =>
    let text (m : Measure) (written : Option Quotient) := match written with
      | some found => found.text
      | none => m.text
    return .number value (some ⟨x, y, text x p ++ "/" ++ text y q⟩)
  | _, _, value => return value

end Value

namespace Calculation

/-- Units that may turn out to be of one kind, though only the page tells how long they are. -/
def lengthUnits : List String :=
  ["em", "ex", "ch", "rem", "vw", "vh", "vmin", "vmax", "cm", "mm", "q", "in", "pt", "pc", "px"]

def unitKinds : List (List String) :=
  [lengthUnits, ["deg", "grad", "rad", "turn"], ["s", "ms"], ["Hz", "kHz"], ["dpi", "dpcm", "dppx"]]

def mayAgree (x y : Measure) : Bool :=
  match x.above, y.above with
  | [first], [second] =>
    match unitKinds.find? (·.contains first), unitKinds.find? (·.contains second) with
    | some kind, some _ => kind.contains second
    | _, _ => true
  | _, _ => true

def measures (values : List Calculation) : List Measure :=
  values.filterMap fun
    | .number m => some m
    | _ => none

/-- Fails if two of the numbers can be compared on no page. -/
def requirePairs : List Measure → Outcome Unit
  | [] => .ok ()
  | first :: rest =>
    match rest.find? fun other => !mayAgree first other with
    | some other => .error (first.text ++ " and " ++ other.text ++ " are incompatible.")
    | none => requirePairs rest

/-- Fails if the calculations cannot stand in one calculation of a style sheet. -/
def requireAgreement (values : List Calculation) : Outcome Unit := do
  let known := measures values
  if let some found := known.find? fun m => !m.isSimple then
    throw ("Number " ++ found.text ++ " isn't compatible with CSS calculations.")
  requirePairs known

def unwrapped : Calculation → Calculation
  | .call "calc" [inner] => inner
  | other => other

def flipped (operator : Operator) (right : Calculation) : Operator × Calculation :=
  match right with
  | .number m =>
    if m.value < 0 then
      (if operator == .plus then .minus else .plus, .number { m with value := -m.value })
    else (operator, right)
  | _ => (operator, right)

/-- An operation in a calculation, carried out if it can be. Where the least or the greatest number is
looked for, one without units goes with any other. -/
def operate (operator : Operator) (left right : Calculation) (isInExtreme : Bool) :
    Outcome Calculation := do
  let left := left.unwrapped
  let right := right.unwrapped
  match operator, left, right with
  | .times, .number x, .number y => return .number (x.mul y)
  | .over, .number x, .number y => return .number (x.div y)
  | .times, _, _ | .over, _, _ => return .operation operator left right
  | _, _, _ =>
    if let (.number x, .number y) := (left, right) then
      if isInExtreme || x.isPlain == y.isPlain then
        if let some value := y.valueIn? x then
          let units := if x.isPlain then y else x
          return .number (Measure.withUnits
            (if operator == .plus then x.value + value else x.value - value) units)
    requireAgreement [left, right]
    let (operator, right) := flipped operator right
    return .operation operator left right

def ofValue (v : Value) : Outcome Calculation :=
  match v with
  | .number m _ => .ok (.number m)
  | .calculation found => .ok found
  | .string text false => .ok (.word text)
  | _ => .error ("Value " ++ v.shown ++ " can't be used in a calculation.")

/-- The least or the greatest of numbers, if all can be compared. -/
def extreme? (isLess : Float → Float → Bool) : List Calculation → Option Measure
  | .number first :: rest => rest.foldlM (fun best c => do
      let .number m := c | none
      let value ← m.valueIn? best
      return if isLess value best.value then m else best) first
  | _ => none

/-- The middle one of three numbers, if they can be compared. -/
def middle? : List Calculation → Option Measure
  | [.number low, .number value, .number high] => do
    let least ← low.valueIn? value
    let greatest ← high.valueIn? value
    let _ ← high.valueIn? low
    return if value.value ≤ least then low else if greatest ≤ value.value then high else value
  | _ => none

def isText : Calculation → Bool
  | .word _ | .inserted _ => true
  | _ => false

/-- A named calculation, carried out if it can be. -/
def evaluate (name : String) (arguments : List Calculation) : Outcome Value := do
  let arguments := arguments.map unwrapped
  let kept : Value := .calculation (.call name arguments)
  let orKept (found : Option Measure) : Outcome Value := do
    match found with
    | some m => return .number m none
    | none =>
      requireAgreement arguments
      return kept
  match name, arguments with
  | "calc", [.number m] => return .number m none
  | "calc", [.call inner given] => return .calculation (.call inner given)
  | "calc", _ => return kept
  | "min", _ => orKept (extreme? (· < ·) arguments)
  | "max", _ => orKept (extreme? (fun x y => y < x) arguments)
  | _, _ =>
    if let some m := middle? arguments then return .number m none
    let count := arguments.length
    if count != 3 && !arguments.any isText then
      throw ("3 arguments required, but only " ++ toString count ++
        (if count = 1 then " was" else " were") ++ " passed.")
    orKept none

end Calculation

end ComponentBundle.Style
