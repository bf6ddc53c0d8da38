import ComponentBundle.Style.Operation

/-!
# Arguments of functions

The values that a function is called with, and what it may require of them. A function takes its
arguments one by one, so what it has not taken are more arguments, or arguments that it does not know.
-/
namespace ComponentBundle.Style

/-- The arguments of a call by place and by name, and where the call stands. -/
structure Given where
  positional : List Value := []
  named : List (String × Value) := []
  /-- The places of the arguments that have been taken. -/
  taken : List Nat := []
  draw : Nat := 0
  span : Span

abbrev Call := StateT Given (Except Fault)

/-- A function that needs nothing but its arguments. -/
abbrev Builtin := Call Value

/-- What fails in a call fails at the call. -/
instance : MonadLift Outcome Call where
  monadLift outcome := fun g =>
    match outcome with
    | .ok a => .ok (a, g)
    | .error message => .error ⟨message, g.span⟩

/-- Names with commas between them, and a word in front of the last one. -/
def sentence (names : List String) (word : String) : String :=
  match names.reverse with
  | [] => ""
  | [only] => only
  | last :: before => ", ".intercalate before.reverse ++ " " ++ word ++ " " ++ last

/-- What is said of arguments whose names are not known. -/
def unknownNames (names : List String) : String :=
  "No argument" ++ (if names.length = 1 then "" else "s") ++ " named " ++
    sentence (names.map ("$" ++ ·)) "or" ++ "."

namespace Call

variable {α : Type}

def stop (message : String) : Call α := fun g => .error ⟨message, g.span⟩

/-- The argument of a name, or else the one at a place. It is taken. -/
def get? (place : Nat) (name : String) : Call (Option Value) := do
  let g ← get
  match g.named.lookup name with
  | some value =>
    set { g with named := g.named.filter fun (other, _) => other != name }
    return some value
  | none =>
    set { g with positional := g.positional.set place .null, taken := place :: g.taken }
    return g.positional[place]?

def arg (place : Nat) (name : String) : Call Value := do
  match ← get? place name with
  | some value => return value
  | none => stop ("Missing argument $" ++ name ++ ".")

/-- The argument at a place or of a name, or another value. -/
def argD (place : Nat) (name : String) (default : Value) : Call Value := do
  return (← get? place name).getD default

def named? (name : String) : Call (Option Value) := do
  let g ← get
  set { g with named := g.named.filter fun (other, _) => other != name }
  return g.named.lookup name

def count : Call Nat := do
  let g ← get
  return g.positional.length + g.named.length

/-- Requires that there are at most so many arguments. -/
def atMost (n : Nat) : Call Unit := do
  let found ← count
  if n < found then
    stop ("Only " ++ toString n ++ " argument" ++ (if n = 1 then "" else "s") ++ " allowed, but " ++
      toString found ++ (if found = 1 then " was" else " were") ++ " passed.")

def atLeastOne : Call Unit := do
  if (← count) = 0 then stop "At least one argument must be passed."

/-- The arguments by place that have not been taken. None may have a name. -/
def others : Call (List Value) := do
  let g ← get
  if let (name, _) :: _ := g.named then stop ("No argument named $" ++ name ++ ".")
  return g.positional.zipIdx.filterMap fun (value, place) =>
    if g.taken.contains place then none else some value

/-- Calls a function of other arguments in the same place. -/
def again (positional : List Value) (call : Call α) : Call α := do
  modify fun g => { g with positional, named := [], taken := [] }
  call

end Call

namespace Value

/-- The failure of an argument that is not of a kind. -/
def mismatch {α : Type} (value : Value) (name kind : String) : Outcome α :=
  .error ("$" ++ name ++ ": " ++ value.shown ++ " is not " ++ kind ++ ".")

def asNumber (value : Value) (name : String) : Outcome Measure :=
  match value with
  | .number m _ => .ok m
  | _ => mismatch value name "a number"

def asString (value : Value) (name : String) : Outcome (String × Bool) :=
  match value with
  | .string text isQuoted => .ok (text, isQuoted)
  | _ => mismatch value name "a string"

def asString? (value : Value) (name : String) : Outcome (Option String) :=
  match value with
  | .string text _ => .ok (some text)
  | .null => .ok none
  | _ => mismatch value name "a string"

def asColor (value : Value) (name : String) : Outcome Color :=
  match value with
  | .color c => .ok c
  | _ => mismatch value name "a color"

def asMap (value : Value) (name : String) : Outcome (List (Value × Value)) :=
  match value.pairs? with
  | some pairs => .ok pairs
  | none => mismatch value name "a map"

end Value

namespace Measure

def asPlain (m : Measure) (name : String) : Outcome Float :=
  if m.isPlain then .ok m.value
  else .error ("$" ++ name ++ ": Expected " ++ m.text ++ " to have no units.")

/-- Requires a whole number; a message may begin with a name. -/
def asInteger (m : Measure) (opening : String) : Outcome Int :=
  match nearInteger? m.value with
  | some n => .ok n
  | none => .error (opening ++ m.text ++ " is not an int.")

def requireUnit (m : Measure) (name unit : String) : Outcome Unit :=
  if m.hasUnit unit then .ok ()
  else .error ("$" ++ name ++ ": Expected " ++ m.text ++ " to have unit \"" ++ unit ++ "\".")

/-- Requires a number between bounds, which are told with a unit. -/
def requireWithin (m : Measure) (name : String) (low high : Float) (unit : String) : Outcome Unit :=
  if low ≤ m.value && m.value ≤ high then .ok ()
  else .error ("$" ++ name ++ ": Expected " ++ m.text ++ " to be within " ++
    numberText low ++ unit ++ " and " ++ numberText high ++ unit ++ ".")

end Measure

namespace Call

def number (place : Nat) (name : String) : Call Measure := do
  (← arg place name).asNumber name

def plainNumber (place : Nat) (name : String) : Call Float := do
  (← number place name).asPlain name

/-- The string at a place or of a name, and whether it is quoted. -/
def string (place : Nat) (name : String) : Call (String × Bool) := do
  (← arg place name).asString name

def color (place : Nat) (name : String) : Call Color := do
  (← arg place name).asColor name

def map (place : Nat) (name : String) : Call (List (Value × Value)) := do
  (← arg place name).asMap name

def bounded (place : Nat) (name : String) (low high : Float) : Call Float := do
  let m ← number place name
  m.requireWithin name low high m.unitText
  return m.value

end Call

namespace Value

/-- Whether a value stands for parts that are known later. -/
def isVariable : Value → Bool
  | .calculation _ => true
  | .string text false => 8 ≤ text.utf8ByteSize && text.startsWith "var("
  | _ => false

/-- Whether the program that shows the page finds the value. -/
def isLate : Value → Bool
  | .calculation _ => true
  | .string text false =>
    ["calc(", "var(", "env(", "min(", "max(", "clamp("].any fun opening => text.startsWith opening
  | _ => false

def plainCall (name : String) (values : List Value) : Outcome Value := do
  let texts ← values.mapM css
  return plain (name ++ "(" ++ ", ".intercalate texts ++ ")")

end Value

end ComponentBundle.Style
