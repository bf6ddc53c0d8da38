import ComponentBundle.Number.Binary
import ComponentBundle.Text.Basic

/-!
# Measures

Numbers with units. Units of one kind are converted into each other, and a unit above the line goes
with one of its kind below the line.
-/
namespace ComponentBundle.Style

def tolerance : Float := 1e-11

/-- Whether two numbers are one to eleven digits behind the point. -/
def isNear (x y : Float) : Bool :=
  x == y || ((x - y).abs ≤ tolerance && (x * 1e11).round == (y * 1e11).round)

def integerOf (x : Float) : Int :=
  let magnitude : Nat := ((Binary.ofFloat x).toNat?).getD 0
  if x < 0 then -(magnitude : Int) else magnitude

def nearInteger? (x : Float) : Option Int :=
  let nearest := x.round
  if x.isNaN || x.isInf || !isNear x nearest then none else some (integerOf nearest)

def floatOfDecimal (d : Decimal) : Float :=
  match Binary.ofDecimal? d with
  | some b => Float.ofScientific b.mantissa false 0 * Float.scaleB 1.0 b.exponent
  | none => 1.0 / 0.0

/-- A number with at most ten digits behind the point. -/
def numberText (x : Float) : String :=
  if x.isNaN then "NaN"
  else if x.isInf then if x < 0 then "-Infinity" else "Infinity"
  else
    let (numerator, denominator) := (Binary.ofFloat x).ratio
    let scaled := roundHalfEven (numerator * powerOfTen 10) denominator
    let digits := Binary.dropZeros 10 ⟨scaled, -10⟩
    let text := String.ofList (if scaled = 0 then ['0'] else digits.positional)
    if x < 0 && scaled ≠ 0 then "-" ++ text else text

/-- The rest of a division that is never negative. -/
def positiveRest (x y : Float) : Float :=
  let rest := Binary.remainder x y
  if rest < 0 then rest + y.abs else rest

def signedRest (x y : Float) : Float :=
  if 0 < y then positiveRest x y
  else if y == 0 then 0.0 / 0.0
  else
    let rest := positiveRest x y
    if rest == 0 then 0.0 else rest + y

def halfTurn : Float := 3.141592653589793

/-- Units that can be converted, and how much of them one of each unit of their kind is. -/
def unitTable : List (String × List (String × Float)) := [
  ("in", [("in", 1), ("cm", 1 / 2.54), ("pc", 1 / 6), ("mm", 1 / 25.4), ("q", 1 / 101.6),
    ("pt", 1 / 72), ("px", 1 / 96)]),
  ("cm", [("in", 2.54), ("cm", 1), ("pc", 2.54 / 6), ("mm", 1 / 10), ("q", 1 / 40),
    ("pt", 2.54 / 72), ("px", 2.54 / 96)]),
  ("pc", [("in", 6), ("cm", 6 / 2.54), ("pc", 1), ("mm", 6 / 25.4), ("q", 6 / 101.6),
    ("pt", 1 / 12), ("px", 1 / 16)]),
  ("mm", [("in", 25.4), ("cm", 10), ("pc", 25.4 / 6), ("mm", 1), ("q", 1 / 4),
    ("pt", 25.4 / 72), ("px", 25.4 / 96)]),
  ("q", [("in", 101.6), ("cm", 40), ("pc", 101.6 / 6), ("mm", 4), ("q", 1),
    ("pt", 101.6 / 72), ("px", 101.6 / 96)]),
  ("pt", [("in", 72), ("cm", 72 / 2.54), ("pc", 12), ("mm", 72 / 25.4), ("q", 72 / 101.6),
    ("pt", 1), ("px", 3 / 4)]),
  ("px", [("in", 96), ("cm", 96 / 2.54), ("pc", 16), ("mm", 96 / 25.4), ("q", 96 / 101.6),
    ("pt", 4 / 3), ("px", 1)]),
  ("deg", [("deg", 1), ("grad", 9 / 10), ("rad", 180 / halfTurn), ("turn", 360)]),
  ("grad", [("deg", 10 / 9), ("grad", 1), ("rad", 200 / halfTurn), ("turn", 400)]),
  ("rad", [("deg", halfTurn / 180), ("grad", halfTurn / 200), ("rad", 1), ("turn", 2 * halfTurn)]),
  ("turn", [("deg", 1 / 360), ("grad", 1 / 400), ("rad", 1 / (2 * halfTurn)), ("turn", 1)]),
  ("s", [("s", 1), ("ms", 1 / 1000)]),
  ("ms", [("s", 1000), ("ms", 1)]),
  ("Hz", [("Hz", 1), ("kHz", 1000)]),
  ("kHz", [("Hz", 1 / 1000), ("kHz", 1)]),
  ("dpi", [("dpi", 1), ("dpcm", 2.54), ("dppx", 96)]),
  ("dpcm", [("dpi", 1 / 2.54), ("dpcm", 1), ("dppx", 96 / 2.54)]),
  ("dppx", [("dpi", 1 / 96), ("dpcm", 2.54 / 96), ("dppx", 1)])]

def fixedUnits : List String :=
  ["em", "rem", "lh", "%", "ex", "ch", "cap", "ic", "rlh", "vw", "vh", "vmin", "vmax", "vi", "vb",
    "fr"]

/-- A known unit in its usual spelling; other units are kept as they are. -/
def usualUnit (unit : String) : String :=
  let known := unitTable.map (·.1) ++ fixedUnits
  (known.find? fun other => other.toLower == unit.toLower).getD unit

/-- How much of the target one of the source is, if they are of one kind. -/
def unitFactor? (source target : String) : Option Float :=
  if source == target then some 1.0
  else (unitTable.lookup target).bind (·.lookup source)

/-- A number and its units above and below the line. -/
structure Measure where
  value : Float
  above : List String := []
  below : List String := []

namespace Measure

/-- Whether the number has no unit. -/
def isPlain (m : Measure) : Bool := m.above.isEmpty && m.below.isEmpty

def ofUnit (value : Float) (unit : String) : Measure := ⟨value, [unit], []⟩

def hasUnit (m : Measure) (unit : String) : Bool := m.above == [unit] && m.below.isEmpty

def unitText (m : Measure) : String :=
  let above := "*".intercalate m.above
  let below := "*".intercalate m.below
  match m.above, m.below with
  | _, [] => above
  | [], [unit] => unit ++ "^-1"
  | [], _ => "(" ++ below ++ ")^-1"
  | _, _ => above ++ "/" ++ below

def text (m : Measure) : String := numberText m.value ++ m.unitText

/-- Whether the number can stand in a style sheet. -/
def isSimple (m : Measure) : Bool := m.above.length ≤ 1 && m.below.isEmpty

def withUnits (value : Float) (m : Measure) : Measure := { m with value }

def sameUnits (first second : Measure) : Bool :=
  first.above == second.above && first.below == second.below

/-- The value of a number in the units of another one. A number without units takes any, and only
single units are converted. -/
def valueIn? (m target : Measure) : Option Float :=
  if m.isPlain || target.isPlain || m.sameUnits target then some m.value
  else match m.above, m.below, target.above, target.below with
    | [source], [], [goal], [] => (unitFactor? source goal).map (m.value * ·)
    | _, _, _, _ => none

def isComparable (first second : Measure) : Bool := (second.valueIn? first).isSome

/-- Takes the first unit of the kind off the list, with what one of it is in the unit. -/
def takeUnit? (unit : String) : List String → Option (Float × List String)
  | [] => none
  | other :: rest =>
    match unitFactor? other unit with
    | some factor => some (factor, rest)
    | none => (takeUnit? unit rest).map fun (factor, rest) => (factor, other :: rest)

/-- Takes units that are both above and below the line away. -/
def cancel (value : Float) (above below kept : List String) : Measure :=
  match above with
  | [] => ⟨value, kept.reverse, below⟩
  | unit :: above =>
    match takeUnit? unit below with
    | some (factor, below) => cancel (value / factor) above below kept
    | none => cancel value above below (unit :: kept)

def mul (first second : Measure) : Measure :=
  cancel (first.value * second.value) (first.above ++ second.above) (first.below ++ second.below) []

def div (first second : Measure) : Measure :=
  cancel (first.value / second.value) (first.above ++ second.below) (first.below ++ second.above) []

/-- Whether two numbers are the same, in whatever units of one kind. -/
def isEqual (first second : Measure) : Bool :=
  first.isPlain == second.isPlain &&
    match second.valueIn? first with
    | some value => isNear first.value value
    | none => false

end Measure

end ComponentBundle.Style
