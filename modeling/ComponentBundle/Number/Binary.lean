/-!
# Binary floating point

Numbers as machines store them, a whole number of at most 53 bits times a power of two, and their
decimal texts: the double nearest to a ratio, and the fewest digits that lead back to a double. All
arithmetic is on natural numbers, so nothing is lost on the way.
-/
namespace ComponentBundle

def powerOfTwo (n : Nat) : Nat := Nat.pow 2 n

def powerOfTen (n : Nat) : Nat := Nat.pow 10 n

/-- The number `mantissa * 2 ^ exponent`. -/
structure Binary where
  mantissa : Nat
  exponent : Int
  deriving DecidableEq, Repr

structure Decimal where
  digits : Nat
  exponent : Int
  deriving DecidableEq, Repr

/-- The quotient to the nearest whole number, a half going to the even neighbour. -/
def roundHalfEven (numerator denominator : Nat) : Nat :=
  let quotient := numerator / denominator
  let twice := 2 * (numerator % denominator)
  if denominator < twice then quotient + 1
  else if twice < denominator then quotient
  else quotient + quotient % 2

namespace Binary

def leastExponent : Int := -1074

def greatestExponent : Int := 971

def ofRatio? (numerator denominator : Nat) : Option Binary :=
  if numerator = 0 ∨ denominator = 0 then some ⟨0, 0⟩
  else
    let scaled (q : Int) : Nat × Nat :=
      if q < 0 then (numerator * powerOfTwo q.natAbs, denominator)
      else (numerator, denominator * powerOfTwo q.natAbs)
    let guess : Int := (numerator.log2 : Int) - denominator.log2 - 52
    let tooLarge := (scaled guess).1 < (scaled guess).2 * powerOfTwo 52
    let q := max leastExponent (if tooLarge then guess - 1 else guess)
    let m := roundHalfEven (scaled q).1 (scaled q).2
    let (m, q) := if m = powerOfTwo 53 then (powerOfTwo 52, q + 1) else (m, q)
    if greatestExponent < q then none else some ⟨m, q⟩

def ofDecimal? (d : Decimal) : Option Binary :=
  if d.exponent < 0 then
    -- Far below the smallest double nothing but zero is near.
    if d.exponent.natAbs > (toString d.digits).length + 400 then some ⟨0, 0⟩
    else ofRatio? d.digits (powerOfTen d.exponent.natAbs)
  else if d.digits = 0 then some ⟨0, 0⟩
  else if d.exponent.natAbs > 400 then none
  else ofRatio? (d.digits * powerOfTen d.exponent.natAbs) 1

/-- The double nearest to a whole number, unless the number is too large for one. -/
def ofNat? (n : Nat) : Option Binary := ofRatio? n 1

/-- The double nearest to `numerator / denominator * 2 ^ exponent`, unless that is too large for
one. -/
def ofScaledRatio? (numerator denominator : Nat) (exponent : Int) : Option Binary :=
  if exponent < 0 then ofRatio? numerator (denominator * powerOfTwo exponent.natAbs)
  else ofRatio? (numerator * powerOfTwo exponent.natAbs) denominator

def times? (a b : Binary) : Option Binary :=
  ofScaledRatio? (a.mantissa * b.mantissa) 1 (a.exponent + b.exponent)

def over? (a b : Binary) : Option Binary :=
  ofScaledRatio? a.mantissa b.mantissa (a.exponent - b.exponent)

def ratio (b : Binary) : Nat × Nat :=
  if b.exponent < 0 then (b.mantissa, powerOfTwo b.exponent.natAbs)
  else (b.mantissa * powerOfTwo b.exponent.natAbs, 1)

def toNat? (b : Binary) : Option Nat :=
  let (n, d) := b.ratio
  if n % d = 0 then some (n / d) else none

/-- The exponent of the first decimal digit of a positive ratio, looked for from `guess` upwards. -/
def leadingExponent (numerator denominator : Nat) : Nat → Int → Int
  | 0, guess => guess
  | fuel + 1, guess =>
    let next := guess + 1
    let reaches :=
      if next < 0 then denominator ≤ numerator * powerOfTen next.natAbs
      else denominator * powerOfTen next.natAbs ≤ numerator
    if reaches then leadingExponent numerator denominator fuel next else guess

def dropZeros : Nat → Decimal → Decimal
  | 0, d => d
  | fuel + 1, d =>
    if d.digits ≠ 0 ∧ d.digits % 10 = 0 then dropZeros fuel ⟨d.digits / 10, d.exponent + 1⟩ else d

/-- The decimal number with the fewest digits that the double is nearest to; of several with that
many digits the one closest to the double. -/
def shortest (b : Binary) : Decimal :=
  if b.mantissa = 0 then ⟨0, 0⟩
  else
    -- The double, and the ends of the range of numbers nearest to it, over one denominator.
    let up := powerOfTwo (b.exponent - 2).toNat
    let denominator := powerOfTwo (2 - b.exponent).toNat
    let value := 4 * b.mantissa * up
    let isFirst := b.mantissa = powerOfTwo 52 ∧ leastExponent < b.exponent
    let low := (4 * b.mantissa - (if isFirst then 1 else 2)) * up
    let high := (4 * b.mantissa + 2) * up
    let closed := b.mantissa % 2 = 0
    let first : Int := leadingExponent value denominator 700 (-330)
    let tryDigits (count : Nat) : Option Decimal :=
      let step : Int := first + 1 - count
      -- Numbers on the grid are counted in steps, so the double is `v / d` steps from zero.
      let scale : Nat := if step < 0 then powerOfTen step.natAbs else 1
      let d : Nat := if step < 0 then denominator else denominator * powerOfTen step.natAbs
      let v : Nat := value * scale
      let inside (n : Nat) : Bool :=
        if closed then low * scale ≤ n * d && n * d ≤ high * scale
        else low * scale < n * d && n * d < high * scale
      let below : Nat := v / d
      let above := below + 1
      let nearBelow := 2 * (v % d) < d || (2 * (v % d) == d && below % 2 == 0)
      if inside below && inside above then some ⟨if nearBelow then below else above, step⟩
      else if inside below then some ⟨below, step⟩
      else if inside above then some ⟨above, step⟩
      else none
    match (List.range 17).findSome? fun n => tryDigits (n + 1) with
    | some d => dropZeros 20 d
    | none => ⟨value / denominator, 0⟩

/-- The finite non-negative double behind a floating point value; its sign is dropped. -/
def ofFloat (x : Float) : Binary :=
  let bits : Nat := x.toBits.toNat % powerOfTwo 63
  let field : Nat := bits / powerOfTwo 52
  let fraction : Nat := bits % powerOfTwo 52
  if field = 0 then ⟨fraction, leastExponent⟩ else ⟨fraction + powerOfTwo 52, (field : Int) - 1075⟩

/-- The whole part of a floating point value, zero for what is no number or infinite. -/
def truncated (x : Float) : Int :=
  if x.isFinite then
    let (n, d) := (ofFloat x).ratio
    if x < 0 then -(n / d : Nat) else (n / d : Nat)
  else 0

/-- The remainder of a division whose quotient is cut off, without any loss. It has the sign of
`x`. -/
def remainder (x y : Float) : Float :=
  if y == 0 || !x.isFinite || y.isNaN then 0.0 / 0.0
  else if y.isInf then x
  else
    let a := ofFloat x
    let b := ofFloat y
    let least := min a.exponent b.exponent
    let scaled (c : Binary) : Nat := c.mantissa * powerOfTwo (c.exponent - least).toNat
    let rest := (Float.ofNat (scaled a % scaled b)).scaleB least
    if x.toBits.toNat < powerOfTwo 63 then rest else -rest

end Binary

namespace Decimal

def digitText (d : Decimal) : List Char := (toString d.digits).toList

def positional (d : Decimal) : List Char :=
  let digits := d.digitText
  if 0 ≤ d.exponent then digits ++ List.replicate d.exponent.toNat '0'
  else
    let places := d.exponent.natAbs
    if places < digits.length then
      digits.take (digits.length - places) ++ '.' :: digits.drop (digits.length - places)
    else '0' :: '.' :: List.replicate (places - digits.length) '0' ++ digits

/-- One digit, a point and the others, then the exponent after the letter `e`. -/
def scientific (d : Decimal) (plus : Bool) : List Char :=
  let digits := d.digitText
  let exponent : Int := d.exponent + digits.length - 1
  digits.take 1 ++ (if digits.length = 1 then [] else '.' :: digits.drop 1) ++
    'e' :: (if plus && 0 ≤ exponent then ['+'] else []) ++ (toString exponent).toList

end Decimal

end ComponentBundle
