import ComponentBundle.Script.Lowering.Class

/-!
# Lowering enumerations

An enumeration becomes an object that leads from names to values, and from numbers back to names.
Values that can be known are worked out.
-/
namespace ComponentBundle.Script

namespace Constant

/-- The whole number that bits of a number are taken of. -/
def toBits (x : Float) : Int :=
  let bits : Int := Binary.truncated x % 4294967296
  if bits < 2147483648 then bits else bits - 4294967296

/-- The number whose bits are the lowest ones of a whole number. -/
def ofBits (bits : Int) : Float :=
  let bits := bits % 4294967296
  Float.ofInt (if bits < 2147483648 then bits else bits - 4294967296)

/-- The bits of two numbers combined. -/
def bitwise (combine : Nat → Nat → Nat) (x y : Float) : Float :=
  ofBits (combine ((toBits x) % 4294967296).toNat ((toBits y) % 4294967296).toNat)

def ofDecimal (value : Decimal) : Float :=
  if 0 ≤ value.exponent then Float.ofScientific (value.digits * powerOfTen value.exponent.natAbs) false 0
  else Float.ofScientific value.digits true value.exponent.natAbs

def toText : Constant → String
  | .text value => value
  | .number x =>
    if x.isNaN then "NaN"
    else
      let text :=
        if x.isInf then "Infinity"
        else String.ofList (Literal.plainNumber (Binary.ofFloat x).shortest)
      if x < 0 then "-" ++ text else text

def toExpr : Constant → Expr
  | .text value => .string value
  | .number x =>
    if x.isNaN then .ident "NaN"
    else
      let value : Expr := if x.isInf then .ident "Infinity" else .number (Binary.ofFloat x).shortest
      if x < 0 || (x == 0 && 1.0 / x < 0) then .unary "-" value else value

def calculate (operator : String) (x y : Float) : Option Float :=
  let shift := ((toBits y) % 32).toNat
  match operator with
  | "+" => some (x + y)
  | "-" => some (x - y)
  | "*" => some (x * y)
  | "/" => some (x / y)
  | "%" => some (Binary.remainder x y)
  | "**" => some (x.pow y)
  | "|" => some (bitwise Nat.lor x y)
  | "&" => some (bitwise Nat.land x y)
  | "^" => some (bitwise Nat.xor x y)
  | "<<" => some (ofBits (toBits x * (powerOfTwo shift)))
  | ">>" => some (ofBits (Int.fdiv (toBits x) (powerOfTwo shift)))
  | ">>>" => some (Float.ofInt (Int.fdiv (toBits x % 4294967296) (powerOfTwo shift)))
  | _ => none

/-- The constant that an expression is, at most `n` deep. `member` tells what is known of the members
of the enumeration by their names, and `other` of those of whole enumerations. No operator in front of
a text but the two that make a number of it changes it. -/
def ofExpr? (member : String → Option Constant) (other : String → String → Option Constant) :
    (n : Nat) → Expr → Option Constant
  | 0, _ => none
  | n + 1, value =>
    let inner := ofExpr? member other n
    match value with
    | .number found => some (.number (ofDecimal found))
    | .string found => some (.text found)
    | .template parts values => do
      let values ← values.mapM inner
      let texts := values.map toText ++ [""]
      some (.text (String.join ((parts.zip texts).map fun pair => pair.1 ++ pair.2)))
    | .paren value => inner value
    | .ident name =>
      match member name with
      | some found => some found
      | none =>
        if name == "Infinity" then some (.number (1.0 / 0.0))
        else if name == "NaN" then some (.number (0.0 / 0.0))
        else none
    | .member (.ident owner) name _ => other owner name
    | .index (.ident owner) (.string name) _ => other owner name
    | .unary operator value => do
      match ← inner value with
      | .number x =>
        match operator with
        | "+" => some (.number x)
        | "-" => some (.number (-x))
        | "~" => some (.number (ofBits (-1 - toBits x)))
        | _ => none
      | .text found =>
        match operator with
        | "-" => some (.number (0.0 / 0.0))
        | "~" => some (.number (-1.0))
        | _ => some (.text found)
    | .binary operator left right => do
      match ← inner left, ← inner right with
      | .number x, .number y => return .number (← calculate operator x y)
      | x, y => if operator == "+" then some (.text (x.toText ++ y.toText)) else none
    | _ => none

end Constant

namespace Lowering

def enumKey : Key → String
  | .name text | .string text | .hidden text => text
  | .number value => Literal.number value
  | .computed (.string text) => text
  | .computed _ => ""

def knownMember (members : List (String × Option Constant)) (name : String) : Option Constant :=
  (members.find? fun item => item.1 == name).bind Prod.snd

/-- An enumeration up to some member. -/
structure EnumSoFar where
  /-- The members and their values as far as these are known, the last one first. -/
  members : List (String × Option Constant) := []
  statements : List (List String × Stmt) := []
  last : Option Constant := some (.number (-1.0))
  lastName : Option String := none

def enumMember (n : Nat) (owner : String) (other : String → String → Option Constant)
    (found : EnumSoFar) (member : Key × Option Expr) : EnumSoFar :=
  let name := enumKey member.1
  let constant : Option Constant := match member.2 with
    | some value => Constant.ofExpr? (knownMember found.members) other n value
    | none => match found.last with
      | some (.number x) => some (.number (x + 1.0))
      | _ => none
  let place (name : String) : Expr := .index (.ident owner) (.string name) false
  let value : Expr := match constant, member.2, found.lastName with
    | some constant, _, _ => constant.toExpr
    | none, some value, _ => value
    | none, none, some previous => .binary "+" (.number ⟨1, 0⟩) (place previous)
    | none, none, none => .number ⟨0, 0⟩
  let assigned : Expr := .assign "=" (.target (place name)) value
  let isText := match constant with
    | some (.text _) => true
    | _ => false
  let statement : Expr := if isText then assigned
    else .assign "=" (.target (.index (.ident owner) assigned false)) (.string name)
  let members := (name, constant) :: found.members
  let names := if constant.isNone && member.2.isSome then members.map Prod.fst else []
  {
    members
    statements := found.statements ++ [(names, .ofExpr statement)]
    last := constant
    lastName := some name }

/-- Whether the value of a member is a call, which may do something. -/
def isCall : Expr → Bool
  | .call .. | .new .. => true
  | _ => false

/-- Lowers an enumeration to a declaration, or to an assignment if the name is taken by another part
of it. -/
def enumeration (l : Lowering) (name : String) (members : List (Key × Option Expr))
    (isExported : Bool) : Lower Node := do
  let enums := (← get).enums
  let isAgain := enums.any fun found => found.1 == name
  let isLocal := isExported || !l.around.isOutermost
  let start : Expr :=
    if isLocal && !isAgain then .object [] else .binary "||" (.ident name) (.object [])
  let membersOf (owner : String) : List (String × Option Constant) :=
    ((enums.find? fun found => found.1 == owner).map Prod.snd).getD []
  let found := members.foldl
    (enumMember l.depth name fun owner member => knownMember (membersOf owner) member)
    { members := membersOf name }
  modify fun s => { s with enums := (name, found.members) :: s.enums }
  let last := Stmt.new (.returnStmt (some (.ident name)))
  let maker : Function := {
    params := [.ident name], body := found.statements.map Prod.snd ++ [last] }
  let inner := inside l maker true Surroundings.ownThis
  let lines := found.statements.map fun (names, stmt) =>
    (inner.within fun around => { around with
      meanings := names.map (fun text => (text, .member name text)) ++ around.meanings }, [stmt])
  let made ← withThis do return { maker with body := ← groups (lines ++ [(inner, [last])]) }
  let isPure := !members.any fun member => member.2.any isCall
  let value : Expr := .call (.function made) [.item (← l.expr start)] false isPure
  if isAgain then return .expression (.assign "=" (.ident name) value)
  else return .variable (if isLocal then "let" else "var") [(.ident name, some value)]

end Lowering

end ComponentBundle.Script
