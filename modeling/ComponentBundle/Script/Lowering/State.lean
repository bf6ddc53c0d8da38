import ComponentBundle.Script.Outline
import ComponentBundle.Script.Literal
import ComponentBundle.Script.Scope
import ComponentBundle.Text.Identifier

/-!
# Lowering scripts

A script is lowered to the language of 2015. What newer parts of the language stand for needs new
names, variables in front of statements, and functions that are imported. A lowering keeps account of
these.
-/
namespace ComponentBundle.Script

/-- A value of an enumeration that is known. -/
inductive Constant where
  | number (value : Float)
  | text (value : String)

/-- A use of a member of what a class extends. -/
inductive SuperUse where
  | read (name : String)
  | write (name : String)
  | readAny
  | writeAny
  deriving DecidableEq

/-- The variables that hold what belongs to the function at hand, for the functions inside. -/
structure Held where
  /-- The name of the variable that holds `this`. -/
  thisName : Option String := none
  /-- The name of the variable that holds `arguments`. -/
  argumentsName : Option String := none
  /-- The names of functions that use members of what the class extends, with the functions, the last
  one first. -/
  superUses : List (SuperUse × String × Expr) := []

/-- What a lowering has made so far. -/
structure Progress where
  names : List String
  /-- The helpers that are imported and their names here, the last one first. -/
  helpers : List (String × Identifier) := []
  /-- Lists of keys under names, the last one first. -/
  keyLists : List (String × List Element) := []
  /-- The variables that go in front of the statements at hand, the last one first. -/
  hoisted : List String := []
  held : Held := {}
  /-- The variables that go in front of the nearest expression that is a statement, the last one
  first, if there is such a statement. -/
  pending : Option (List String) := none
  trailing : List Stmt := []
  /-- Whether the parameters of a function are at hand, up to the end of the parameters of a function
  inside them. -/
  inParameters : Bool := false
  classCount : Nat := 0
  classNames : List (Nat × String) := []
  /-- What has been declared in parts that may be added to, and the members of enumerations with
  their values as far as these are known, the last ones first. -/
  enums : List (String × List (String × Option Constant)) := []
  declared : List (Nat × Nat) := []
  failures : List Failure := []

abbrev Lower := StateM Progress

inductive Waiting where
  | plain
  | yielded
  | wrapped
  deriving DecidableEq

/-- A class around a part of a script: its number among all classes and its name. -/
structure Owner where
  id : Nat
  name : String
  isValue : Bool

inductive Meaning where
  | name (text : String)
  | member (base name : String)
  /-- A class; `isHeld` tells that it is to be read from a variable that holds it. -/
  | class (owner : Owner) (isHeld : Bool)

/-- What tells which objects have a hidden member. -/
inductive Brand where
  | set (name : String)
  | class (owner : Owner)

/-- What a hidden member of a class has become. -/
inductive Hidden where
  | field (map : String)
  /-- A field of the class, in a variable of the name. -/
  | shared (owner : Owner) (holder : String)
  | method (brand : Brand) (name : String)
  | accessor (brand : Brand) (getter setter : Option String)

/-- How members of what a class extends are found outside of the class. -/
structure SuperHome where
  owner : Owner
  /-- Whether they are members of objects and not of the class. -/
  isProto : Bool

structure Surroundings where
  /-- The declared names, inner ones first, and whether they are assigned to. -/
  names : List (String × Bool) := []
  waiting : Waiting := .plain
  /-- Whether `this` belongs to a function further out. -/
  borrowsThis : Bool := false
  /-- The class that `this` is, if it is one. -/
  thisClass : Option Owner := none
  meanings : List (String × Meaning) := []
  superName : Option String := none
  superHome : Option SuperHome := none
  isTop : Bool := true
  isOutermost : Bool := true
  hidden : List (String × Hidden) := []

/-- The surroundings in a function with a `this` of its own. -/
def Surroundings.ownThis (around : Surroundings) : Surroundings :=
  { around with borrowsThis := false, thisClass := none, superName := none, superHome := none }

inductive Lowering.Part where
  | expr (value : Expr)
  | pattern (value : Pattern)
  | statements (body : List Stmt)

/-- What a part is lowered to. -/
abbrev Lowering.Part.Result : Lowering.Part → Type
  | .expr _ => Expr
  | .pattern _ => Pattern
  | .statements _ => List Stmt

structure Lowering where
  depth : Nat
  around : Surroundings
  run : Surroundings → (part : Lowering.Part) → Lower part.Result

namespace Lowering

variable (l : Lowering)

def expr (value : Expr) : Lower Expr := l.run l.around (.expr value)

def pattern (value : Pattern) : Lower Pattern := l.run l.around (.pattern value)

def statements (body : List Stmt) : Lower (List Stmt) := l.run l.around (.statements body)

def within (change : Surroundings → Surroundings) : Lowering := { l with around := change l.around }

/-- The lowering where names are declared that parts use. -/
def declaring (names : List String) (uses : List Use) : Lowering :=
  l.within fun around => { around with
    names := names.map (fun name =>
      (name, uses.any fun use => use.name == name && use.isWrite)) ++ around.names
    meanings := around.meanings.filter fun found => !names.contains found.1 }

/-- What the name stands for, if it does not stand for itself. -/
def meaning? (name : String) : Option Meaning :=
  (l.around.meanings.find? fun found => found.1 == name).map Prod.snd

def isDeclared (name : String) : Bool := l.around.names.any fun found => found.1 == name

/-- Whether the name is declared in the script and never assigned to after that. -/
def isConstant (name : String) : Bool :=
  match l.around.names.find? fun found => found.1 == name with
  | some (_, isWritten) => !isWritten
  | none => false

end Lowering

namespace Lower

/-- The first name that is not taken among a name and the name with a number behind it, from `k` on,
after at most `n` steps. -/
def firstFree (names : List String) (base : String) : (n k : Nat) → String
  | 0, k => base ++ toString k
  | n + 1, k =>
    let name := if k ≤ 1 then base else base ++ toString k
    if names.contains name then firstFree names base n (k + 1) else name

/-- A new name that is made from another one. -/
def fresh (name : String) : Lower String := do
  let inner := name.toList.dropWhile (· = '_')
  let inner := (inner.reverse.dropWhile Char.isDigit).reverse
  let base := "_" ++ String.ofList inner
  let s ← get
  let found := firstFree s.names base (s.names.length + 1) 1
  set { s with names := found :: s.names }
  return found

/-- The names in an expression, in the order in which they stand there, at most `n` deep. -/
def wordsOf : (n : Nat) → Expr → List String
  | 0, _ => []
  | n + 1, value =>
    match value with
    | .ident name => [name]
    | .this => ["this"]
    | .super => ["super"]
    | .string text => [text]
    | .number value => [Literal.number value]
    | .member base name _ | .hiddenMember base name _ => wordsOf n base ++ [name]
    | .index base key _ => wordsOf n base ++ wordsOf n key
    | .call callee _ _ _ | .new callee _ _ => wordsOf n callee
    | .assign _ (.ident name) _ => [name]
    | .assign _ (.target value) _ => wordsOf n value
    | .paren value | .chain value | .unary _ value | .update _ _ value => wordsOf n value
    | .await value _ => "await" :: wordsOf n value
    | .yield _ value => "yield" :: value.toList.flatMap (wordsOf n)
    | .function found => found.name.toList
    | .metaProperty text => if text == "import.meta" then ["import", "meta"] else ["new", "target"]
    | .importCall .. => ["import"]
    | .commented _ value => wordsOf n value
    | _ => []

def nameOf (value : Expr) : String :=
  let text := ("$".intercalate (wordsOf 64 value)).toList
  let text := (text.dropWhile (· = '_')).take 20
  let text := text.filter Text.isIdentifierPart
  if text.isEmpty then "ref" else String.ofList text

/-- A new variable in front of the statements at hand. -/
def holder (name : String) : Lower String := do
  let found ← fresh name
  modify fun s => { s with hoisted := found :: s.hoisted }
  return found

/-- A new variable for the value of an expression. -/
def holderFor (value : Expr) : Lower String := holder (nameOf value)

/-- The name of a helper, which is imported. -/
def helper (name : String) : Lower String := do
  match (← get).helpers.find? fun found => found.1 == name with
  | some found => return found.2.text
  | none =>
    let found := Identifier.of (← fresh name)
    modify fun s => { s with helpers := (name, found) :: s.helpers }
    return found.text

def classHolder (owner : Owner) : Lower String := do
  match (← get).classNames.find? fun found => found.1 == owner.id with
  | some found => return found.2
  | none =>
    let found ← fresh owner.name
    modify fun s => { s with classNames := (owner.id, found) :: s.classNames }
    return found

def refuse (message : String) (offset : Nat) : Lower Unit :=
  modify fun s => { s with failures := s.failures ++ [⟨message.toList, some offset⟩] }

end Lower

def Expr.nothing : Expr := .unary "void" (.number ⟨0, 0⟩)

def Expr.callOf (callee : Expr) (arguments : List Expr) : Expr :=
  .call callee (arguments.map .item) false false

def Stmt.new (node : Node) : Stmt := .mk 0 0 node

def Stmt.ofExpr (value : Expr) : Stmt := .new (.expression value)

def Stmt.declare (word name : String) (value : Option Expr) : Stmt :=
  .new (.variable word [(.ident name, value)])

end ComponentBundle.Script
