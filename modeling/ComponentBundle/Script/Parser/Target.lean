import ComponentBundle.Script.Parser.Grammar

/-!
# Targets of assignments

What stands to the left of an assignment is read as an expression and then taken for a pattern.
-/
namespace ComponentBundle.Script

/-- The expression without the parentheses around it, at most `n` pairs. -/
def Expr.inner : (n : Nat) → Expr → Expr
  | n + 1, .paren value => value.inner n
  | _, value => value

def Pattern.simple? (n : Nat) (value : Expr) : Option Pattern :=
  match value.inner n with
  | .ident name => some (.ident name)
  | .member base name false => some (.target (.member base name false))
  | .hiddenMember base name false => some (.target (.hiddenMember base name false))
  | .index base key false => some (.target (.index base key false))
  | _ => none

def Pattern.items? (convert : Expr → Option Pattern) :
    List Element → Option (List (Option Pattern) × Option Pattern)
  | [] => some ([], none)
  | [.spread value] => do some ([], some (← convert value))
  | .comments _ :: others => items? convert others
  | .hole :: others => do
    let (items, rest) ← items? convert others
    some (none :: items, rest)
  | .item value :: others => do
    let found ← convert value
    let (items, rest) ← items? convert others
    some (some found :: items, rest)
  | .spread _ :: _ => none

def Pattern.fields? (convert : Expr → Option Pattern) :
    List Member → Option (List Field × Option Pattern)
  | [] => some ([], none)
  | [.spread value] => do some ([], some (← convert value))
  | .field key value :: others => do
    let found ← convert value
    let (fields, rest) ← fields? convert others
    some (⟨key, false, found⟩ :: fields, rest)
  | .short name :: others => do
    let (fields, rest) ← fields? convert others
    some (⟨.name name, true, .ident name⟩ :: fields, rest)
  | .cover name value _ :: others => do
    let (fields, rest) ← fields? convert others
    some (⟨.name name, true, .default (.ident name) value⟩ :: fields, rest)
  | .method .. :: _ | .spread _ :: _ => none

def Pattern.ofExpr? : (n : Nat) → Expr → Option Pattern
  | 0, _ => none
  | n + 1, .array items => do
    let (items, rest) ← items? (ofExpr? n) items
    some (.array items rest)
  | n + 1, .object members => do
    let (fields, rest) ← fields? (ofExpr? n) members
    some (.object fields rest)
  | _ + 1, .assign operator left value =>
    if operator == "=" then some (.default left value) else none
  | n + 1, .commented _ value => ofExpr? n value
  | n, value => simple? n value

/-- The places of the defaults that only a target may have, nested at most `n` deep. -/
def Expr.covers : Nat → Expr → List Nat
  | n + 1, .object members => members.flatMap fun
    | .cover _ _ offset => [offset]
    | .field _ value => value.covers n
    | _ => []
  | n + 1, .array items => items.flatMap fun
    | .item value => value.covers n
    | _ => []
  | n + 1, .commented _ value => value.covers n
  | _, _ => []

/-- Whether the target that an expression is gathers the rest of something, nested at most `n`
deep. -/
def Expr.gathers : Nat → Expr → Bool
  | n + 1, .object members => members.any fun
    | .spread _ => true
    | .field _ value => value.gathers n
    | _ => false
  | n + 1, .array items => items.any fun
    | .spread _ => true
    | .item value => value.gathers n
    | _ => false
  | n + 1, .commented _ value => value.gathers n
  | _, _ => false

namespace Parser

def targetMessage : String := "Cannot assign to this expression"

/-- Takes the target that an expression is, which begins where the parser was at first. What is wrong
with it is found by `check`, which reads it again. -/
def targetOf (convert : Nat → Expr → Option Pattern) (check : Expr → Parser Unit) (before : State)
    (value : Expr) : Parser Pattern := do
  let after ← get
  let depth := after.previous - before.token.start + 1
  let again : Parser Unit := do
    set { before with failures := after.failures, faults := after.faults }
    check value
    let faults := (← get).faults
    set { after with faults }
  match convert depth value with
  | some target =>
    if value.gathers depth then again
    let found := value.covers depth
    modify fun s => { s with covers := s.covers.filter fun offset => !found.contains offset }
    return target
  | none =>
    again
    stopAt targetMessage before.token.start

end Parser

end ComponentBundle.Script
