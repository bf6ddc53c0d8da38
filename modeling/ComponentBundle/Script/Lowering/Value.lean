import ComponentBundle.Script.Lowering.State

/-!
# Lowering operators

Operators that are younger than 2015, each in terms of older ones. Values that are needed twice are
kept in variables unless reading them again cannot be noticed.
-/
namespace ComponentBundle.Script.Lowering

variable (l : Lowering)

/-- Whether the value is a name, and reading it again gives the same. -/
def isSteadyName : Expr → Bool
  | .ident name => l.isConstant name
  | _ => false

def isSteady : Expr → Bool
  | .this => true
  | value => isSteadyName l value

def keep (name : String) (value : Expr) : Expr := .assign "=" (.ident name) value

/-- Whether the value is neither null nor undefined, given how it is read first and again. -/
def isPresent (first again : Expr) : Expr :=
  .binary "&&" (.binary "!==" first .null) (.binary "!==" again .nothing)

/-- The left value unless it is null or undefined, else the right one. -/
def coalesce (left right : Expr) : Lower Expr := do
  if isSteady l left then return .conditional (isPresent left left) left right
  else
    let name ← Lower.holderFor left
    return .conditional (isPresent (keep name left) (.ident name)) (.ident name) right

/-- A chain up to some member, where every test that ends it early is collected. -/
structure Unchained where
  /-- Comparisons of which none may hold. -/
  tests : List Expr := []
  value : Expr
  holder : Option String := none

def guardChain (found : Unchained) : Lower Unchained := do
  let compare (first again : Expr) : List Expr :=
    [.binary "===" first .null, .binary "===" again .nothing]
  if isSteadyName l found.value then
    return { found with tests := found.tests ++ compare found.value found.value }
  else
    let name ← match found.holder with
      | some name => pure name
      | none => Lower.holderFor found.value
    return {
      tests := found.tests ++ compare (keep name found.value) (.ident name)
      value := .ident name
      holder := some name }

/-- Tests the function that the chain has come to, a member of `base`, which is then called for
`base`. -/
def guardCall (found : Unchained) (base : Expr) (member : Expr → Expr)
    (arguments : List Element) : Lower Unchained := do
  let name ← Lower.holderFor found.value
  let isHolder := match base, found.holder with
    | .ident text, some holder => text == holder
    | _, _ => false
  let (first, again) ←
    match base with
    | .super => pure (base, Expr.this)
    | _ =>
      if isHolder || isSteady l base then pure (base, base)
      else
        let holder ← Lower.holderFor base
        pure (keep holder base, .ident holder)
  return {
    tests := found.tests ++ [
      .binary "===" (keep name (member first)) .null, .binary "===" (.ident name) .nothing]
    value := .call (.member (.ident name) "call" false) (.item again :: arguments) false false
    holder := none }

/-- Takes a chain apart, at most `n` members deep. -/
def unchain : (n : Nat) → Expr → Lower Unchained
  | 0, value => return { value }
  | n + 1, value => do
    let step (base : Expr) (isOptional : Bool) (rebuild : Expr → Expr) : Lower Unchained := do
      let found ← unchain n base
      let found ← if isOptional then guardChain l found else pure found
      return { found with value := rebuild found.value }
    match value with
    | .member base name isOptional => step base isOptional fun base => .member base name false
    | .hiddenMember base name isOptional =>
      step base isOptional fun base => .hiddenMember base name false
    | .index base key isOptional => step base isOptional fun base => .index base key false
    | .call callee arguments isOptional isPure =>
      let found ← unchain n callee
      if !isOptional then return { found with value := .call found.value arguments false isPure }
      match found.value with
      | .member base name _ =>
        guardCall l found base (fun base => .member base name false) arguments
      | .hiddenMember base name _ =>
        guardCall l found base (fun base => .hiddenMember base name false) arguments
      | .index base key _ => guardCall l found base (fun base => .index base key false) arguments
      | _ =>
        let found ← guardChain l found
        return { found with value := .call found.value arguments false isPure }
    | value => return { value }

def bound (found : Unchained) : Lower Expr := do
  let bind (base : Expr) (member : Expr → Expr) : Lower Expr := do
    let isHolder := match base, found.holder with
      | .ident text, some holder => text == holder
      | _, _ => false
    let (first, again) ←
      match base with
      | .super => pure (base, Expr.this)
      | _ =>
        if isHolder || isSteady l base then pure (base, base)
        else
          let holder ← Lower.holderFor base
          pure (.paren (keep holder base), .ident holder)
    return .callOf (.member (member first) "bind" false) [again]
  match found.value with
  | .member base name _ => bind base fun base => .member base name false
  | .hiddenMember base name _ => bind base fun base => .hiddenMember base name false
  | .index base key _ => bind base fun base => .index base key false
  | value => return value

def boundChain (value : Expr) : Lower Expr := do
  let found ← unchain l l.depth value
  let value ← bound l found
  match found.tests with
  | [] => return value
  | first :: rest => return .conditional (rest.foldl (.binary "||") first) .nothing value

/-- The value of a chain as a function that is called at once, whose variables are its own. -/
def enclosedChain (value : Expr) : Expr :=
  let body := [Stmt.new (.returnStmt (some (.chain value)))]
  .callOf (.paren (.function { isArrow := true, body })) []

/-- The left value of a parameter's default unless it is null or undefined, else the right one. The
variable that may be needed is a parameter of a function of its own. -/
def coalesceDefault (left right : Expr) : Lower Expr := do
  if isSteady l left then coalesce l left right
  else
    let name ← Lower.fresh (Lower.nameOf left)
    let value : Expr := .conditional (isPresent (keep name left) (.ident name)) (.ident name) right
    let function : Function :=
      { isArrow := true, isShort := true, params := [.ident name], body := [.ofExpr value] }
    return .callOf (.paren (.function function)) []

/-- A chain as a choice; `missing` is what it is if it ends early. -/
def dechain (value missing : Expr) (wrap : Expr → Expr) : Lower Expr := do
  let found ← unchain l l.depth value
  match found.tests with
  | [] => return wrap found.value
  | first :: rest =>
    return .conditional (rest.foldl (.binary "||") first) missing (wrap found.value)

def isPlain : Expr → Bool
  | .this | .super | .null | .bool _ | .number _ | .bigint .. | .string _ => true
  | .template _ [] => true
  | _ => false

/-- A value to read first and one to read again; `strict` tells that a variable which is assigned to
has to be kept. -/
def duplicate (strict : Bool) (value : Expr) : Lower (Expr × Expr) := do
  let isFree := match value with
    | .ident name => if strict then l.isConstant name else l.isDeclared name
    | value => isPlain value
  if isFree then return (value, value)
  else
    let name ← Lower.holderFor value
    return (keep name value, .ident name)

def readAndWrite (target : Pattern) : Lower (Expr × Pattern) := do
  match target with
  | .target (.member base name _) =>
    let (first, again) ← duplicate l false base
    return (.member first name false, .target (.member again name false))
  | .target (.hiddenMember base name _) =>
    let (first, again) ← duplicate l false base
    return (.hiddenMember first name false, .target (.hiddenMember again name false))
  | .target (.index base key _) =>
    let (first, again) ← duplicate l false base
    let (firstKey, againKey) ← duplicate l true key
    return (.index first firstKey false, .target (.index again againKey false))
  | .ident name => return (.ident name, target)
  | .target value => return (value, target)
  | target => return (.nothing, target)

def power (base exponent : Expr) : Expr :=
  .callOf (.member (.ident "Math") "pow" false) [base, exponent]

/-- A value that is kept in front of an expression, unless it is a declared name or plain. -/
def keepBefore (value : Expr) : Lower (List Expr × Expr) := do
  let isFree := match value with
    | .ident name => l.isDeclared name
    | value => isPlain value
  if isFree then return ([], value)
  else
    let name ← Lower.holderFor value
    return ([keep name value], .ident name)

def assignPower (target : Pattern) (exponent : Expr) : Lower Expr := do
  let sequence (before : List Expr) (last : Expr) : Expr :=
    if before.isEmpty then last else .sequence (before ++ [last])
  let ofMember (base key : Expr) : Lower Expr := do
    let (first, base) ← keepBefore l base
    let (second, key) ← keepBefore l key
    return sequence (first ++ second)
      (.assign "=" (.target (.index base key false)) (power (.index base key false) exponent))
  match target with
  | .ident name =>
    let (before, value) ← keepBefore l (.ident name)
    return sequence before (.assign "=" target (power value exponent))
  | .target (.member base name _) => ofMember base (.string name)
  | .target (.index base key _) => ofMember base key
  | .target value => return .assign "=" target (power value exponent)
  | target => return .assign "=" target exponent

def mergeSpread (helper : String) :
    (merged : Option Expr) → (members : List Member) → List Member → Expr
  | merged, members, [] =>
    match merged with
    | none => .object members
    | some found =>
      if members.isEmpty then found
      else .callOf (.ident helper) [found, .object [], .object members]
  | merged, members, .spread value :: rest =>
    let before := match merged with
      | none => [.object members]
      | some found => if members.isEmpty then [found] else [found, .object [], .object members]
    mergeSpread helper (some (.callOf (.ident helper) (before ++ [value]))) [] rest
  | merged, members, member :: rest => mergeSpread helper merged (members ++ [member]) rest

def isSpread : Member → Bool
  | .spread _ => true
  | _ => false

def spreadObject (members : List Member) : Lower Expr := do
  if members.any isSpread then
    return mergeSpread (← Lower.helper "objectSpread2") none [] members
  else return .object members

def isYoungRegex (found flags : String) : Bool :=
  let text := found.toList
  flags.toList.any (fun c => c = 's' || c = 'd' || c = 'v') ||
    ["(?<", "(?<=", "(?<!"].any (fun mark => Text.hasInfix mark.toList text) ||
    (flags.toList.contains 'u' &&
      (Text.hasInfix "\\p\x7b".toList text || Text.hasInfix "\\P\x7b".toList text))

def regex (found flags : String) : Expr :=
  if isYoungRegex found flags then
    .new (.ident "RegExp") [.item (.string found), .item (.string flags)] false
  else .regex found flags

end ComponentBundle.Script.Lowering
