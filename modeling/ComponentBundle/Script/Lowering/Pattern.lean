import ComponentBundle.Script.Lowering.State

/-!
# Lowering the rests of object patterns

What is left of an object without some of its keys is found by a helper. The patterns that hold such
a rest become several declarations.
-/
namespace ComponentBundle.Script.Lowering

/-- A declared pattern and its value. -/
abbrev Declarator := Pattern × Option Expr

/-- Whether a pattern holds the rest of an object, at most `n` deep. -/
def hasObjectRest : (n : Nat) → Pattern → Bool
  | 0, _ => false
  | n + 1, .object fields rest =>
    rest.isSome || fields.any fun field => hasObjectRest n field.pattern
  | n + 1, .array items rest =>
    items.any (fun item => item.any (hasObjectRest n)) || rest.any (hasObjectRest n)
  | n + 1, .default found _ => hasObjectRest n found
  | _ + 1, _ => false

def knownKey? : Key → Option String
  | .name text | .string text | .hidden text | .computed (.string text) => some text
  | .number value | .computed (.number value) => some (Literal.number value)
  | .computed (.template [text] []) => some text
  | .computed _ => none

def keyValue (key : Key) : Expr :=
  match knownKey? key, key with
  | some text, _ => .string text
  | none, .computed value => value
  | none, _ => .nothing

/-- A list of keys. Known keys are listed once for the whole script, unless they are used only once
because no block or function is around. -/
def keyList (l : Lowering) (fields : List Field) : Lower Expr := do
  let items := fields.map fun field => ElementOf.item (keyValue field.key)
  if fields.any fun field => (knownKey? field.key).isNone then
    let helper ← Lower.helper "toPropertyKey"
    return .callOf (.member (.array items) "map" false) [.ident helper]
  else if l.around.isOutermost then return .array items
  else
    let keys ← Lower.fresh "excluded"
    modify fun s => { s with keyLists := (keys, items) :: s.keyLists }
    return .ident keys

def restValue (l : Lowering) (source : Expr) (fields : List Field) : Lower Expr := do
  if fields.isEmpty then
    let empty ← Lower.helper "objectDestructuringEmpty"
    let extends_ ← Lower.helper "extends"
    return .callOf (.ident extends_)
      [.object [], .sequence [.callOf (.ident empty) [source], source]]
  else
    let helper ← Lower.helper "objectWithoutProperties"
    return .callOf (.ident helper) [source, ← keyList l fields]

/-- Puts names in the places of object patterns, which are declared later with the names as their
values: of all of them, or of those that hold a rest. -/
def postpone (isAll : Bool) : (n : Nat) → Pattern → Lower (Pattern × List Declarator)
  | 0, found => return (found, [])
  | n + 1, found => do
    match found with
    | .object .. =>
      if !isAll && !hasObjectRest (n + 1) found then return (found, [])
      let name ← Lower.fresh "ref"
      return (.ident name, [(found, some (.ident name))])
    | .array items rest =>
      let items ← items.mapM fun
        | none => return (none, [])
        | some item => do
          let (found, postponed) ← postpone isAll n item
          return (some found, postponed)
      let rest ← rest.mapM (postpone isAll n)
      return (.array (items.map Prod.fst) (rest.map Prod.fst),
        items.flatMap Prod.snd ++ rest.toList.flatMap Prod.snd)
    | .default inner value =>
      let (inner, postponed) ← postpone isAll n inner
      return (.default inner value, postponed)
    | found => return (found, [])

def keepKey (field : Field) : Lower (List Declarator × Field) := do
  match knownKey? field.key, field.key with
  | none, .computed (.ident _) => return ([], field)
  | none, .computed value =>
    let name ← Lower.fresh (Lower.nameOf value)
    return ([(.ident name, some value)], { field with key := .computed (.ident name) })
  | _, _ => return ([], field)

/-- The declarations that a declaration of a pattern becomes, at most `n` deep. -/
def declarators (l : Lowering) : (n : Nat) → Declarator → Lower (List Declarator)
  | 0, found => return [found]
  | n + 1, (found, value) => do
    if !hasObjectRest (n + 1) found then return [(found, value)]
    let (before, source) ←
      match value with
      | some (.ident name) => pure ([], Expr.ident name)
      | none => pure ([], .nothing)
      | some value => do
        let name ← Lower.fresh (Lower.nameOf value)
        pure ([((.ident name, some value) : Declarator)], .ident name)
    let later (postponed : List Declarator) : Lower (List Declarator) := do
      return (← postponed.mapM (declarators l n)).flatten
    match found with
    | .object fields rest =>
      let fields ← fields.mapM fun field => do
        let (found, postponed) ← postpone false n field.pattern
        let field : Field :=
          { field with pattern := found, isShort := field.isShort && postponed.isEmpty }
        let (keys, field) ← if rest.isSome then keepKey field else pure ([], field)
        return (keys, field, postponed)
      let kept := fields.map fun found => found.2.1
      let inner ← later (fields.flatMap fun found => found.2.2)
      let front : List Declarator :=
        if kept.isEmpty && rest.isSome then [] else [(.object kept none, some source)]
      let last ← rest.toList.mapM fun rest => do return (rest, some (← restValue l source kept))
      return before ++ fields.flatMap Prod.fst ++ front ++ inner ++ last
    | found =>
      let (found, postponed) ← postpone false n found
      return before ++ (found, some source) :: (← later postponed)

def received (n : Nat) (word : String) (found : Pattern) : Lower (Pattern × List Stmt) := do
  if !hasObjectRest n found then return (found, [])
  let (found, postponed) ← postpone true n found
  return (found, postponed.map fun item => .new (.variable word [item]))

def assignRest (l : Lowering) (found : Pattern) (value : Expr) : Lower Expr := do
  let name ← Lower.fresh (Lower.nameOf value)
  let items ← declarators l l.depth (found, some (.ident name))
  modify fun s => { s with pending := s.pending.map (name :: ·) }
  let assign (item : Declarator) : Expr := .assign "=" item.1 (item.2.getD .nothing)
  return .sequence (.assign "=" (.ident name) value :: items.map assign ++ [.ident name])

end ComponentBundle.Script.Lowering
