import ComponentBundle.Style.Builtin.Given

/-!
# Functions of lists and maps
-/
namespace ComponentBundle.Style.Builtin

open Value

def listLength : Builtin := do
  Call.atMost 1
  return ofInt (← Call.arg 0 "list").items.length

/-- The place of an item, counted from one or, if negative, from the end. -/
def placeOf (m : Measure) (length : Nat) : Outcome Nat := do
  if m.value == 0 then throw "$n: List index may not be 0."
  if Float.ofNat length < m.value.abs then
    throw ("$n: Invalid index " ++ m.text ++ " for a list with " ++ toString length ++ " elements.")
  let n ← m.asInteger "$n: "
  return if 0 < n then n.natAbs - 1 else length - n.natAbs

def nth : Builtin := do
  Call.atMost 2
  let items := (← Call.arg 0 "list").items
  let place ← placeOf (← Call.number 1 "n") items.length
  return items.getD place .null

/-- A list with another item in a place. -/
def setNth : Builtin := do
  Call.atMost 3
  let list ← Call.arg 0 "list"
  let place ← placeOf (← Call.number 1 "n") list.items.length
  let value ← Call.arg 2 "value"
  return .list (list.items.set place value) list.separator list.hasBrackets

/-- What stands between the items of a list by its name. -/
def separatorOf (value : Value) (default : Separator) : Outcome Separator := do
  match (← value.asString "separator").1 with
  | "auto" => return default
  | "comma" => return .comma
  | "space" => return .space
  | "slash" => return .slash
  | _ => throw "$separator: Must be \"space\", \"comma\", \"slash\", or \"auto\"."

def decided (separator : Separator) : Separator :=
  if separator == .undecided then .space else separator

/-- The items of a list or a map. The arguments of a call are one item, like every other value. -/
def itemsAndSeparator (value : Value) : List Value × Separator :=
  match value with
  | .list items separator _ => (items, separator)
  | .map _ => (value.items, .comma)
  | _ => ([value], .space)

def join : Builtin := do
  Call.atMost 4
  let first ← Call.arg 0 "list1"
  let second ← Call.arg 1 "list2"
  let (xs, separator) := itemsAndSeparator first
  let (ys, other) := itemsAndSeparator second
  let isOpen := xs.isEmpty || (xs.length == 1 && separator.isSame .space)
  let separator ← separatorOf (← Call.argD 2 "separator" (plain "auto"))
    (decided (if isOpen then other else separator))
  let brackets := match ← Call.argD 3 "bracketed" (plain "auto") with
    | .string "auto" _ => first.hasBrackets
    | value => value.isTruthy
  return .list (xs ++ ys) separator brackets

/-- A list with one more item. A map is one item. -/
def append : Builtin := do
  Call.atMost 3
  let list ← Call.arg 0 "list"
  let value ← Call.arg 1 "val"
  let (items, separator) := match list with
    | .list items separator _ => (items, separator)
    | _ => ([list], .space)
  let separator ← separatorOf (← Call.argD 2 "separator" (plain "auto")) (decided separator)
  return .list (items ++ [value]) separator list.hasBrackets

/-- Lists of the items in the same places of lists. -/
def zip : Builtin := do
  let lists := (← Call.others).map Value.items
  let length := lists.foldl (fun n list => min n list.length) ((lists.map List.length).headD 0)
  return .list ((List.range length).map fun i =>
    .list (lists.map fun list => list.getD i .null) .space false) .comma false

def index : Builtin := do
  Call.atMost 2
  let list ← Call.arg 0 "list"
  let value ← Call.arg 1 "value"
  return match list.items.findIdx? (·.isEqual value) with
    | some i => ofInt (i + 1)
    | none => .null

/-- The name of what stands between the items. -/
def listSeparator : Builtin := do
  Call.atMost 1
  return plain (match (← Call.arg 0 "list").separator with
    | .comma => "comma"
    | .slash => "slash"
    | .space | .undecided => "space")

def isBracketed : Builtin := do
  Call.atMost 1
  return .bool (← Call.arg 0 "list").hasBrackets

/-- A list with slashes between its items. One argument stands for its items. -/
def slashList : Builtin := do
  Call.atLeastOne
  let items ← do
    if (← Call.count) = 1 then pure (← Call.arg 0 "elements").items else Call.others
  if items.length < 2 then Call.stop "At least two elements are required."
  return .list items .slash false

def lookup (pairs : List (Value × Value)) (key : Value) : Option Value :=
  (pairs.find? fun (other, _) => other.isEqual key).map (·.2)

def insertPair (pairs : List (Value × Value)) (key value : Value) : List (Value × Value) :=
  if (lookup pairs key).isSome then
    pairs.map fun (other, old) => if other.isEqual key then (other, value) else (other, old)
  else pairs ++ [(key, value)]

def removeKey (pairs : List (Value × Value)) (key : Value) : List (Value × Value) :=
  pairs.filter fun (other, _) => !other.isEqual key

/-- The pairs of both maps; those of the second one count. -/
def mergePairs (first second : List (Value × Value)) : List (Value × Value) :=
  second.foldl (fun found (key, value) => insertPair found key value) first

/-- Changes the map that keys lead to. Where there is none, an empty one is put. -/
def modifyAt (change : List (Value × Value) → List (Value × Value)) :
    (keys : List Value) → List (Value × Value) → List (Value × Value)
  | [], pairs => change pairs
  | key :: keys, pairs =>
    let inner := match lookup pairs key with
      | some (.map inner) => inner
      | _ => []
    insertPair pairs key (.map (modifyAt change keys inner))

def descend (found : Option Value) (keys : List Value) : Option Value :=
  keys.foldl (fun (found : Option Value) key => do lookup (← (← found).pairs?) key) found

/-- What a key, and more keys behind it, lead to. -/
def found? : Call (Option Value) := do
  let key ← Call.arg 1 "key"
  let map ← Call.map 0 "map"
  return descend (lookup map key) (← Call.others)

def mapGet : Builtin := do return (← found?).getD .null

def mapHasKey : Builtin := do return .bool (← found?).isSome

/-- The pairs of two maps, the first one of which may be a map in a map that keys lead to. -/
def mapMerge : Builtin := do
  let count ← Call.count
  if count = 1 then Call.stop "Expected $args to contain a key."
  let first ← Call.map 0 "map1"
  let second ← Call.map (count - 1) "map2"
  return .map (modifyAt (mergePairs · second) (← Call.others) first)

/-- A map with a value for a key, perhaps in a map in it. -/
def mapSet : Builtin := do
  let count ← Call.count
  let map ← Call.map 0 "map"
  let key ← Call.arg (count - 2) "key"
  let value ← Call.arg (count - 1) "value"
  return .map (modifyAt (insertPair · key value) (← Call.others) map)

def mapRemove : Builtin := do
  let map ← Call.map 0 "map"
  return .map ((← Call.others).foldl removeKey map)

/-- The pairs of two maps; maps in both of them are put together too, at most `n` deep. -/
def deepMerged : (n : Nat) → (first second : List (Value × Value)) → List (Value × Value)
  | 0, first, second => mergePairs first second
  | n + 1, first, second =>
    second.foldl (fun found (key, value) =>
      let merged := match (lookup found key).bind Value.pairs?, value.pairs? with
        | some old, some new => .map (deepMerged n old new)
        | _, _ => value
      insertPair found key merged) first

def mapDeepMerge : Builtin := do
  Call.atMost 2
  let first ← Call.map 0 "map1"
  let second ← Call.map 1 "map2"
  return .map (deepMerged (Value.pairsHeight first) first second)

/-- The map without the last of the keys in the map that the others lead to. -/
def removeAt : (keys : List Value) → List (Value × Value) → List (Value × Value)
  | [], pairs => pairs
  | [key], pairs => removeKey pairs key
  | key :: keys, pairs =>
    match lookup pairs key with
    | some (.map inner) => insertPair pairs key (.map (removeAt keys inner))
    | _ => pairs

def mapDeepRemove : Builtin := do
  let map ← Call.map 0 "map"
  let key ← Call.arg 1 "key"
  return .map (removeAt (key :: (← Call.others)) map)

def mapKeys : Builtin := do
  Call.atMost 1
  return .list ((← Call.map 0 "map").map (·.1)) .comma false

def mapValues : Builtin := do
  Call.atMost 1
  return .list ((← Call.map 0 "map").map (·.2)) .comma false

def listFunctions : List (String × String × Builtin) := [
  ("append", "append", append), ("index", "index", index),
  ("is-bracketed", "is-bracketed", isBracketed), ("join", "join", join),
  ("length", "length", listLength), ("list-separator", "separator", listSeparator),
  ("nth", "nth", nth), ("set-nth", "set-nth", setNth), ("zip", "zip", zip)]

def mapFunctions : List (String × String × Builtin) := [
  ("map-get", "get", mapGet), ("map-has-key", "has-key", mapHasKey), ("map-keys", "keys", mapKeys),
  ("map-merge", "merge", mapMerge), ("map-remove", "remove", mapRemove),
  ("map-values", "values", mapValues)]

def innerMapFunctions : List (String × Builtin) := [
  ("set", mapSet), ("deep-merge", mapDeepMerge), ("deep-remove", mapDeepRemove)]

end ComponentBundle.Style.Builtin
