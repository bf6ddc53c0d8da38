import ComponentBundle.Style.Parser.Reader

/-!
# Queries of media

What a medium has to be for rules to apply to it. Where rules for a medium stand in rules for another
one, both queries are put together if a query can say so.
-/
namespace ComponentBundle.Style

/-- A query of a medium: its type, with a word in front of it, and conditions on it. -/
structure MediaQuery where
  modifier : Option String := none
  type : Option String := none
  conditions : List String := []
  /-- Whether all of the conditions have to hold, not just one of them. -/
  needsAll : Bool := true
  deriving DecidableEq

namespace MediaQuery

def text (q : MediaQuery) : String :=
  let opening := match q.modifier with
    | some word => word ++ " "
    | none => ""
  let subject := match q.type with
    | some name => name ++ (if q.conditions.isEmpty then "" else " and ")
    | none => ""
  let conditions := match q.conditions with
    | [only] =>
      if only.startsWith "(not " then
        "not " ++ String.ofList ((only.toList.drop 5).dropLast)
      else only
    | several => (if q.needsAll then " and " else " or ").intercalate several
  opening ++ subject ++ conditions

/-- Whether the query holds for media of all types. -/
def matchesAll (q : MediaQuery) : Bool :=
  match q.type with
  | none => true
  | some name => name.toLower == "all"

inductive Merged where
  | nothing
  | unrepresentable
  | query (q : MediaQuery)

/-- Puts two queries together. -/
def merge (first second : MediaQuery) : Merged :=
  let ourModifier := first.modifier.map String.toLower
  let theirModifier := second.modifier.map String.toLower
  let ourType := first.type.map String.toLower
  let theirType := second.type.map String.toLower
  let ourNot := ourModifier == some "not"
  let theirNot := theirModifier == some "not"
  let both := first.conditions ++ second.conditions
  let isWithin (few many : List String) := few.all many.contains
  let result (modifier type : Option String) (conditions : List String) : Merged :=
    .query {
      modifier := if modifier == ourModifier then first.modifier else second.modifier
      type := if type == ourType then first.type else second.type
      conditions }
  if !first.needsAll || !second.needsAll then .unrepresentable
  else if first.type.isNone && second.type.isNone then .query { conditions := both }
  else if ourNot != theirNot then
    if ourType == theirType then
      let negative := if ourNot then first.conditions else second.conditions
      let positive := if ourNot then second.conditions else first.conditions
      if isWithin negative positive then .nothing else .unrepresentable
    else if first.matchesAll || second.matchesAll then .unrepresentable
    else if ourNot then result theirModifier theirType second.conditions
    else result ourModifier ourType first.conditions
  else if ourNot then
    let (more, fewer) := if second.conditions.length < first.conditions.length then
      (first.conditions, second.conditions) else (second.conditions, first.conditions)
    if ourType == theirType && isWithin fewer more then result ourModifier ourType more
    else .unrepresentable
  else if first.matchesAll then
    result theirModifier (if second.matchesAll && ourType.isNone then none else theirType) both
  else if second.matchesAll then result ourModifier ourType both
  else if ourType != theirType then .nothing
  else result (ourModifier.or theirModifier) ourType both

/-- Puts two lists of queries together. Nothing if a query cannot say it. -/
def mergeAll (outer inner : List MediaQuery) : Option (List MediaQuery) :=
  (outer.flatMap fun first => inner.map fun second => first.merge second).foldr
    (fun merged found => match merged, found with
      | .nothing, some found => some found
      | .query q, some found => some (q :: found)
      | _, _ => none) (some [])

open Style.Parser

def requireBlank : Parser Unit := do
  match ← peek with
  | some c => if isGap c then skipGaps else stop "Expected whitespace."
  | none => stop "Expected whitespace."

def condition : Parser String := do
  expect '('
  let inner ← iterate (fun (found, depth) => do
    match ← peek with
    | none => expected "\")\""
    | some c =>
      skip
      let found := found.push c
      if c = '(' then return .inl (found, depth + 1)
      else if c = ')' then
        if depth = 0 then return .inr found else return .inl (found, depth - 1)
      else return .inl (found, depth)) (("", 0) : String × Nat)
  skipGaps
  return "(" ++ inner

def conditionList (word : String) : Parser (List String) :=
  iterate (fun (found : List String) => do
    let found := (← condition) :: found
    if !(← scanName word) then return .inr found.reverse
    requireBlank
    return .inl found) []

def reader : Parser MediaQuery := do
  if ← isAt '(' then
    let first ← condition
    if ← scanName "and" then
      requireBlank
      return { conditions := first :: (← conditionList "and") }
    if ← scanName "or" then
      requireBlank
      return { conditions := first :: (← conditionList "or"), needsAll := false }
    return { conditions := [first] }
  let first ← name
  if first.toLower == "not" then
    requireBlank
    if !(← isAtName) then return { conditions := ["(not " ++ (← condition) ++ ")"] }
  skipGaps
  if !(← isAtName) then return { type := some first }
  let second ← name
  let subject : MediaQuery ← do
    if second.toLower == "and" then
      requireBlank
      pure { type := some first }
    else
      skipGaps
      let subject : MediaQuery := { modifier := some first, type := some second }
      if ← scanName "and" then
        requireBlank
        pure subject
      else return subject
  if ← scanName "not" then
    requireBlank
    return { subject with conditions := ["(not " ++ (← condition) ++ ")"] }
  return { subject with conditions := ← conditionList "and" }

def readers : Parser (List MediaQuery) := do
  let found ← iterate (fun (found : List MediaQuery) => do
    skipGaps
    let found := (← reader) :: found
    skipGaps
    if ← scan ',' then return .inl found
    return .inr found.reverse) []
  if (← peek).isSome then
    skip
    stop "expected no more input."
  return found

/-- Reads queries that expressions at a place result in. -/
def parse (text : String) (span : Span) : Except Fault (List MediaQuery) :=
  (readers (.ofText .braces text span)).map (·.1)

end MediaQuery

end ComponentBundle.Style
