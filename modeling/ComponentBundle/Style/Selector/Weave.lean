import ComponentBundle.Style.Selector.Superselector
import ComponentBundle.Style.Selector.Unify

/-!
# Weaving selectors

Where two selectors describe one element, the elements around it are those of both. All ways in which
they may stand around each other are put together, except those that others cover.
-/
namespace ComponentBundle.Style

namespace Weave

variable {α : Type}

/-- All ways to take one item of each list; the first list changes fastest. -/
def paths (choices : List (List α)) : List (List α) :=
  choices.foldl (fun found choice => choice.flatMap fun a => found.map (· ++ [a])) [[]]

/-- The lengths of the longest lists of items in common, for each of the beginnings of the second
list, given those for one item less of the first list. -/
def lengthRow (selected : List Bool) (above : List Nat) : List Nat :=
  let pairs := selected.zip (above.zip (above.drop 1))
  (pairs.foldl (fun (row : List Nat) (isCommon, diagonal, up) =>
    (if isCommon then diagonal + 1 else max (row.headD 0) up) :: row) [0]).reverse

/-- The longest list of items that two lists have in common, in their order. What two items have in
common is selected. -/
def common (select : α → α → Option α) (first second : List α) : List α :=
  let table := first.map fun a => second.map (select a)
  let rows := table.foldl (fun (rows : List (List Nat)) selected =>
    lengthRow (selected.map Option.isSome) (rows.headD []) :: rows)
    [List.replicate (second.length + 1) 0]
  let lengths := rows.reverse
  let at' (i j : Nat) : Nat := (lengths.getD i []).getD j 0
  let selected (i j : Nat) : Option α := ((table.getD i []).getD j none)
  back at' selected (first.length + second.length) first.length second.length []
where
  back (at' : Nat → Nat → Nat) (selected : Nat → Nat → Option α) :
      (n i j : Nat) → List α → List α
    | 0, _, _, found => found
    | n + 1, i, j, found =>
      if i = 0 || j = 0 then found
      else match selected (i - 1) (j - 1) with
        | some a => back at' selected n (i - 1) (j - 1) (a :: found)
        | none =>
          if at' (i - 1) j < at' i (j - 1) then back at' selected n i (j - 1) found
          else back at' selected n (i - 1) j found

def commonCombinators (first second : List Combinator) : List Combinator :=
  common (fun c d => if c = d then some c else none) first second

def merged? (first second : List Combinator) : Option (List Combinator) :=
  let shared := commonCombinators first second
  if shared = first then some second
  else if shared = second then some first
  else none

def splitInitial : List Part → List Combinator × List Part
  | .combinator c :: rest => let (found, rest) := splitInitial rest; (c :: found, rest)
  | parts => ([], parts)

/-- Choices for the last parts of two lists of parts, and what is left of both lists. The lists have
their last part first. -/
structure Ending where
  choices : Option (List (List Part))
  first : List Part
  second : List Part
  /-- Whether no combinators stand in front of what is left. -/
  isLast : Bool := false

def pair (compound : List Simple) (c : Combinator) : List Part := [.compound compound, .combinator c]

def unifiedPair (one other : List Simple) (c : Combinator) : List (List Part) :=
  ((Unify.compounds other one).map fun compound => pair compound c).toList

def followers (one other : List Simple) : List (List Part) :=
  if compoundCovers one other then [pair other .following]
  else if compoundCovers other one then [pair one .following]
  else [pair one .following ++ pair other .following, pair other .following ++ pair one .following] ++
    unifiedPair one other .following

def siblings (far near : List Simple) (unified : List (List Part)) : List (List Part) :=
  if compoundCovers far near then [pair near .next]
  else (pair far .following ++ pair near .next) :: unified

def bothEnd? (c d : Combinator) (one other : List Simple) (rest rest' : List Part) : Option Ending :=
  let together (choices : List (List Part)) : Option Ending := some ⟨some choices, rest, rest', false⟩
  match c, d with
  | .following, .following => together (followers one other)
  | .following, .next => together (siblings one other (unifiedPair one other .next))
  | .next, .following => together (siblings other one (unifiedPair one other .next))
  | .child, .child | .next, .next =>
    match unifiedPair one other c with
    | [] => none
    | unified => together unified
  | .child, _ =>
    some ⟨some [pair other d], .combinator .child :: .compound one :: rest, rest', false⟩
  | _, .child =>
    some ⟨some [pair one c], rest, .combinator .child :: .compound other :: rest', false⟩

/-- The end of a list of parts with a combinator behind it, and what is left of it and of another
list, whose end has none. -/
def oneEnds? (c : Combinator) (rest other : List Part) :
    Option (List Part × List Part × List Part) :=
  match rest with
  | .compound compound :: rest =>
    let isCovered := c = .child && match other with
      | .compound general :: _ => compoundCovers general compound
      | _ => false
    some (pair compound c, rest, if isCovered then other.drop 1 else other)
  | _ => none

def ending? (first second : List Part) : Option Ending :=
  let (before, rest) := splitInitial first
  let (before', rest') := splitInitial second
  match before, before' with
  | [], [] => some ⟨none, first, second, true⟩
  | [c], [d] =>
    match rest, rest' with
    | .compound one :: rest, .compound other :: rest' => bothEnd? c d one other rest rest'
    | _, _ => none
  | [c], [] => (oneEnds? c rest second).map fun (choice, rest, other) =>
      ⟨some [choice], rest, other, false⟩
  | [], [d] => (oneEnds? d rest' first).map fun (choice, rest, other) =>
      ⟨some [choice], other, rest, false⟩
  | _, _ => (merged? before before').map fun longer =>
      ⟨some [longer.reverse.map Part.combinator], rest, rest', true⟩

/-- Choices for the parts that stand behind all others, in front of those given, and what is left of
both lists, which are gone through at most `n` parts far. -/
def mergeFinal : (n : Nat) → (first second : List Part) → (found : List (List (List Part))) →
    Option (List (List (List Part)) × List Part × List Part)
  | 0, _, _, _ => none
  | n + 1, first, second, found => do
    let e ← ending? first second
    let found := e.choices.toList ++ found
    if e.isLast then return (found, e.first, e.second)
    mergeFinal n e.first e.second found

def groups (parts : List Part) : List (List Part) :=
  (parts.foldl (fun (found : List (List Part)) part =>
    match found with
    | (last :: before) :: others =>
      if last.isCompound && part.isCompound then [part] :: found
      else (part :: last :: before) :: others
    | _ => [part] :: found) []).reverse.map List.reverse

def holdsRoot (compound : List Simple) : Bool :=
  compound.any fun
    | .pseudo name isElement _ _ => !isElement && unprefixed name == "root"
    | _ => false

/-- The first compound, if it matches only the root of a page, and the other parts. -/
def splitRoot : List Part → Option (List Simple) × List Part
  | .compound simples :: rest =>
    if holdsRoot simples then (some simples, rest) else (none, .compound simples :: rest)
  | parts => (none, parts)

/-- There is just one root: both lists of parts begin with it, if one does. -/
def shareRoot? (first second : List Part) : Option (List Part × List Part) :=
  match splitRoot first, splitRoot second with
  | (some one, rest), (some other, rest') =>
    (Unify.compounds other one).map fun root => (.compound root :: rest, .compound root :: rest')
  | (some one, rest), (none, rest') => some (rest, .compound one :: rest')
  | (none, rest), (some other, rest') => some (.compound other :: rest, rest')
  | (none, rest), (none, rest') => some (rest, rest')

def isUnique : Simple → Bool
  | .id _ => true
  | simple => simple.isElement

def mustUnify (first second : List Part) : Bool :=
  let unique (parts : List Part) : List Simple := parts.flatMap fun
    | .compound simples => simples.filter isUnique
    | .combinator _ => []
  (unique first).any (unique second).contains

/-- Items of both lists in front of the places where they are done, in either order, and the items
behind. -/
def chunks (isDone : List α → Bool) (first second : List α) :
    List (List α) × List α × List α :=
  let (one, rest) := splitDone first
  let (other, rest') := splitDone second
  let choices := match one, other with
    | [], [] => []
    | [], _ => [other]
    | _, [] => [one]
    | _, _ => [one ++ other, other ++ one]
  (choices, rest, rest')
where
  splitDone : List α → List α × List α
    | [] => ([], [])
    | a :: rest =>
      if isDone (a :: rest) then ([], a :: rest)
      else let (before, after) := splitDone rest; (a :: before, after)

/-- The choices for the groups in front of each common group, each common group, and the choices for
the groups behind. -/
def interleave : (shared first second : List (List Part)) → List (List (List Part))
  | [], first, second =>
    [(chunks (fun (list : List (List Part)) => list.isEmpty) first second).1.map List.flatten]
  | group :: shared, first, second =>
    let isDone (list : List (List Part)) : Bool := match list with
      | next :: _ => parentsCover next group
      | [] => true
    let (choices, rest, rest') := chunks isDone first second
    choices.map List.flatten :: [group] :: interleave shared (rest.drop 1) (rest'.drop 1)

/-- All ways to put the elements around two elements together that are one. Groups that have to be one
element are unified by the function given. -/
def parents (unify : List (List Part) → Option (List (List Part))) (first second : List Part) :
    Option (List (List Part)) := do
  let (opening, first) := splitInitial first
  let (opening', second) := splitInitial second
  let opening ← merged? opening opening'
  let (endings, first, second) ←
    mergeFinal (2 * (first.length + second.length) + 2) first.reverse second.reverse []
  let (first, second) ← shareRoot? first.reverse second.reverse
  let groups1 := groups first
  let groups2 := groups second
  let select (one other : List Part) : Option (List Part) :=
    if partsKey one == partsKey other then some one
    else match one, other with
      | .compound _ :: _, .compound _ :: _ =>
        if parentsCover one other then some other
        else if parentsCover other one then some one
        else if mustUnify one other then
          match unify [one, other] with
          | some [only] => some only
          | _ => none
        else none
      | _, _ => none
  let shared := common select groups2 groups1
  let choices := [[opening.map Part.combinator]] ++ interleave shared groups1 groups2 ++ endings
  return (paths (choices.filter fun choice => !choice.isEmpty)).map List.flatten

def all (unify : List (List Part) → Option (List (List Part))) :
    List (List Part) → List (List Part)
  | [] => []
  | first :: rest => rest.foldl (fun found parts =>
      match parts.reverse with
      | [] => found
      | [target] => found.map (· ++ [target])
      | target :: before => found.flatMap fun parts =>
          ((parents unify parts before.reverse).getD []).map (· ++ [target])) [first]

/-- Parts whose last compounds describe one element, put together, at most `n` deep. -/
def unify : (n : Nat) → List (List Part) → Option (List (List Part))
  | 0, _ => none
  | n + 1, complexes => do
    if complexes.length = 1 then return complexes
    let bases ← complexes.mapM fun parts =>
      match parts.getLast? with
      | some (.compound simples) => some simples
      | _ => none
    let base ← match bases with
      | [] => none
      | first :: rest => rest.foldlM Unify.compounds first
    let last ← complexes.getLast?
    return all (unify n)
      (complexes.dropLast.map List.dropLast ++ [last.dropLast ++ [.compound base]])

/-- The number of the parts. What is unified next has fewer of them. -/
def size (complexes : List (List Part)) : Nat := complexes.flatten.length

end Weave

def weave (complexes : List (List Part)) : List (List Part) :=
  Weave.all (Weave.unify (Weave.size complexes + 1)) complexes

def unifyParts (complexes : List (List Part)) : Option (List (List Part)) :=
  Weave.unify (Weave.size complexes + 1) complexes

/-- A selector of the elements that two selectors match, if there is one. -/
def Selector.unify (first second : Selector) : Option Selector :=
  match first.flatMap fun one => second.flatMap fun other =>
    ((unifyParts [one.parts, other.parts]).getD []).map fun parts => Complex.mk parts false with
  | [] => none
  | found => some found

end ComponentBundle.Style
