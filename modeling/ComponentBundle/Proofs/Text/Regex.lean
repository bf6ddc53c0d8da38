import ComponentBundle.Proofs.Text.Pieces
import ComponentBundle.Text.Word

/-!
# Regular expressions

An expression may match at a place of a text in many ways, of which the first one counts: what stands
first in an alternative is preferred, and a repeated part takes as much as it can, or as little as it can
if it is a lazy one. A text is searched from left to right. The parts that are repeated here are single
characters, so no bound on repetitions is needed. The program reads its texts by functions of its own;
this is what they are measured by.
-/
namespace ComponentBundle.Text

/-- A regular expression whose repeated parts are single characters. -/
inductive Regex where
  | nothing
  | one (accepts : Char → Bool)
  | many (greedy : Bool) (accepts : Char → Bool)
  | lineStart
  | textStart
  | textEnd
  | wordBoundary
  | andThen (first second : Regex)
  | orElse (first second : Regex)
  | group (inside : Regex)

namespace Regex

/-- A place in a text: what is in front of it, what is behind it, and what the groups that are closed by
then have taken. -/
structure Place where
  front : Text
  rest : Text
  groups : List Text

/-- The places behind a number of characters that are accepted, the farthest one first or last. -/
def stretches (greedy : Bool) (accepts : Char → Bool) (groups : List Text) :
    (front rest : Text) → List Place
  | front, [] => [⟨front, [], groups⟩]
  | front, c :: rest =>
    let farther := if accepts c then stretches greedy accepts groups (front ++ [c]) rest else []
    if greedy then farther ++ [⟨front, c :: rest, groups⟩] else ⟨front, c :: rest, groups⟩ :: farther

/-- The places that the ways to match lead to, that of the preferred way first. -/
def ways : Regex → Place → List Place
  | nothing, place => [place]
  | one accepts, place =>
    match place.rest with
    | [] => []
    | c :: rest => if accepts c then [⟨place.front ++ [c], rest, place.groups⟩] else []
  | many greedy accepts, place => stretches greedy accepts place.groups place.front place.rest
  | lineStart, place => if place.front.getLast?.all (· == '\n') then [place] else []
  | textStart, place => if place.front = [] then [place] else []
  | textEnd, place => if place.rest = [] then [place] else []
  | wordBoundary, place =>
    if place.front.getLast?.any isWord = place.rest.head?.any isWord then [] else [place]
  | andThen first second, place => (first.ways place).flatMap second.ways
  | orElse first second, place => first.ways place ++ second.ways place
  | group inside, place =>
    (inside.ways place).map fun later =>
      ⟨later.front, later.rest, later.groups ++ [later.front.drop place.front.length]⟩

def match? (regex : Regex) (place : Place) : Option Place := (regex.ways place).head?

/-- Where the first match in the rest of a text ends. -/
def find? (regex : Regex) : (front rest : Text) → Option Place
  | front, [] => regex.match? ⟨front, [], []⟩
  | front, c :: rest => (regex.match? ⟨front, c :: rest, []⟩).or (regex.find? (front ++ [c]) rest)

/-- What the groups of the first match in a text take. -/
def captures? (regex : Regex) (text : Text) : Option (List Text) :=
  (regex.find? [] text).map Place.groups

/-- What the groups take in all matches in the rest of a text, each of which is looked for behind the one
before it. Empty matches are passed over. -/
def allCaptures (regex : Regex) (front rest : Text) : List (List Text) :=
  match rest with
  | [] => []
  | c :: rest =>
    match regex.match? ⟨front, c :: rest, []⟩ with
    | none => regex.allCaptures (front ++ [c]) rest
    | some place =>
      if place.rest.length ≤ rest.length then
        place.groups :: regex.allCaptures place.front place.rest
      else regex.allCaptures (front ++ [c]) rest
termination_by rest.length

def sequence : List Regex → Regex
  | [] => nothing
  | regex :: regexes => andThen regex (sequence regexes)

/-- The characters of a word, each for itself. -/
def literal (word : Text) : Regex := sequence (word.map fun c => one (· == c))

def optional (regex : Regex) : Regex := orElse regex nothing

def isInline (c : Char) : Bool := c != '\n'

variable {regex : Regex} {regexes : List Regex} {accepts : Char → Bool} {greedy : Bool}
  {front taken rest : Text} {groups : List Text} {place later : Place} {c : Char} {α : Type}
  {k : Place → Option α}

@[simp] theorem stretches_nil : stretches greedy accepts groups front [] = [⟨front, [], groups⟩] := rfl

theorem stretches_cons : stretches greedy accepts groups front (c :: rest) =
    if greedy then
      (if accepts c then stretches greedy accepts groups (front ++ [c]) rest else []) ++
        [⟨front, c :: rest, groups⟩]
    else ⟨front, c :: rest, groups⟩ ::
      if accepts c then stretches greedy accepts groups (front ++ [c]) rest else [] := rfl

@[simp] theorem ways_nothing : nothing.ways place = [place] := rfl

@[simp] theorem flatMap_ways_nothing (places : List Place) : places.flatMap nothing.ways = places :=
  List.flatMap_singleton' places

@[simp] theorem ways_one_nil : (one accepts).ways ⟨front, [], groups⟩ = [] := rfl

@[simp] theorem ways_one_cons : (one accepts).ways ⟨front, c :: rest, groups⟩ =
    if accepts c then [⟨front ++ [c], rest, groups⟩] else [] := rfl

@[simp] theorem ways_many : (many greedy accepts).ways place =
    stretches greedy accepts place.groups place.front place.rest := rfl

@[simp] theorem ways_lineStart :
    lineStart.ways place = if place.front.getLast?.all (· == '\n') then [place] else [] := rfl

@[simp] theorem ways_textStart :
    textStart.ways place = if place.front = [] then [place] else [] := rfl

@[simp] theorem ways_textEnd : textEnd.ways place = if place.rest = [] then [place] else [] := rfl

@[simp] theorem ways_wordBoundary : wordBoundary.ways place =
    if place.front.getLast?.any isWord = place.rest.head?.any isWord then [] else [place] := rfl

@[simp] theorem ways_andThen (first second : Regex) :
    (andThen first second).ways place = (first.ways place).flatMap second.ways := rfl

@[simp] theorem ways_orElse (first second : Regex) :
    (orElse first second).ways place = first.ways place ++ second.ways place := rfl

@[simp] theorem ways_group : (group regex).ways place = (regex.ways place).map fun later =>
    ⟨later.front, later.rest, later.groups ++ [later.front.drop place.front.length]⟩ := rfl

theorem sequence_nil : sequence [] = nothing := rfl

theorem sequence_cons : sequence (regex :: regexes) = andThen regex (sequence regexes) := rfl

theorem literal_nil : literal [] = nothing := rfl

theorem literal_cons (word : Text) :
    literal (c :: word) = andThen (one (· == c)) (literal word) := rfl

@[simp] theorem find?_nil : regex.find? front [] = regex.match? ⟨front, [], []⟩ := rfl

@[simp] theorem find?_cons : regex.find? front (c :: rest) =
    (regex.match? ⟨front, c :: rest, []⟩).or (regex.find? (front ++ [c]) rest) := rfl

theorem mem_stretches_iff : place ∈ stretches greedy accepts groups front rest ↔
    ∃ taken behind, rest = taken ++ behind ∧ (∀ c ∈ taken, accepts c = true) ∧
      place = ⟨front ++ taken, behind, groups⟩ := by
  induction rest generalizing front with
  | nil =>
    simp only [stretches_nil, List.mem_singleton, List.nil_eq, List.append_eq_nil_iff]
    constructor
    · rintro rfl
      exact ⟨[], [], ⟨rfl, rfl⟩, by simp, by simp⟩
    · rintro ⟨_, _, ⟨rfl, rfl⟩, -, rfl⟩
      simp
  | cons c rest ih =>
    have hhere : place ∈ stretches greedy accepts groups front (c :: rest) ↔
        place = ⟨front, c :: rest, groups⟩ ∨
          accepts c = true ∧ place ∈ stretches greedy accepts groups (front ++ [c]) rest := by
      by_cases hc : accepts c = true
      · cases greedy <;> simp [stretches_cons, hc, or_comm]
      · cases greedy <;> simp [stretches_cons, hc]
    rw [hhere, ih]
    constructor
    · rintro (rfl | ⟨hc, taken, behind, rfl, htaken, rfl⟩)
      · exact ⟨[], c :: rest, rfl, by simp, by simp⟩
      · exact ⟨c :: taken, behind, rfl, List.forall_mem_cons.mpr ⟨hc, htaken⟩, by simp⟩
    · rintro ⟨taken, behind, hrest, htaken, rfl⟩
      cases taken with
      | nil =>
        rw [List.nil_append] at hrest
        subst hrest
        exact .inl (by simp)
      | cons d taken =>
        obtain ⟨rfl, rfl⟩ := List.cons.inj hrest
        obtain ⟨hc, htaken⟩ := List.forall_mem_cons.mp htaken
        exact .inr ⟨hc, taken, behind, rfl, htaken, by simp⟩

theorem stretches_of_not (hc : accepts c = false) :
    stretches greedy accepts groups front (c :: rest) = [⟨front, c :: rest, groups⟩] := by
  cases greedy <;> simp [stretches_cons, hc]

/-- The farther places of a greedy stretch come first. -/
theorem findSome?_stretches_greedy (hc : accepts c = true) :
    (stretches true accepts groups front (c :: rest)).findSome? k =
      ((stretches true accepts groups (front ++ [c]) rest).findSome? k).or
        (k ⟨front, c :: rest, groups⟩) := by
  simp [stretches_cons, hc, List.findSome?_append]

/-- The nearer places of a lazy stretch come first. -/
theorem findSome?_stretches_lazy (hc : accepts c = true) :
    (stretches false accepts groups front (c :: rest)).findSome? k =
      (k ⟨front, c :: rest, groups⟩).or
        ((stretches false accepts groups (front ++ [c]) rest).findSome? k) := by
  simp only [stretches_cons, hc, if_true, Bool.false_eq_true, if_false, List.findSome?_cons]
  cases k ⟨front, c :: rest, groups⟩ <;> rfl

/-- If a greedy stretch can go on from a place, it does. -/
theorem findSome?_stretches_append_of_some {result : α} (htaken : ∀ c ∈ taken, accepts c = true)
    (h : (stretches true accepts groups (front ++ taken) rest).findSome? k = some result) :
    (stretches true accepts groups front (taken ++ rest)).findSome? k = some result := by
  induction taken generalizing front with
  | nil => simpa using h
  | cons c taken ih =>
    obtain ⟨hc, htaken⟩ := List.forall_mem_cons.mp htaken
    have hlater := @ih (front ++ [c]) htaken (by simpa using h)
    rw [List.cons_append, findSome?_stretches_greedy hc, hlater, Option.some_or]

/-- A greedy stretch over characters in front of which nothing can match goes on behind them. -/
theorem findSome?_stretches_append_of_none (htaken : ∀ c ∈ taken, accepts c = true)
    (h : ∀ front c rest, accepts c = true → k ⟨front, c :: rest, groups⟩ = none) :
    (stretches true accepts groups front (taken ++ rest)).findSome? k =
      (stretches true accepts groups (front ++ taken) rest).findSome? k := by
  induction taken generalizing front with
  | nil => simp
  | cons c taken ih =>
    obtain ⟨hc, htaken⟩ := List.forall_mem_cons.mp htaken
    rw [List.cons_append, findSome?_stretches_greedy hc, h _ _ _ hc, Option.or_none, ih htaken]
    simp

/-- A lazy stretch over characters in front of which nothing can match goes on behind them. -/
theorem findSome?_stretches_lazy_append (htaken : ∀ c ∈ taken, accepts c = true)
    (h : ∀ front c rest, c ∈ taken → k ⟨front, c :: rest, groups⟩ = none) :
    (stretches false accepts groups front (taken ++ rest)).findSome? k =
      (stretches false accepts groups (front ++ taken) rest).findSome? k := by
  induction taken generalizing front with
  | nil => simp
  | cons c taken ih =>
    obtain ⟨hc, htaken⟩ := List.forall_mem_cons.mp htaken
    have hlater := @ih (front ++ [c]) htaken fun front d rest hd => h front d rest (.tail c hd)
    rw [List.cons_append, findSome?_stretches_lazy hc, h _ _ _ List.mem_cons_self, Option.none_or,
      hlater]
    simp

@[simp] theorem match?_sequence_nil : (sequence []).match? place = some place := rfl

/-- The match of a sequence is the first way to match its first part that the others can go on from. -/
theorem match?_sequence_cons : (sequence (regex :: regexes)).match? place =
    (regex.ways place).findSome? (sequence regexes).match? := by
  rw [match?, sequence_cons, ways_andThen, List.head?_flatMap]
  rfl

theorem mem_ways_sequence_cons : later ∈ (sequence (regex :: regexes)).ways place ↔
    ∃ between ∈ regex.ways place, later ∈ (sequence regexes).ways between := by
  simp [sequence_cons]

theorem mem_ways_sequence_nil : later ∈ (sequence []).ways place ↔ later = place := by
  simp [sequence_nil]

theorem match?_one_cons : (sequence (one accepts :: regexes)).match? ⟨front, c :: rest, groups⟩ =
    if accepts c then (sequence regexes).match? ⟨front ++ [c], rest, groups⟩ else none := by
  rw [match?_sequence_cons]
  by_cases hc : accepts c = true
  · simp [hc]
  · simp [hc]

theorem match?_one_nil : (sequence (one accepts :: regexes)).match? ⟨front, [], groups⟩ = none := by
  simp [match?_sequence_cons]

theorem match?_sequence_singleton : (sequence [regex]).match? place = regex.match? place := by
  simp [match?, sequence_cons, sequence_nil]

theorem match?_orElse (first second : Regex) :
    (orElse first second).match? place = (first.match? place).or (second.match? place) := by
  simp [match?, List.head?_append]

theorem match?_optional_one_cons :
    (sequence (optional (one accepts) :: regexes)).match? ⟨front, c :: rest, groups⟩ =
      (if accepts c then (sequence regexes).match? ⟨front ++ [c], rest, groups⟩ else none).or
        ((sequence regexes).match? ⟨front, c :: rest, groups⟩) := by
  rw [match?_sequence_cons, optional, ways_orElse, List.findSome?_append]
  by_cases hc : accepts c = true <;> simp [hc]

theorem match?_optional_one_nil :
    (sequence (optional (one accepts) :: regexes)).match? ⟨front, [], groups⟩ =
      (sequence regexes).match? ⟨front, [], groups⟩ := by
  simp [match?_sequence_cons, optional]

/-- If the other parts do not match in front of the characters that are repeated, all of them are taken. -/
theorem match?_many_of_none (text : Text)
    (h : ∀ front c rest, accepts c = true →
      (sequence regexes).match? ⟨front, c :: rest, groups⟩ = none) :
    (sequence (many true accepts :: regexes)).match? ⟨front, text, groups⟩ =
      (sequence regexes).match? ⟨front ++ text.takeWhile accepts, text.dropWhile accepts, groups⟩ := by
  have hsplit : text.takeWhile accepts ++ text.dropWhile accepts = text :=
    List.takeWhile_append_dropWhile
  have htaken : ∀ c ∈ text.takeWhile accepts, accepts c = true :=
    List.all_eq_true.mp List.all_takeWhile
  have hgo := @findSome?_stretches_append_of_none _ front _ (text.dropWhile accepts) _ _ _ htaken h
  rw [hsplit] at hgo
  rw [match?_sequence_cons, ways_many, hgo]
  cases hdrop : text.dropWhile accepts with
  | nil => simp
  | cons c rest =>
    have hc : accepts c = false := by
      have hhead := List.head?_dropWhile_not accepts text
      rw [hdrop] at hhead
      simpa using hhead
    simp [stretches_of_not hc]

/-- A word that is spelled out is taken off the front. -/
theorem match?_literal (word : Text) :
    (sequence (literal word :: regexes)).match? ⟨front, rest, groups⟩ =
      (dropPrefix? word rest).bind fun behind =>
        (sequence regexes).match? ⟨front ++ word, behind, groups⟩ := by
  rw [match?_sequence_cons]
  induction word generalizing front rest with
  | nil => simp [literal_nil, dropPrefix?]
  | cons w word ih =>
    cases rest with
    | nil => simp [literal_cons, dropPrefix?]
    | cons c rest =>
      have hlater := @ih (front ++ [c]) rest
      by_cases hc : c = w
      · subst hc
        simpa [literal_cons, dropPrefix?] using hlater
      · simp [literal_cons, dropPrefix?, hc, Ne.symm hc]

theorem mem_ways_one : later ∈ (one accepts).ways place ↔
    ∃ c rest, place.rest = c :: rest ∧ accepts c = true ∧
      later = ⟨place.front ++ [c], rest, place.groups⟩ := by
  obtain ⟨front, rest, groups⟩ := place
  cases rest with
  | nil => simp
  | cons c rest =>
    simp only [ways_one_cons, List.cons.injEq]
    constructor
    · intro h
      obtain ⟨hc, rfl⟩ : accepts c = true ∧ later = ⟨front ++ [c], rest, groups⟩ := by
        simpa using h
      exact ⟨c, rest, ⟨rfl, rfl⟩, hc, rfl⟩
    · rintro ⟨_, _, ⟨rfl, rfl⟩, hc, rfl⟩
      simp [hc]

theorem mem_ways_many : later ∈ (many greedy accepts).ways place ↔
    ∃ taken behind, place.rest = taken ++ behind ∧ (∀ c ∈ taken, accepts c = true) ∧
      later = ⟨place.front ++ taken, behind, place.groups⟩ := by
  rw [ways_many, mem_stretches_iff]

theorem mem_ways_group {inside : Regex} : later ∈ (group inside).ways place ↔
    ∃ inner ∈ inside.ways place,
      later = ⟨inner.front, inner.rest, inner.groups ++ [inner.front.drop place.front.length]⟩ := by
  simp [eq_comm]

/-- An expression that begins at the start of a text is found there or not at all. -/
theorem find?_of_textStart (regexes : List Regex) (text : Text) :
    (sequence (textStart :: regexes)).find? [] text =
      (sequence regexes).match? ⟨[], text, []⟩ := by
  have hhere : (sequence (textStart :: regexes)).match? ⟨[], text, []⟩ =
      (sequence regexes).match? ⟨[], text, []⟩ := by
    simp [match?_sequence_cons]
  have hlater (front rest : Text) (hfront : front ≠ []) :
      (sequence (textStart :: regexes)).find? front rest = none := by
    induction rest generalizing front with
    | nil => simp [match?_sequence_cons, hfront]
    | cons c rest ih =>
      rw [find?_cons, ih (front ++ [c]) (by simp)]
      simp [match?_sequence_cons, hfront]
  cases text with
  | nil => exact hhere
  | cons c rest => rw [find?_cons, hlater _ rest (by simp), Option.or_none, hhere]

theorem allCaptures_nil : regex.allCaptures front [] = [] := by
  rw [allCaptures]

theorem allCaptures_of_none (h : regex.match? ⟨front, c :: rest, []⟩ = none) :
    regex.allCaptures front (c :: rest) = regex.allCaptures (front ++ [c]) rest := by
  rw [allCaptures]
  simp only [h]

theorem allCaptures_of_some (h : regex.match? ⟨front, rest, []⟩ = some place)
    (hlength : place.rest.length < rest.length) :
    regex.allCaptures front rest = place.groups :: regex.allCaptures place.front place.rest := by
  cases rest with
  | nil => simp at hlength
  | cons c rest =>
    rw [List.length_cons] at hlength
    rw [allCaptures]
    simp only [h]
    rw [if_pos (by omega)]

end Regex

end ComponentBundle.Text
