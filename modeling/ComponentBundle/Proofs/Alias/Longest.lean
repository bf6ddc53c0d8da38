import ComponentBundle.Proofs.Alias.Star
import ComponentBundle.Proofs.Text.Regex

/-!
# What all stars take

There are many ways to cut a specifier into the pieces of a pattern and texts between them. A glob finds
one whenever there is one, and of all of them it finds the one whose first text is longest, among those
the one whose second text is longest, and so on. This is also what the regular expression captures that
has a greedy group in place of each star.
-/
namespace ComponentBundle.Alias.Glob

open Text (Regex)

variable {head tail text rest specifier pattern : Text} {tails taken other more : List Text}

def starParts : (tails : List Text) → List Regex
  | [] => [.textEnd]
  | tail :: tails => .group (.many true Regex.isInline) :: .literal tail :: starParts tails

/-- The regular expression that a glob stands for. -/
def expression (glob : Glob) : Regex :=
  .sequence (.textStart :: .literal glob.head :: starParts glob.tails)

private theorem splits_cons (c : Char) (text : Text) (n : Nat) :
    splits (c :: text) (n + 1) =
      (if c = '\n' then [] else (splits text n).map fun parts => (c :: parts.1, parts.2)) ++
        [([], c :: text)] := by
  by_cases hc : c = '\n'
  · subst hc
    simp [splits, List.range_succ_eq_map, List.filter_map, Function.comp_def]
  · have hne : '\n' ≠ c := Ne.symm hc
    have hrange : List.range (n + 1 + 1) = 0 :: (List.range (n + 1)).map Nat.succ :=
      List.range_succ_eq_map
    simp [splits, hrange, List.filter_map, Function.comp_def, hc, hne]

/-- A greedy stretch of characters within a line leads to the splits of the text, in their order. -/
private theorem stretches_eq_splits (groups : List Text) (front text : Text) :
    Regex.stretches true Regex.isInline groups front text =
      (splits text text.length).map fun parts => ⟨front ++ parts.1, parts.2, groups⟩ := by
  induction text generalizing front with
  | nil => simp [splits]
  | cons c text ih =>
    rw [List.length_cons, splits_cons]
    by_cases hc : c = '\n'
    · simp [hc, Regex.stretches_cons, Regex.isInline]
    · simp [hc, Regex.stretches_cons, Regex.isInline, ih]

/-- The expression of the stars and tails captures what the search for them captures. -/
private theorem match?_starParts (tails : List Text) (groups : List Text) (front text : Text) :
    ((Regex.sequence (starParts tails)).match? ⟨front, text, groups⟩).map Regex.Place.groups =
      (capturesOf tails text).map (groups ++ ·) := by
  induction tails generalizing groups front text with
  | nil =>
    rw [starParts, Regex.match?_sequence_cons, capturesOf]
    by_cases htext : text = [] <;> simp [htext]
  | cons tail tails ih =>
    rw [starParts, Regex.match?_sequence_cons, capturesOf]
    simp only [Regex.ways_group, Regex.ways_many, stretches_eq_splits, List.map_map,
      List.findSome?_map, Function.comp_def, Regex.match?_literal, List.map_findSome?,
      Option.map_bind, ih, Option.map_map, List.drop_left, List.append_assoc, List.singleton_append]

/-- The regular expression of a glob captures what the glob captures. -/
theorem captures?_expression (glob : Glob) (specifier : Text) :
    glob.expression.captures? specifier = glob.captures? specifier := by
  rw [expression, Regex.captures?, Regex.find?_of_textStart, Regex.match?_literal, captures?,
    Option.map_bind]
  refine Option.bind_congr fun text _ => ?_
  have hstars := match?_starParts glob.tails [] glob.head text
  simpa using hstars

/-- The specifier is the head, and then each of the tails with one of the texts in front of it. -/
def Decomposes (head : Text) (tails : List Text) (specifier : Text) (taken : List Text) : Prop :=
  taken.length = tails.length ∧ specifier = head ++ (List.zipWith (· ++ ·) taken tails).flatten

instance : Decidable (Decomposes head tails specifier taken) :=
  inferInstanceAs (Decidable (_ ∧ _))

/-- Of all texts that the specifier is made with, these are the longest: each is as long as it can be
behind those in front of it. -/
structure IsLongest (head : Text) (tails : List Text) (specifier : Text) (taken : List Text) :
    Prop where
  decomposes : Decomposes head tails specifier taken
  longest : ∀ other n, Decomposes head tails specifier other → other.take n = taken.take n →
    (other.getD n []).length ≤ (taken.getD n []).length

theorem decomposes_head_iff : Decomposes head tails (head ++ text) taken ↔
    Decomposes [] tails text taken := by
  simp [Decomposes]

theorem Decomposes.exists_eq_append (h : Decomposes head tails specifier taken) :
    ∃ text, specifier = head ++ text ∧ Decomposes [] tails text taken :=
  ⟨_, h.2, h.1, rfl⟩

theorem isLongest_head_iff : IsLongest head tails (head ++ text) taken ↔
    IsLongest [] tails text taken := by
  constructor
  · rintro ⟨hdecomposes, hlongest⟩
    refine ⟨decomposes_head_iff.mp hdecomposes, fun other n hother => ?_⟩
    exact hlongest other n (decomposes_head_iff.mpr hother)
  · rintro ⟨hdecomposes, hlongest⟩
    refine ⟨decomposes_head_iff.mpr hdecomposes, fun other n hother => ?_⟩
    exact hlongest other n (decomposes_head_iff.mp hother)

theorem decomposes_cons_iff : Decomposes [] (tail :: tails) text taken ↔
    ∃ first rest more, taken = first :: more ∧ text = first ++ (tail ++ rest) ∧
      Decomposes [] tails rest more := by
  constructor
  · rintro ⟨hlength, htext⟩
    obtain ⟨first, more, rfl⟩ := List.exists_cons_of_length_eq_add_one hlength
    refine ⟨first, _, more, rfl, ?_, Nat.succ_inj.mp hlength, rfl⟩
    simpa using htext
  · rintro ⟨first, rest, more, rfl, rfl, hlength, rfl⟩
    exact ⟨congrArg (· + 1) hlength, by simp⟩

/-- The first text is longest if no longer one leaves what the others can be found in, and then the
others are longest in what it leaves. -/
theorem isLongest_cons_iff {first : Text} :
    IsLongest [] (tail :: tails) (first ++ (tail ++ rest)) (first :: more) ↔
      IsLongest [] tails rest more ∧ ∀ first' rest' more',
        first ++ (tail ++ rest) = first' ++ (tail ++ rest') → Decomposes [] tails rest' more' →
          first'.length ≤ first.length := by
  constructor
  · rintro ⟨hdecomposes, hlongest⟩
    obtain ⟨first', rest', more', htaken, htext, hmore⟩ := decomposes_cons_iff.mp hdecomposes
    obtain ⟨rfl, rfl⟩ := List.cons.inj htaken
    obtain rfl := List.append_cancel_left (List.append_cancel_left htext)
    refine ⟨⟨hmore, fun other n hother hsame => ?_⟩, fun first' rest' more' htext' hmore' => ?_⟩
    · have hcons : Decomposes [] (tail :: tails) (first ++ (tail ++ rest)) (first :: other) :=
        decomposes_cons_iff.mpr ⟨first, rest, other, rfl, rfl, hother⟩
      have hlength := hlongest _ (n + 1) hcons (by simp [hsame])
      simpa using hlength
    · have hcons : Decomposes [] (tail :: tails) (first ++ (tail ++ rest)) (first' :: more') :=
        decomposes_cons_iff.mpr ⟨first', rest', more', rfl, htext', hmore'⟩
      have hlength := hlongest _ 0 hcons rfl
      simpa using hlength
  · rintro ⟨⟨hmore, hlongest⟩, hfirst⟩
    refine ⟨decomposes_cons_iff.mpr ⟨first, rest, more, rfl, rfl, hmore⟩, ?_⟩
    intro other n hother hsame
    obtain ⟨first', rest', more', rfl, htext', hmore'⟩ := decomposes_cons_iff.mp hother
    cases n with
    | zero => simpa using hfirst first' rest' more' htext' hmore'
    | succ n =>
      rw [List.take_succ_cons, List.take_succ_cons] at hsame
      obtain ⟨hfirst', hmoreSame⟩ := List.cons.inj hsame
      subst hfirst'
      obtain rfl := List.append_cancel_left (List.append_cancel_left htext')
      simpa using hlongest more' n hmore' hmoreSame

/-- There is only one way to take the longest texts. -/
theorem IsLongest.eq (h : IsLongest [] tails text taken) (h' : IsLongest [] tails text other) :
    taken = other := by
  induction tails generalizing text taken other with
  | nil =>
    have htaken := List.eq_nil_of_length_eq_zero h.decomposes.1
    have hother := List.eq_nil_of_length_eq_zero h'.decomposes.1
    rw [htaken, hother]
  | cons tail tails ih =>
    obtain ⟨first, rest, more, rfl, rfl, hmore⟩ := decomposes_cons_iff.mp h.decomposes
    obtain ⟨first', rest', more', rfl, htext, hmore'⟩ := decomposes_cons_iff.mp h'.decomposes
    have hle : first.length ≤ first'.length := by simpa using h'.longest _ 0 h.decomposes rfl
    have hge : first'.length ≤ first.length := by simpa using h.longest _ 0 h'.decomposes rfl
    obtain rfl := List.append_inj_left htext (Nat.le_antisymm hle hge)
    obtain rfl := List.append_cancel_left (List.append_cancel_left htext)
    rw [ih (isLongest_cons_iff.mp h).1 (isLongest_cons_iff.mp h').1]

/-- Within a line the stars fill a text just when it decomposes. -/
theorem fills_iff (hline : '\n' ∉ text) :
    Fills tails text ↔ ∃ taken, Decomposes [] tails text taken := by
  constructor
  · intro h
    clear hline
    induction h with
    | nil => exact ⟨[], rfl, rfl⟩
    | @cons first rest tails _ tail _ ih =>
      obtain ⟨more, hmore⟩ := ih
      exact ⟨first :: more, decomposes_cons_iff.mpr ⟨first, rest, more, rfl, rfl, hmore⟩⟩
  · rintro ⟨taken, h⟩
    induction tails generalizing text taken with
    | nil =>
      obtain rfl : text = [] := by simpa [Decomposes] using h.2
      exact .nil
    | cons tail tails ih =>
      obtain ⟨first, rest, more, rfl, rfl, hmore⟩ := decomposes_cons_iff.mp h
      simp only [List.mem_append, not_or] at hline
      exact .cons hline.1 tail (ih hline.2.2 more hmore)

private theorem isLongest_of_capturesOf (hline : '\n' ∉ text)
    (h : capturesOf tails text = some taken) : IsLongest [] tails text taken := by
  induction tails generalizing text taken with
  | nil =>
    rw [capturesOf] at h
    split at h
    · rename_i htext
      obtain rfl := Option.some.inj h
      refine ⟨⟨rfl, htext⟩, fun other n hother _ => ?_⟩
      obtain rfl := List.eq_nil_of_length_eq_zero hother.1
      exact Nat.le_refl _
    · cases h
  | cons tail tails ih =>
    obtain ⟨first, rest, more, rfl, rfl, -, hmore, hlongest⟩ := exists_of_capturesOf_cons h
    simp only [List.mem_append, not_or] at hline
    refine isLongest_cons_iff.mpr ⟨ih hline.2.2 hmore, fun first' rest' more' htext hmore' => ?_⟩
    have hline' : '\n' ∉ first' ++ (tail ++ rest') := by simp [← htext, hline]
    simp only [List.mem_append, not_or] at hline'
    exact hlongest first' rest' htext hline'.1 ((fills_iff hline'.2.2).mpr ⟨more', hmore'⟩)

theorem capturesOf_eq_some_iff (hline : '\n' ∉ text) :
    capturesOf tails text = some taken ↔ IsLongest [] tails text taken := by
  constructor
  · exact isLongest_of_capturesOf hline
  · intro h
    have hfills := (fills_iff hline).mpr ⟨taken, h.decomposes⟩
    obtain ⟨found, hfound⟩ := Option.ne_none_iff_exists'.mp
      fun hnone => capturesOf_eq_none_iff.mp hnone hfills
    rw [hfound, (isLongest_of_capturesOf hline hfound).eq h]

theorem ofPattern_append_flatMap (hhead : '*' ∉ head) (htails : ∀ tail ∈ tails, '*' ∉ tail) :
    ofPattern (head ++ tails.flatMap ('*' :: ·)) = ⟨head, tails⟩ := by
  rw [ofPattern, Text.splitOnChar_append_flatMap hhead htails]

private theorem captures?_eq_none_iff_forall (hline : '\n' ∉ specifier) :
    captures? ⟨head, tails⟩ specifier = none ↔ ∀ taken, ¬Decomposes head tails specifier taken := by
  rw [captures?, Option.bind_eq_none_iff]
  constructor
  · intro hnone taken htaken
    obtain ⟨text, rfl, htext⟩ := htaken.exists_eq_append
    simp only [List.mem_append, not_or] at hline
    have hcaptures := hnone text (Text.dropPrefix?_eq_some_iff.mpr rfl)
    exact capturesOf_eq_none_iff.mp hcaptures ((fills_iff hline.2).mpr ⟨taken, htext⟩)
  · intro hno text htext
    obtain rfl := Text.dropPrefix?_eq_some_iff.mp htext
    simp only [List.mem_append, not_or] at hline
    refine capturesOf_eq_none_iff.mpr fun hfills => ?_
    obtain ⟨taken, htaken⟩ := (fills_iff hline.2).mp hfills
    exact hno taken (decomposes_head_iff.mpr htaken)

private theorem captures?_eq_some_iff (hline : '\n' ∉ specifier) :
    captures? ⟨head, tails⟩ specifier = some taken ↔ IsLongest head tails specifier taken := by
  rw [captures?, Option.bind_eq_some_iff]
  constructor
  · rintro ⟨text, htext, hcaptures⟩
    obtain rfl := Text.dropPrefix?_eq_some_iff.mp htext
    simp only [List.mem_append, not_or] at hline
    exact isLongest_head_iff.mpr ((capturesOf_eq_some_iff hline.2).mp hcaptures)
  · intro h
    obtain ⟨text, rfl, -⟩ := h.decomposes.exists_eq_append
    simp only [List.mem_append, not_or] at hline
    refine ⟨text, Text.dropPrefix?_eq_some_iff.mpr rfl, ?_⟩
    exact (capturesOf_eq_some_iff hline.2).mpr (isLongest_head_iff.mp h)

/-- A pattern of pieces with stars between them matches a specifier of one line just when the specifier
is made of the pieces with texts in place of the stars. It captures the texts that are longest, the first
one first, and so does its regular expression. -/
theorem captures?_eq_some_iff_isLongest (hpieces : ∀ piece ∈ head :: tails, '*' ∉ piece)
    (hpattern : pattern = head ++ tails.flatMap ('*' :: ·)) (hline : '\n' ∉ specifier) :
    (ofPattern pattern).expression.captures? specifier = (ofPattern pattern).captures? specifier ∧
      (((ofPattern pattern).captures? specifier).isSome ↔
        ∃ taken, Decomposes head tails specifier taken) ∧
      ∀ taken, (ofPattern pattern).captures? specifier = some taken ↔
        IsLongest head tails specifier taken := by
  obtain ⟨hhead, htails⟩ := List.forall_mem_cons.mp hpieces
  rw [hpattern, ofPattern_append_flatMap hhead htails]
  refine ⟨captures?_expression _ specifier, ?_, fun taken => captures?_eq_some_iff hline⟩
  rw [Option.isSome_iff_ne_none, ne_eq, captures?_eq_none_iff_forall hline]
  exact Classical.not_forall_not

/-- Of the two stars the first takes all up to the last letter that the pattern can go on with; the dot of
the pattern stands for itself. -/
theorem captures?_eq_some_iff_isLongest_twoStars :
    (∀ piece ∈ ["$a".toList, "a".toList, ".js".toList], '*' ∉ piece) ∧
      '\n' ∉ "$abaaca.js".toList ∧
      (ofPattern "$a*a*.js".toList).expression.captures? "$abaaca.js".toList =
        some ["baac".toList, []] ∧
      IsLongest "$a".toList ["a".toList, ".js".toList] "$abaaca.js".toList ["baac".toList, []] ∧
      ¬∃ taken, Decomposes "$a".toList ["a".toList, ".js".toList] "$abaaca_js".toList taken := by
  have hpieces : ∀ piece ∈ ["$a".toList, "a".toList, ".js".toList], '*' ∉ piece := by decide
  have hpattern : "$a*a*.js".toList =
      "$a".toList ++ ["a".toList, ".js".toList].flatMap ('*' :: ·) := by decide
  have hline : '\n' ∉ "$abaaca.js".toList := by decide
  have hother : '\n' ∉ "$abaaca_js".toList := by decide
  obtain ⟨hexpression, -, hsome⟩ := captures?_eq_some_iff_isLongest hpieces hpattern hline
  obtain ⟨-, hmatches, -⟩ := captures?_eq_some_iff_isLongest hpieces hpattern hother
  have hcaptures : (ofPattern "$a*a*.js".toList).captures? "$abaaca.js".toList =
      some ["baac".toList, []] := by decide
  have hnone : (ofPattern "$a*a*.js".toList).captures? "$abaaca_js".toList = none := by decide
  refine ⟨hpieces, hline, hexpression.trans hcaptures, (hsome _).mp hcaptures, fun htaken => ?_⟩
  have hmatch := hmatches.mpr htaken
  rw [hnone] at hmatch
  cases hmatch

end ComponentBundle.Alias.Glob
