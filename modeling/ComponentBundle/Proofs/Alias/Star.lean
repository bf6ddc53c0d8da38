import ComponentBundle.Alias.Glob
import ComponentBundle.Proofs.Import.Line

/-!
# What a star takes

A pattern matches a specifier if they agree but for texts without a line feed in place of the stars. There
may be many such texts. The first star takes the longest one that leaves behind it what the rest of the
pattern matches, and the search finds it.
-/
namespace ComponentBundle.Alias

variable {pattern specifier wildcard front rest text taken : Text} {tails captures : List Text}

/-- The specifier is the pattern with texts without a line feed in place of its stars. -/
inductive Matches : (pattern specifier : Text) → Prop where
  | nil : Matches [] []
  | char {c : Char} {pattern specifier : Text} (hc : c ≠ '*') (h : Matches pattern specifier) :
    Matches (c :: pattern) (c :: specifier)
  | star {taken pattern specifier : Text} (htaken : '\n' ∉ taken) (h : Matches pattern specifier) :
    Matches ('*' :: pattern) (taken ++ specifier)

/-- What the first star of a pattern takes of a specifier that the pattern matches: no other text in its
place is longer. A pattern without stars takes nothing. -/
inductive Takes : (pattern specifier wildcard : Text) → Prop where
  | plain {pattern : Text} (h : '*' ∉ pattern) : Takes pattern pattern []
  | starred {front wildcard rest back : Text} (hfront : '*' ∉ front) (hwildcard : '\n' ∉ wildcard)
    (hback : Matches rest back)
    (hlongest : ∀ wildcard' back', wildcard' ++ back' = wildcard ++ back → '\n' ∉ wildcard' →
      Matches rest back' → wildcard'.length ≤ wildcard.length) :
    Takes (front ++ '*' :: rest) (front ++ (wildcard ++ back)) wildcard

theorem matches_append_iff (hfront : '*' ∉ front) :
    Matches (front ++ pattern) specifier ↔ ∃ text, specifier = front ++ text ∧ Matches pattern text := by
  induction front generalizing specifier with
  | nil => simp
  | cons c front ih =>
    obtain ⟨hc, hfront⟩ := List.ne_and_not_mem_of_not_mem_cons hfront
    constructor
    · rintro (_ | ⟨_, h⟩ | _)
      · obtain ⟨text, rfl, htext⟩ := (ih hfront).mp h
        exact ⟨text, rfl, htext⟩
      · exact absurd rfl hc
    · rintro ⟨text, rfl, htext⟩
      exact .char hc.symm ((ih hfront).mpr ⟨text, rfl, htext⟩)

theorem Takes.matches (h : Takes pattern specifier wildcard) : Matches pattern specifier := by
  cases h with
  | plain h =>
    rw [← List.append_nil pattern, matches_append_iff h]
    exact ⟨[], rfl, .nil⟩
  | starred hfront hwildcard hback => exact (matches_append_iff hfront).mpr ⟨_, rfl, .star hwildcard hback⟩

/-- The first star takes only one text. -/
theorem Takes.eq {wildcard' : Text} (h : Takes pattern specifier wildcard)
    (h' : Takes pattern specifier wildcard') : wildcard = wildcard' := by
  generalize hpattern : pattern = pattern', hspecifier : specifier = specifier' at h'
  cases h with
  | plain h =>
    cases h' with
    | plain _ => rfl
    | starred => simp [hpattern] at h
  | @starred front wildcard rest back hfront hwildcard hback hlongest =>
    cases h' with
    | plain h' => simp [← hpattern] at h'
    | @starred front' _ rest' back' hfront' hwildcard' hback' hlongest' =>
      have hsame : front = front' := by
        rw [← Text.takeWhile_ne_append hfront rest, hpattern, Text.takeWhile_ne_append hfront']
      subst hsame
      have hrest := (List.cons.inj (List.append_cancel_left hpattern)).2
      subst hrest
      have htext := List.append_cancel_left hspecifier
      have hlength := Nat.le_antisymm (hlongest' _ _ htext hwildcard hback)
        (hlongest _ _ htext.symm hwildcard' hback')
      exact List.append_inj_left htext hlength

namespace Glob

inductive Fills : (tails : List Text) → (text : Text) → Prop where
  | nil : Fills [] []
  | cons {taken rest : Text} {tails : List Text} (htaken : '\n' ∉ taken) (tail : Text)
    (h : Fills tails rest) : Fills (tail :: tails) (taken ++ (tail ++ rest))

theorem ofPattern_of_notMem (h : '*' ∉ pattern) : ofPattern pattern = ⟨pattern, []⟩ := by
  rw [ofPattern, Text.splitOnChar_of_notMem h]

theorem ofPattern_append_star (h : '*' ∉ front) (rest : Text) :
    ofPattern (front ++ '*' :: rest) =
      ⟨front, (ofPattern rest).head :: (ofPattern rest).tails⟩ := by
  have hrest := @Text.splitOnChar_ne_nil '*' rest
  rw [ofPattern, Text.splitOnChar_append_separator, Text.splitOnChar_of_notMem h, ofPattern]
  cases hsplit : Text.splitOnChar '*' rest with
  | nil => exact absurd hsplit hrest
  | cons head tails => rfl

theorem ofPattern_cons_of_ne {c : Char} (hc : c ≠ '*') (pattern : Text) :
    ofPattern (c :: pattern) = ⟨c :: (ofPattern pattern).head, (ofPattern pattern).tails⟩ := by
  obtain ⟨piece, pieces, hpattern, hcons⟩ := Text.splitOnChar_cons_of_ne hc pattern
  rw [ofPattern, ofPattern, hpattern, hcons]

/-- A glob stands for the same specifiers as its pattern. -/
theorem matches_iff : Matches pattern specifier ↔
    ∃ text, specifier = (ofPattern pattern).head ++ text ∧ Fills (ofPattern pattern).tails text := by
  induction pattern generalizing specifier with
  | nil =>
    constructor
    · rintro ⟨⟩
      exact ⟨[], rfl, .nil⟩
    · rintro ⟨text, rfl, ⟨⟩⟩
      exact .nil
  | cons c pattern ih =>
    by_cases hc : c = '*'
    · subst hc
      rw [show ofPattern ('*' :: pattern) = _ from ofPattern_append_star List.not_mem_nil pattern]
      constructor
      · rintro (_ | ⟨hne, _⟩ | ⟨htaken, h⟩)
        · exact absurd rfl hne
        · obtain ⟨text, rfl, hfills⟩ := ih.mp h
          exact ⟨_, rfl, .cons htaken _ hfills⟩
      · rintro ⟨_, rfl, ⟨⟩ | ⟨htaken, tail, hfills⟩⟩
        exact .star htaken (ih.mpr ⟨_, rfl, hfills⟩)
    · rw [ofPattern_cons_of_ne hc]
      constructor
      · rintro (_ | ⟨_, h⟩ | _)
        · obtain ⟨text, rfl, hfills⟩ := ih.mp h
          exact ⟨text, rfl, hfills⟩
        · exact absurd rfl hc
      · rintro ⟨text, rfl, hfills⟩
        exact .char hc (ih.mpr ⟨text, rfl, hfills⟩)

theorem mem_splits_iff :
    (taken, rest) ∈ splits text text.length ↔ text = taken ++ rest ∧ '\n' ∉ taken := by
  simp only [splits, List.mem_filter, List.mem_map, List.mem_reverse, List.mem_range]
  constructor
  · rintro ⟨⟨i, -, hparts⟩, hline⟩
    obtain ⟨rfl, rfl⟩ := Prod.mk.inj hparts
    exact ⟨(List.take_append_drop i text).symm, by simpa using hline⟩
  · rintro ⟨rfl, hline⟩
    have hlength : taken.length < (taken ++ rest).length + 1 := by
      rw [List.length_append]
      omega
    exact ⟨⟨taken.length, hlength, by simp⟩, by simpa using hline⟩

/-- Longer first halves come first. -/
theorem pairwise_splits (text : Text) :
    (splits text text.length).Pairwise fun parts parts' => parts'.1.length < parts.1.length := by
  refine List.Pairwise.filter _ (List.pairwise_map.mpr (List.pairwise_reverse.mpr ?_))
  refine List.pairwise_lt_range.imp_of_mem fun {i j} hi hj hlt => ?_
  rw [List.mem_range] at hi hj
  rw [List.length_take, List.length_take]
  omega

theorem capturesOf_eq_none_iff : capturesOf tails text = none ↔ ¬Fills tails text := by
  induction tails generalizing text with
  | nil =>
    rw [capturesOf]
    split
    · rename_i htext
      exact iff_of_false (by simp) (not_not_intro (htext ▸ .nil))
    · rename_i htext
      refine iff_of_true rfl ?_
      rintro ⟨⟩
      exact htext rfl
  | cons tail tails ih =>
    rw [capturesOf, List.findSome?_eq_none_iff]
    constructor
    · rintro hnone (_ | ⟨htaken, tail, hfills⟩)
      have hmap := hnone _ (mem_splits_iff.mpr ⟨rfl, htaken⟩)
      simp only [Text.dropPrefix?_eq_some_iff.mpr rfl, Option.bind_some, Option.map_eq_none_iff] at hmap
      exact ih.mp hmap hfills
    · rintro hno ⟨taken, rest⟩ hmem
      obtain ⟨rfl, htaken⟩ := mem_splits_iff.mp hmem
      refine Option.bind_eq_none_iff.mpr fun rest' hrest => ?_
      obtain rfl := Text.dropPrefix?_eq_some_iff.mp hrest
      exact Option.map_eq_none_iff.mpr (ih.mpr fun hfills => hno (.cons htaken tail hfills))

/-- The first capture is the longest one that leaves what the others can fill, and those are captured
behind it. -/
theorem exists_of_capturesOf_cons {tail : Text}
    (h : capturesOf (tail :: tails) text = some captures) :
    ∃ taken rest more, captures = taken :: more ∧ text = taken ++ (tail ++ rest) ∧ '\n' ∉ taken ∧
      capturesOf tails rest = some more ∧ ∀ taken' rest', text = taken' ++ (tail ++ rest') →
        '\n' ∉ taken' → Fills tails rest' → taken'.length ≤ taken.length := by
  rw [capturesOf] at h
  obtain ⟨longer, ⟨taken, after⟩, shorter, hsplits, hfound, hnone⟩ := List.findSome?_eq_some_iff.mp h
  obtain ⟨rest, hafter, hmap⟩ := Option.bind_eq_some_iff.mp hfound
  obtain rfl := Text.dropPrefix?_eq_some_iff.mp hafter
  obtain ⟨more, hmore, rfl⟩ := Option.map_eq_some_iff.mp hmap
  obtain ⟨htext, htaken⟩ : text = taken ++ (tail ++ rest) ∧ '\n' ∉ taken :=
    mem_splits_iff.mp (by simp [hsplits])
  refine ⟨taken, rest, more, rfl, htext, htaken, hmore, fun taken' rest' htext' htaken' hfills' => ?_⟩
  have hmem := mem_splits_iff.mpr ⟨htext', htaken'⟩
  have hpairwise := pairwise_splits text
  rw [hsplits] at hmem hpairwise
  rcases List.mem_append.mp hmem with hmem | hmem
  · -- A longer text would have been found first.
    have hmap' := hnone _ hmem
    simp only [Text.dropPrefix?_eq_some_iff.mpr rfl, Option.bind_some, Option.map_eq_none_iff] at hmap'
    exact absurd hfills' (capturesOf_eq_none_iff.mp hmap')
  · rcases List.mem_cons.mp hmem with heq | hmem
    · exact Nat.le_of_eq (congrArg (fun parts => parts.1.length) heq)
    · have hlt := (List.pairwise_cons.mp (List.pairwise_append.mp hpairwise).2.1).1 _ hmem
      exact Nat.le_of_lt hlt

/-- What is captured fills the text. -/
theorem fills_of_capturesOf (h : capturesOf tails text = some captures) : Fills tails text :=
  Classical.not_not.mp fun hno => by
    rw [capturesOf_eq_none_iff.mpr hno] at h
    cases h

theorem captures?_eq_none_iff :
    (ofPattern pattern).captures? specifier = none ↔ ¬Matches pattern specifier := by
  simp only [captures?, matches_iff, Option.bind_eq_none_iff, Text.dropPrefix?_eq_some_iff,
    capturesOf_eq_none_iff, not_exists, not_and]

theorem exists_captures?_of_matches (h : Matches pattern specifier) :
    ∃ captures, (ofPattern pattern).captures? specifier = some captures := by
  rw [← Option.isSome_iff_exists, Option.isSome_iff_ne_none]
  exact fun hnone => captures?_eq_none_iff.mp hnone h

/-- The first capture of a glob, if it has one, is what the first star of its pattern takes. -/
theorem takes_of_captures? (h : (ofPattern pattern).captures? specifier = some captures) :
    Takes pattern specifier (captures.head?.getD []) := by
  obtain ⟨text, htext, hcaptures⟩ := Option.bind_eq_some_iff.mp h
  obtain rfl := Text.dropPrefix?_eq_some_iff.mp htext
  by_cases hstar : '*' ∈ pattern
  · obtain ⟨front, rest, rfl, hfront⟩ := List.eq_append_cons_of_mem hstar
    rw [ofPattern_append_star hfront] at hcaptures ⊢
    obtain ⟨taken, back, more, rfl, rfl, htaken, hmore, hlongest⟩ :=
      exists_of_capturesOf_cons hcaptures
    refine .starred hfront htaken (matches_iff.mpr ⟨back, rfl, fills_of_capturesOf hmore⟩) ?_
    intro taken' back' hsame htaken' hback
    obtain ⟨rest', rfl, hfills'⟩ := matches_iff.mp hback
    exact hlongest taken' rest' hsame.symm htaken' hfills'
  · rw [ofPattern_of_notMem hstar, capturesOf] at hcaptures
    rw [ofPattern_of_notMem hstar]
    split at hcaptures
    · rename_i hnil
      obtain rfl := Option.some.inj hcaptures
      subst hnil
      rw [List.append_nil]
      exact .plain hstar
    · cases hcaptures

theorem takes_iff (h : (ofPattern pattern).captures? specifier = some captures) :
    Takes pattern specifier wildcard ↔ captures.head?.getD [] = wildcard := by
  constructor
  · exact (takes_of_captures? h).eq
  · rintro rfl
    exact takes_of_captures? h

end Glob

end ComponentBundle.Alias
