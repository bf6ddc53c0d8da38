import ComponentBundle.Text.Blank
import ComponentBundle.Text.Word

/-!
# Words up to case

A word is found in a text where characters stand that are its letters up to case. Only letters have case,
so a mark is found as itself, and what is found ends in front of each character that the word does not go
on with. A blank ends all words, and trimming takes off blanks only.
-/
namespace ComponentBundle.Text

variable {word front text rest : Text} {c d : Char}

/-- What holds of all characters of a text is decided by looking at these. -/
instance (priority := high) decidableForallMem (p : Char → Prop) [DecidablePred p] (text : Text) :
    Decidable (∀ c ∈ text, p c) :=
  List.decidableBAll p text

theorem dropPrefixFold?_eq_some_iff : dropPrefixFold? word text = some rest ↔
    ∃ front, text = front ++ rest ∧ front.map foldCase = word := by
  induction word generalizing text with
  | nil => simp [dropPrefixFold?, eq_comm]
  | cons w word ih =>
    cases text with
    | nil => simp [dropPrefixFold?]
    | cons c text =>
      by_cases h : w = foldCase c
      · rw [dropPrefixFold?, if_pos h, ih]
        constructor
        · rintro ⟨front, rfl, rfl⟩
          exact ⟨c :: front, rfl, by simp [h]⟩
        · rintro ⟨front, htext, hfront⟩
          cases front with
          | nil => cases hfront
          | cons d front =>
            obtain ⟨rfl, rfl⟩ := List.cons.inj htext
            exact ⟨front, rfl, (List.cons.inj hfront).2⟩
      · rw [dropPrefixFold?, if_neg h]
        refine iff_of_false nofun ?_
        rintro ⟨front, htext, hfront⟩
        cases front with
        | nil => cases hfront
        | cons d front =>
          obtain ⟨rfl, -⟩ := List.cons.inj htext
          exact h (List.cons.inj hfront).1.symm

theorem length_eq_of_map_foldCase (h : front.map foldCase = word) : front.length = word.length := by
  rw [← h, List.length_map]

private theorem isLower_toLower (h : c.toLower ≠ c) : c.toLower.isLower = true := by
  unfold Char.toLower at h ⊢
  split at h
  · rename_i hupper
    rw [dif_pos hupper]
    unfold Char.isLower
    simp only [UInt32.le_iff_toNat_le, ge_iff_le, Bool.and_eq_true, decide_eq_true_eq,
      UInt32.toNat_add] at hupper ⊢
    simp at hupper ⊢
    omega
  · exact absurd rfl h

private theorem isUpper_of_toLower (h : c.toLower ≠ c) : c.isUpper = true := by
  unfold Char.toLower at h
  split at h
  · rename_i hupper
    exact decide_eq_true hupper
  · exact absurd rfl h

/-- What is no letter of lower case has no other case. -/
theorem eq_of_foldCase_eq (h : foldCase c = d) (hd : d.isLower = false) : c = d := by
  rw [foldCase] at h
  split at h
  · exact absurd hd (h ▸ by decide)
  · split at h
    · exact absurd hd (h ▸ by decide)
    · refine Decidable.byContradiction fun hne => ?_
      have hlower : c.toLower.isLower = true := isLower_toLower (h ▸ Ne.symm hne)
      rw [h, hd] at hlower
      cases hlower

theorem foldCase_eq_iff (hlower : d.isLower = false) (hself : foldCase d = d) :
    foldCase c = d ↔ c = d :=
  ⟨fun h => eq_of_foldCase_eq h hlower, fun h => h ▸ hself⟩

/-- A word that goes on only with other characters, found in a text in front of a character, ends in
front of that one. -/
theorem prefix_of_map_foldCase {back inner : Text} (hfold : front.map foldCase = c :: inner)
    (hinner : foldCase d ∉ inner) (h : front ++ rest = text ++ d :: back) (htext : text ≠ []) :
    front <+: text := by
  rcases List.append_eq_append_iff.mp h with ⟨beyond, htext, -⟩ | ⟨beyond, hfront, hbeyond⟩
  · exact ⟨beyond, htext.symm⟩
  · cases beyond with
    | nil => exact ⟨[], by simp [hfront]⟩
    | cons e beyond =>
      obtain ⟨rfl, -⟩ := List.cons.inj hbeyond
      obtain ⟨first, text, rfl⟩ := List.exists_cons_of_ne_nil htext
      rw [hfront, List.map_append, List.map_cons, List.map_cons, List.cons_append] at hfold
      exact absurd ((List.cons.inj hfold).2 ▸ by simp) hinner

theorem atWordEnd_append (h : ∀ c ∈ rest.head?, isWord c = false) :
    atWordEnd (text ++ rest) = atWordEnd text := by
  cases text with
  | cons d text => rfl
  | nil =>
    cases rest with
    | nil => rfl
    | cons c rest => simpa [atWordEnd] using h c rfl

theorem atWordEnd_of_append (h : atWordEnd (text ++ rest) = true) : atWordEnd text = true := by
  cases text with
  | nil => rfl
  | cons c text => exact h

private def blanks : List Nat :=
  [9, 10, 11, 12, 13, 0x20, 0x85, 0xA0, 0x1680, 0x2000, 0x2001, 0x2002, 0x2003, 0x2004, 0x2005, 0x2006,
    0x2007, 0x2008, 0x2009, 0x200A, 0x2028, 0x2029, 0x202F, 0x205F, 0x3000]

private theorem toNat_mem_blanks (h : isBlank c = true) : c.toNat ∈ blanks := by
  simp only [isBlank, Bool.or_eq_true, Bool.and_eq_true, decide_eq_true_eq, beq_iff_eq] at h
  simp only [blanks, List.mem_cons, List.not_mem_nil, or_false]
  omega

/-- A blank is outside all words. -/
theorem isWord_eq_false_of_isBlank (h : isBlank c = true) : isWord c = false := by
  have hall : ∀ n ∈ blanks, isWord (Char.ofNat n) = false := by decide +kernel
  simpa using hall c.toNat (toNat_mem_blanks h)

/-- A blank has no case. -/
theorem foldCase_of_isBlank (h : isBlank c = true) : foldCase c = c := by
  have hall : ∀ n ∈ blanks, foldCase (Char.ofNat n) = Char.ofNat n := by decide +kernel
  simpa using hall c.toNat (toNat_mem_blanks h)

theorem toNat_lt_of_isAlphanum (h : c.isAlphanum = true) : c.toNat < 128 := by
  change ((decide (65 ≤ c.val ∧ c.val ≤ 90) || (97 ≤ c.val && c.val ≤ 122)) ||
    (48 ≤ c.val && c.val ≤ 57)) = true at h
  simp only [Bool.or_eq_true, Bool.and_eq_true, decide_eq_true_eq, UInt32.le_iff_toNat_le] at h
  change ((65 ≤ c.toNat ∧ c.toNat ≤ 90) ∨ 97 ≤ c.toNat ∧ c.toNat ≤ 122) ∨
    48 ≤ c.toNat ∧ c.toNat ≤ 57 at h
  omega

theorem isWord_of_isAlphanum (h : c.isAlphanum = true) : isWord c = true := by
  rw [isWord, if_pos (toNat_lt_of_isAlphanum h), h, Bool.true_or]

theorem isAlphanum_of_isLower (h : c.isLower = true) : c.isAlphanum = true := by
  change (c.isUpper || c.isLower || c.isDigit) = true
  rw [h, Bool.or_true, Bool.true_or]

theorem foldCase_of_isLower (h : c.isLower = true) : foldCase c = c := by
  have hall : ∀ n < 128, (Char.ofNat n).isLower = true → foldCase (Char.ofNat n) = Char.ofNat n := by
    decide +kernel
  have hchar := hall c.toNat (toNat_lt_of_isAlphanum (isAlphanum_of_isLower h))
  rw [Char.ofNat_toNat] at hchar
  exact hchar h

/-- A character is the letter that it is up to case, or both are in words. -/
theorem foldCase_cases (c : Char) :
    foldCase c = c ∨ isWord c = true ∧ (foldCase c).isLower = true := by
  rw [foldCase]
  split
  · rename_i hlong
    obtain rfl : c = Char.ofNat 0x17F := by rw [← hlong, Char.ofNat_toNat]
    exact .inr (by decide +kernel)
  · split
    · rename_i hkelvin
      obtain rfl : c = Char.ofNat 0x212A := by rw [← hkelvin, Char.ofNat_toNat]
      exact .inr (by decide +kernel)
    · by_cases hlower : c.toLower = c
      · exact .inl hlower
      · have hupper : c.isUpper = true := isUpper_of_toLower hlower
        have halphanum : (c.isUpper || c.isLower || c.isDigit) = true := by
          rw [hupper, Bool.true_or, Bool.true_or]
        exact .inr ⟨isWord_of_isAlphanum halphanum, isLower_toLower hlower⟩

theorem foldCase_foldCase (c : Char) : foldCase (foldCase c) = foldCase c := by
  rcases foldCase_cases c with hsame | ⟨-, hlower⟩
  · rw [hsame, hsame]
  · exact foldCase_of_isLower hlower

theorem isWord_foldCase (c : Char) : isWord (foldCase c) = isWord c := by
  rcases foldCase_cases c with hsame | ⟨hword, hlower⟩
  · rw [hsame]
  · rw [hword, isWord_of_isAlphanum (isAlphanum_of_isLower hlower)]

theorem isBlank_foldCase (c : Char) : isBlank (foldCase c) = isBlank c := by
  rcases foldCase_cases c with hsame | ⟨hword, hlower⟩
  · rw [hsame]
  · have hnot {d : Char} (hd : isWord d = true) : isBlank d = false := by
      cases hblank : isBlank d with
      | false => rfl
      | true =>
        rw [isWord_eq_false_of_isBlank hblank] at hd
        cases hd
    rw [hnot hword, hnot (isWord_of_isAlphanum (isAlphanum_of_isLower hlower))]

theorem mem_of_map_foldCase (hlower : d.isLower = false) (hself : foldCase d = d)
    (h : text.map foldCase = rest.map foldCase) (hd : d ∈ rest) : d ∈ text := by
  obtain ⟨c, hc, hfold⟩ := List.mem_map.mp (h ▸ List.mem_map_of_mem hd)
  exact eq_of_foldCase_eq (hfold.trans hself) hlower ▸ hc

/-- What does not depend on case holds of the characters of both texts. -/
theorem forall_mem_of_map_foldCase {p : Char → Bool} {b : Bool} (hp : ∀ c, p (foldCase c) = p c)
    (h : text.map foldCase = rest.map foldCase) (hall : ∀ c ∈ text, p c = b) : ∀ c ∈ rest, p c = b := by
  intro c hc
  obtain ⟨d, hd, hfold⟩ := List.mem_map.mp (h ▸ List.mem_map_of_mem hc)
  rw [← hp c, ← hfold, hp d, hall d hd]

theorem forall_head?_of_map_foldCase {p : Char → Bool} {b : Bool} (hp : ∀ c, p (foldCase c) = p c)
    (h : text.map foldCase = rest.map foldCase) (hall : ∀ c ∈ text.head?, p c = b) :
    ∀ c ∈ rest.head?, p c = b := by
  cases text with
  | nil =>
    rw [List.map_eq_nil_iff.mp h.symm]
    exact nofun
  | cons c text =>
    obtain ⟨d, rest, rfl, hd, -⟩ := List.map_eq_cons_iff.mp h.symm
    intro e he
    obtain rfl := Option.some.inj he
    rw [← hp d, hd, hp c, hall c rfl]

/-- Only blanks are taken off a text. -/
theorem exists_eq_append_trim (text : Text) : ∃ front back, text = front ++ (text.trim ++ back) ∧
    (∀ c ∈ front, isBlank c = true) ∧ ∀ c ∈ back, isBlank c = true := by
  refine ⟨text.takeWhile isBlank, (text.trimStart.reverse.takeWhile isBlank).reverse, ?_,
    List.all_eq_true.mp List.all_takeWhile, fun c hc =>
      List.all_eq_true.mp List.all_takeWhile c (List.mem_reverse.mp hc)⟩
  rw [trim, trimEnd, ← List.reverse_append, List.takeWhile_append_dropWhile, List.reverse_reverse]
  exact List.takeWhile_append_dropWhile.symm

end ComponentBundle.Text
