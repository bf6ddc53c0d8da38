import ComponentBundle.Markup.Block
import ComponentBundle.Proofs.Text.Fold

/-!
# Tags

A tag opens where its name stands behind a mark, up to case, and no word goes on. So a tag that opens in a
text does so in front of everything that neither its name nor a word goes on with. A closing tag is found
as itself, and the part in front of the first one has none in it.
-/
namespace ComponentBundle.Markup

open Text (foldCase atWordEnd)

variable {tag : Tag} {name text front rest behind after body : Text} {c : Char}

theorem exists_of_map_foldCase {inner : Text} (h : front.map foldCase = '<' :: inner) :
    ∃ more, front = '<' :: more := by
  cases front with
  | nil => cases h
  | cons c more =>
    obtain rfl := Text.eq_of_foldCase_eq (List.cons.inj h).1 (by decide)
    exact ⟨more, rfl⟩

theorem afterOpening?_eq_some_iff : afterOpening? name text = some rest ↔
    ∃ front, text = front ++ rest ∧ front.map foldCase = '<' :: name ∧ atWordEnd rest := by
  rw [afterOpening?]
  cases hdrop : Text.dropPrefixFold? ('<' :: name) text with
  | none =>
    refine iff_of_false nofun ?_
    rintro ⟨front, htext, hfront, -⟩
    rw [Text.dropPrefixFold?_eq_some_iff.mpr ⟨front, htext, hfront⟩] at hdrop
    cases hdrop
  | some found =>
    have hunique : ∀ front, text = front ++ rest → front.map foldCase = '<' :: name →
        found = rest := fun front htext hfront => Option.some.inj
      (hdrop.symm.trans (Text.dropPrefixFold?_eq_some_iff.mpr ⟨front, htext, hfront⟩))
    obtain ⟨front, htext, hfront⟩ := Text.dropPrefixFold?_eq_some_iff.mp hdrop
    constructor
    · intro h
      obtain ⟨hend, hfound⟩ := Option.ite_none_right_eq_some.mp h
      obtain rfl := Option.some.inj hfound
      exact ⟨front, htext, hfront, hend⟩
    · rintro ⟨front, htext, hfront, hend⟩
      obtain rfl := hunique front htext hfront
      exact if_pos hend

theorem isSome_afterOpening?_iff : (afterOpening? name text).isSome ↔
    ∃ front rest, text = front ++ rest ∧ front.map foldCase = '<' :: name ∧ atWordEnd rest := by
  simp only [Option.isSome_iff_exists, afterOpening?_eq_some_iff]
  exact exists_comm

theorem ne_nil_of_isSome_afterOpening? (h : (afterOpening? name text).isSome) : text ≠ [] := by
  rintro rfl
  cases h

theorem eq_of_isSome_afterOpening?_cons (h : (afterOpening? name (c :: text)).isSome) : c = '<' := by
  obtain ⟨front, rest, hsplit, hfront, -⟩ := isSome_afterOpening?_iff.mp h
  obtain ⟨more, rfl⟩ := exists_of_map_foldCase hfront
  exact (List.cons.inj hsplit).1

theorem length_lt_of_isSome_afterOpening? (h : (afterOpening? name text).isSome) :
    name.length < text.length := by
  obtain ⟨front, rest, rfl, hfront, -⟩ := isSome_afterOpening?_iff.mp h
  have hlength : front.length = name.length + 1 := Text.length_eq_of_map_foldCase hfront
  rw [List.length_append]
  omega

theorem afterOpening?_append (h : afterOpening? name text = some rest)
    (hbehind : ∀ d ∈ behind.head?, Text.isWord d = false) :
    afterOpening? name (text ++ behind) = some (rest ++ behind) := by
  obtain ⟨front, rfl, hfront, hend⟩ := afterOpening?_eq_some_iff.mp h
  exact afterOpening?_eq_some_iff.mpr
    ⟨front, List.append_assoc .., hfront, (Text.atWordEnd_append hbehind).trans hend⟩

theorem isSome_afterOpening?_of_append (hfront : front.map foldCase = '<' :: name)
    (hbegins : front <+: text) (hsplit : text ++ behind = front ++ rest) (hend : atWordEnd rest) :
    (afterOpening? name text).isSome := by
  obtain ⟨beyond, rfl⟩ := hbegins
  rw [List.append_assoc, List.append_cancel_left_eq] at hsplit
  exact isSome_afterOpening?_iff.mpr
    ⟨front, beyond, rfl, hfront, Text.atWordEnd_of_append (hsplit ▸ hend)⟩

/-- A tag does not open across a character that neither its name goes on with nor any word. -/
theorem isSome_afterOpening?_append (htext : text ≠ [])
    (hbehind : ∀ d ∈ behind.head?, foldCase d ∉ name ∧ Text.isWord d = false) :
    (afterOpening? name (text ++ behind)).isSome = (afterOpening? name text).isSome := by
  cases behind with
  | nil => rw [List.append_nil]
  | cons d inner =>
    obtain ⟨hname, hword⟩ := hbehind d rfl
    rw [Bool.eq_iff_iff]
    constructor
    · intro h
      obtain ⟨front, rest, hsplit, hfront, hend⟩ := isSome_afterOpening?_iff.mp h
      have hbegins := Text.prefix_of_map_foldCase hfront hname hsplit.symm htext
      exact isSome_afterOpening?_of_append hfront hbegins hsplit hend
    · intro h
      obtain ⟨rest, hrest⟩ := Option.isSome_iff_exists.mp h
      exact Option.isSome_iff_exists.mpr ⟨_, afterOpening?_append hrest fun e he => (hbehind e he).2⟩

theorem bracket_notMem_name (tag : Tag) : foldCase '<' ∉ tag.name ∧ Text.isWord '<' = false := by
  cases tag <;> decide

theorem all_isWord_name (tag : Tag) : tag.name.all Text.isWord = true := by
  cases tag <;> decide

theorem blank_notMem_word (h : Text.isBlank c = true) (hname : name.all Text.isWord = true) :
    foldCase c ∉ name := by
  intro hmem
  rw [Text.foldCase_of_isBlank h] at hmem
  have hword := List.all_eq_true.mp hname c hmem
  rw [Text.isWord_eq_false_of_isBlank h] at hword
  cases hword

theorem blank_notMem_name (h : Text.isBlank c = true) (tag : Tag) :
    foldCase c ∉ tag.name ∧ Text.isWord c = false :=
  ⟨blank_notMem_word h (all_isWord_name tag), Text.isWord_eq_false_of_isBlank h⟩

/-- Somewhere in the text a tag of the name opens. -/
def Opens (name text : Text) : Prop := ∃ back, back <:+ text ∧ (afterOpening? name back).isSome

theorem opens_cons_iff :
    Opens name (c :: text) ↔ (afterOpening? name (c :: text)).isSome ∨ Opens name text := by
  simp [Opens, List.suffix_cons_iff, or_and_right, exists_or]

theorem not_opens_nil : ¬Opens name [] := by
  rintro ⟨back, hback, hopens⟩
  rw [List.suffix_nil.mp hback] at hopens
  cases hopens

instance decidableOpens (name : Text) : (text : Text) → Decidable (Opens name text)
  | [] => isFalse not_opens_nil
  | c :: text =>
    have := decidableOpens name text
    decidable_of_iff ((afterOpening? name (c :: text)).isSome ∨ Opens name text) opens_cons_iff.symm

theorem Opens.of_suffix (h : Opens name rest) (hsuffix : rest <:+ text) : Opens name text := by
  obtain ⟨back, hback, hopens⟩ := h
  exact ⟨back, hback.trans hsuffix, hopens⟩

theorem opens_append_iff : Opens name (text ++ rest) ↔
    (∃ start, start <:+ text ∧ start ≠ [] ∧ (afterOpening? name (start ++ rest)).isSome) ∨
      Opens name rest := by
  induction text with
  | nil => simp [List.suffix_nil]
  | cons c text ih =>
    rw [List.cons_append, opens_cons_iff, ih, ← or_assoc]
    simp [List.suffix_cons_iff, or_and_right, exists_or]

theorem opens_append_iff_of_head?
    (h : ∀ d ∈ rest.head?, foldCase d ∉ name ∧ Text.isWord d = false) :
    Opens name (text ++ rest) ↔ Opens name text ∨ Opens name rest := by
  have hhere : (∃ start, start <:+ text ∧ start ≠ [] ∧ (afterOpening? name (start ++ rest)).isSome) ↔
      Opens name text := by
    constructor
    · rintro ⟨start, hsuffix, hne, hopens⟩
      exact ⟨start, hsuffix, by rwa [isSome_afterOpening?_append hne h] at hopens⟩
    · rintro ⟨start, hsuffix, hopens⟩
      have hne := ne_nil_of_isSome_afterOpening? hopens
      exact ⟨start, hsuffix, hne, by rwa [isSome_afterOpening?_append hne h]⟩
  rw [opens_append_iff, hhere]

theorem opens_append_iff_of_bracket_notMem (h : '<' ∉ text) :
    Opens name (text ++ rest) ↔ Opens name rest := by
  rw [opens_append_iff, or_iff_right]
  rintro ⟨start, hsuffix, hne, hopens⟩
  obtain ⟨c, start, rfl⟩ := List.exists_cons_of_ne_nil hne
  obtain rfl := eq_of_isSome_afterOpening?_cons hopens
  exact h (hsuffix.mem List.mem_cons_self)

theorem opens_blank_append_iff (h : ∀ c ∈ text, Text.isBlank c = true) :
    Opens name (text ++ rest) ↔ Opens name rest :=
  opens_append_iff_of_bracket_notMem fun hmem => absurd (h '<' hmem) (by decide)

/-- Blanks at the ends of a text neither open tags nor keep tags from opening. -/
theorem opens_trim_iff : Opens tag.name text.trim ↔ Opens tag.name text := by
  obtain ⟨front, back, htext, hfront, hback⟩ := Text.exists_eq_append_trim text
  have hnone : ¬Opens tag.name back := by
    have hopens : Opens tag.name (back ++ []) ↔ Opens tag.name [] := opens_blank_append_iff hback
    rw [List.append_nil] at hopens
    exact fun h => not_opens_nil (hopens.mp h)
  have hopens : Opens tag.name (front ++ (text.trim ++ back)) ↔ Opens tag.name text.trim := by
    rw [opens_blank_append_iff hfront, opens_append_iff_of_head? fun c hc =>
      blank_notMem_name (hback c (List.mem_of_mem_head? hc)) tag, or_iff_left hnone]
  rw [← hopens, ← htext]

/-- A closing tag, up to case. -/
def closingWord (tag : Tag) : Text := '<' :: '/' :: tag.name ++ ['>']

theorem exists_closingWord_eq (tag : Tag) : ∃ inner, closingWord tag = '<' :: inner ∧ '<' ∉ inner :=
  ⟨'/' :: tag.name ++ ['>'], rfl, by cases tag <;> decide⟩

theorem length_closingWord (tag : Tag) : (closingWord tag).length = tag.name.length + 3 := by
  simp [closingWord]

theorem afterClosing?_eq_some_iff : afterClosing? tag text = some rest ↔
    ∃ front, text = front ++ rest ∧ front.map foldCase = closingWord tag :=
  Text.dropPrefixFold?_eq_some_iff

theorem afterClosing?_nil : afterClosing? tag [] = none := rfl

/-- A closing tag that begins in front of another mark of a tag ends in front of it. -/
theorem afterClosing?_append_eq_none (htext : text ≠ []) (h : afterClosing? tag text = none) :
    afterClosing? tag (text ++ '<' :: rest) = none := by
  cases hafter : afterClosing? tag (text ++ '<' :: rest) with
  | none => rfl
  | some after =>
    obtain ⟨front, hsplit, hfront⟩ := afterClosing?_eq_some_iff.mp hafter
    obtain ⟨inner, hword, hinner⟩ := exists_closingWord_eq tag
    have hmark : foldCase '<' ∉ inner := hinner
    obtain ⟨more, hmore⟩ := Text.prefix_of_map_foldCase (hfront.trans hword) hmark hsplit.symm htext
    rw [afterClosing?_eq_some_iff.mpr ⟨front, hmore.symm, hfront⟩] at h
    cases h

theorem afterClosing?_eq_none_of_append (h : afterClosing? tag (text ++ rest) = none) :
    afterClosing? tag text = none := by
  cases hafter : afterClosing? tag text with
  | none => rfl
  | some after =>
    obtain ⟨front, rfl, hfront⟩ := afterClosing?_eq_some_iff.mp hafter
    rw [afterClosing?_eq_some_iff.mpr ⟨front, List.append_assoc .., hfront⟩] at h
    cases h

def Unclosed (tag : Tag) (text : Text) : Prop :=
  ∀ back, back <:+ text → afterClosing? tag back = none

theorem unclosed_cons_iff :
    Unclosed tag (c :: text) ↔ afterClosing? tag (c :: text) = none ∧ Unclosed tag text := by
  simp [Unclosed, List.suffix_cons_iff, or_imp, forall_and]

theorem untilClosing?_eq_none_iff : untilClosing? tag text = none ↔ Unclosed tag text := by
  induction text with
  | nil => exact iff_of_true rfl fun back hback => List.suffix_nil.mp hback ▸ afterClosing?_nil
  | cons c rest ih =>
    rw [unclosed_cons_iff, ← ih, untilClosing?]
    cases afterClosing? tag (c :: rest) <;> simp

instance : Decidable (Unclosed tag text) :=
  decidable_of_iff (untilClosing? tag text = none) untilClosing?_eq_none_iff

/-- The part in front of a closing tag is what has none in it. -/
theorem untilClosing?_eq_some_iff : untilClosing? tag text = some (body, after) ↔
    ∃ closing, text = body ++ (closing ++ after) ∧ closing.map foldCase = closingWord tag ∧
      Unclosed tag body := by
  obtain ⟨inner, hword, -⟩ := exists_closingWord_eq tag
  induction text generalizing body with
  | nil =>
    refine iff_of_false nofun ?_
    rintro ⟨closing, htext, hclosing, -⟩
    obtain ⟨more, rfl⟩ := exists_of_map_foldCase (hclosing.trans hword)
    simp at htext
  | cons c rest ih =>
    rw [untilClosing?]
    constructor
    · intro h
      split at h
      · rename_i found hfound
        obtain ⟨rfl, rfl⟩ : [] = body ∧ found = after := by simpa using h
        obtain ⟨closing, htext, hclosing⟩ := afterClosing?_eq_some_iff.mp hfound
        refine ⟨closing, htext, hclosing, fun back hback => ?_⟩
        rw [List.suffix_nil.mp hback, afterClosing?_nil]
      · rename_i hnone
        obtain ⟨⟨inner, found⟩, hfound, heq⟩ := Option.map_eq_some_iff.mp h
        obtain ⟨rfl, rfl⟩ : c :: inner = body ∧ found = after := by simpa using heq
        obtain ⟨closing, rfl, hclosing, hinner⟩ := ih.mp hfound
        exact ⟨closing, rfl, hclosing,
          unclosed_cons_iff.mpr ⟨afterClosing?_eq_none_of_append hnone, hinner⟩⟩
    · rintro ⟨closing, htext, hclosing, hbody⟩
      cases body with
      | nil => rw [afterClosing?_eq_some_iff.mpr ⟨closing, htext, hclosing⟩]
      | cons d inner =>
        rw [List.cons_append] at htext
        obtain ⟨rfl, rfl⟩ := List.cons.inj htext
        obtain ⟨hhere, hinner⟩ := unclosed_cons_iff.mp hbody
        obtain ⟨more, hmore⟩ := exists_of_map_foldCase (hclosing.trans hword)
        -- The closing tag behind the body begins with a mark, so none begins in the body and ends there.
        have hnone : afterClosing? tag (c :: (inner ++ (closing ++ after))) = none := by
          rw [hmore]
          exact afterClosing?_append_eq_none (List.cons_ne_nil c inner) hhere
        rw [hnone, ih.mpr ⟨closing, rfl, hclosing, hinner⟩]
        rfl

end ComponentBundle.Markup
