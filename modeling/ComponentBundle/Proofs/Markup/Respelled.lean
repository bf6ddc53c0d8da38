import ComponentBundle.Proofs.Markup.Assembled
import ComponentBundle.Proofs.Markup.Attribute
import Mathlib.Data.List.Forall2

/-!
# Respelled texts

A text is respelled where letters of a tag are put in lower case, and nowhere else. Which letters those may
be is told by what is in front of them: the mark of a tag, and the letters of its name up to there. So
respelling changes nothing in the languages that attributes name: none of their names begins as the tag
does, and a value is read behind characters that are in no tag.
-/
namespace ComponentBundle.Markup

open Text (foldCase)

/-- The letters of the name of a tag that may follow a character, if `letters` may stand there: all of them
behind the mark of a tag, and behind one of them those that are left. -/
def lettersBehind (tag : Tag) (letters : Text) (c : Char) : Text :=
  if c = '<' ∨ c = '/' ∧ letters = tag.name then tag.name
  else if Attributes.isNameChar c = true ∧ letters.head? = some (foldCase c) then letters.tail
  else []

def lettersAfter (tag : Tag) (letters text : Text) : Text := text.foldl (lettersBehind tag) letters

/-- The ways to respell a text: letters of the name of the tag, where they may stand, are put in lower case. -/
inductive Respelled (tag : Tag) : (letters : Text) → Text → Text → Prop where
  | nil {letters : Text} : Respelled tag letters [] []
  | cons {letters text made : Text} {c d : Char} (letter : d = c ∨ foldCase c = d ∧ letters.head? = some d)
      (rest : Respelled tag (lettersBehind tag letters c) text made) :
      Respelled tag letters (c :: text) (d :: made)

variable {tag other : Tag} {letters text made rest behind name word value : Text} {c d : Char}

theorem lettersAfter_map_foldCase (tag : Tag) (letters text : Text) :
    lettersAfter tag letters (text.map foldCase) = lettersAfter tag letters text := by
  have hmark (c : Char) : foldCase c = '<' ↔ c = '<' := Text.foldCase_eq_iff (by decide) (by decide)
  have hslash (c : Char) : foldCase c = '/' ↔ c = '/' := Text.foldCase_eq_iff (by decide) (by decide)
  rw [lettersAfter, lettersAfter, List.foldl_map]
  congr 1
  funext letters c
  simp only [lettersBehind, hmark, hslash, Attributes.isNameChar_foldCase, Text.foldCase_foldCase]

/-- A letter that is respelled is the same up to case. -/
theorem foldCase_eq_of_letter (h : d = c ∨ foldCase c = d ∧ letters.head? = some d) :
    foldCase d = foldCase c := by
  rcases h with rfl | ⟨rfl, -⟩
  · rfl
  · exact Text.foldCase_foldCase c

namespace Respelled

theorem refl (tag : Tag) (letters text : Text) : Respelled tag letters text text := by
  induction text generalizing letters with
  | nil => exact .nil
  | cons c text ih => exact .cons (.inl rfl) (ih _)

theorem append (h : Respelled tag letters text made)
    (hrest : ∀ letters, Respelled tag letters rest behind) :
    Respelled tag letters (text ++ rest) (made ++ behind) := by
  induction h with
  | nil => exact hrest _
  | cons hletter _ ih => exact .cons hletter ih

theorem exists_of_append {found : Text} (h : Respelled tag letters (text ++ rest) found) :
    ∃ made behind, found = made ++ behind ∧ Respelled tag letters text made ∧
      Respelled tag (lettersAfter tag letters text) rest behind := by
  induction text generalizing letters found with
  | nil => exact ⟨[], found, rfl, .nil, h⟩
  | cons c text ih =>
    cases h with
    | cons hletter hrest =>
      obtain ⟨made, behind, rfl, hmade, hbehind⟩ := ih hrest
      exact ⟨_ :: made, behind, rfl, .cons hletter hmade, hbehind⟩

theorem map_foldCase_eq (h : Respelled tag letters text made) :
    text.map foldCase = made.map foldCase := by
  induction h with
  | nil => rfl
  | cons hletter _ ih => rw [List.map_cons, List.map_cons, ih, foldCase_eq_of_letter hletter]

/-- Texts that are respelled as each other are equal. -/
theorem antisymm {letters' : Text} (h : Respelled tag letters text made)
    (hback : Respelled other letters' made text) : made = text := by
  induction h generalizing letters' with
  | nil => rfl
  | cons hletter _ ih =>
    cases hback with
    | cons hback hrest =>
      rw [ih hrest]
      congr 1
      rcases hletter with rfl | ⟨rfl, -⟩
      · rfl
      · rcases hback with hsame | ⟨hfold, -⟩
        · exact hsame.symm
        · rw [← hfold, Text.foldCase_foldCase]

/-- Where no letter of the tag may stand, a text without the mark of a tag stays as it is. -/
theorem eq_of_bracket_notMem (h : Respelled tag [] text made) (hmark : '<' ∉ text) : made = text := by
  induction text generalizing made with
  | nil =>
    cases h
    rfl
  | cons c text ih =>
    obtain ⟨hc, htext⟩ := List.ne_and_not_mem_of_not_mem_cons hmark
    cases h with
    | cons hletter hrest =>
      have hnone : lettersBehind tag [] c = [] := by
        have hname : tag.name ≠ [] := by cases tag <;> decide
        simp [lettersBehind, Ne.symm hc, hname.symm]
      rw [hnone] at hrest
      rw [ih hrest htext, hletter.resolve_right fun h => by cases h.2]

theorem takeWhile {p : Char → Bool} (hp : ∀ c, p (foldCase c) = p c)
    (h : Respelled tag letters text made) :
    Respelled tag letters (text.takeWhile p) (made.takeWhile p) ∧
      Respelled tag (lettersAfter tag letters (text.takeWhile p)) (text.dropWhile p)
        (made.dropWhile p) := by
  induction h with
  | nil => exact ⟨.nil, .nil⟩
  | @cons letters text made c d hletter hrest ih =>
    have hsame : p d = p c := by rw [← hp d, foldCase_eq_of_letter hletter, hp c]
    cases hc : p c with
    | false =>
      simp only [List.takeWhile_cons, List.dropWhile_cons, hsame, hc]
      exact ⟨.nil, .cons hletter hrest⟩
    | true =>
      simp only [List.takeWhile_cons, List.dropWhile_cons, hsame, hc]
      exact ⟨.cons hletter ih.1, ih.2⟩

end Respelled

/-- A name that is read at the text begins with no letter of the tag but its first one. -/
def AtName (tag : Tag) (letters text : Text) : Prop :=
  letters = [] ∨ letters = tag.name ∨ ∀ c ∈ text.head?, Attributes.isNameChar c = false

def SameReading (tag : Tag) (read read' : Text × Text) : Prop :=
  Respelled tag [] read.1 read'.1 ∧
    ∃ letters, Respelled tag letters read.2 read'.2 ∧ AtName tag letters read.2

theorem lettersBehind_of_not_isNameChar (hname : Attributes.isNameChar c = false)
    (hmark : c ≠ '<' ∧ c ≠ '/') : lettersBehind tag letters c = [] := by
  simp [lettersBehind, hname, hmark]

theorem atName_lettersBehind (hname : Attributes.isNameChar c = false) :
    AtName tag (lettersBehind tag letters c) text := by
  rw [lettersBehind]
  split
  · exact .inr (.inl rfl)
  · exact .inl (by simp [hname])

namespace Attributes

theorem rel_or {α : Type} {R : α → α → Prop} {a b a' b' : Option α} (h : Option.Rel R a b)
    (h' : Option.Rel R a' b') : Option.Rel R (a.or a') (b.or b') := by
  cases h with
  | some h => exact .some h
  | none => exact h'

theorem rel_quoted? {quote : Char} (hquote : quote = '"' ∨ quote = '\'')
    (h : Respelled tag [] text made) :
    Option.Rel (SameReading tag) (quoted? quote text) (quoted? quote made) := by
  have hbehind (letters : Text) : lettersBehind tag letters quote = [] := by
    rcases hquote with rfl | rfl
    · exact lettersBehind_of_not_isNameChar (by decide) (by decide)
    · exact lettersBehind_of_not_isNameChar (by decide) (by decide)
  have hfold (c : Char) : foldCase c = quote ↔ c = quote :=
    Text.foldCase_eq_iff (by rcases hquote with rfl | rfl <;> decide)
      (by rcases hquote with rfl | rfl <;> decide)
  cases h with
  | nil => exact .none
  | @cons _ text made c d hletter hrest =>
    obtain rfl : d = c := hletter.resolve_right fun h => by cases h.2
    by_cases hd : d = quote
    · subst hd
      rw [hbehind] at hrest
      obtain ⟨htake, hdrop⟩ := hrest.takeWhile (p := (· ≠ d)) fun c => by simp [hfold]
      rw [quoted?, quoted?, if_pos rfl, if_pos rfl]
      cases htext : text.dropWhile (· ≠ d) with
      | nil =>
        rw [htext] at hdrop
        generalize made.dropWhile (· ≠ d) = back at hdrop
        cases hdrop
        exact .none
      | cons e rest =>
        have he : e = d := by
          have hhead := List.head?_dropWhile_not (· ≠ d) text
          rw [htext] at hhead
          simpa using hhead
        rw [htext, he] at hdrop
        generalize made.dropWhile (· ≠ d) = back at hdrop
        cases hdrop with
        | cons _ hbehindQuote =>
          rw [hbehind] at hbehindQuote
          exact .some ⟨htake, [], hbehindQuote, .inl rfl⟩
    · rw [quoted?, quoted?, if_neg hd, if_neg hd]
      exact .none

theorem isBareChar_foldCase (c : Char) : isBareChar (foldCase c) = isBareChar c := by
  have hmark : foldCase c = '>' ↔ c = '>' := Text.foldCase_eq_iff (by decide) (by decide)
  rw [isBareChar, isBareChar, Text.isBlank_foldCase, bne, bne]
  congr 2
  rw [Bool.eq_iff_iff, beq_iff_eq, beq_iff_eq, hmark]

theorem isNameChar_of_not_isBareChar (h : isBareChar c = false) : isNameChar c = false := by
  by_cases hmark : c = '>'
  · exact hmark ▸ by decide
  · exact isNameChar_of_isBlank (by simpa [isBareChar, hmark] using h)

theorem rel_bare? (h : Respelled tag [] text made) :
    Option.Rel (SameReading tag) (bare? text) (bare? made) := by
  obtain ⟨htake, hdrop⟩ := h.takeWhile isBareChar_foldCase
  have hempty : text.takeWhile isBareChar = [] ↔ made.takeWhile isBareChar = [] := by
    rw [← List.map_eq_nil_iff (f := foldCase), htake.map_foldCase_eq, List.map_eq_nil_iff]
  rw [bare?_eq, bare?_eq]
  by_cases hnone : text.takeWhile isBareChar = []
  · rw [if_pos hnone, if_pos (hempty.mp hnone)]
    exact .none
  · rw [if_neg hnone, if_neg (fun h => hnone (hempty.mpr h))]
    refine .some ⟨htake, _, hdrop, .inr (.inr fun c hc => isNameChar_of_not_isBareChar ?_)⟩
    have hnot := List.head?_dropWhile_not isBareChar text
    rwa [Option.mem_def.mp hc] at hnot

theorem value?_cons_of_ne (h : c ≠ '=') (text : Text) : value? (c :: text) = none := by
  unfold value?
  split
  · rename_i heq
    exact absurd (List.cons.inj heq).1 h
  · rfl

theorem rel_value? (h : Respelled tag letters text made) :
    Option.Rel (SameReading tag) (value? text) (value? made) := by
  cases h with
  | nil => exact .none
  | @cons _ text made c d hletter hrest =>
    have hsign (c : Char) : foldCase c = '=' ↔ c = '=' := Text.foldCase_eq_iff (by decide) (by decide)
    have hsame : d = '=' ↔ c = '=' := by rw [← hsign d, foldCase_eq_of_letter hletter, hsign c]
    by_cases hc : c = '='
    · obtain rfl := hsame.mpr hc
      subst hc
      rw [lettersBehind_of_not_isNameChar (by decide) (by decide)] at hrest
      exact rel_or (rel_quoted? (.inl rfl) hrest) (rel_or (rel_quoted? (.inr rfl) hrest) (rel_bare? hrest))
    · rw [value?_cons_of_ne hc, value?_cons_of_ne fun h => hc (hsame.mp h)]
      exact .none

theorem sameReading_valueBehind (h : Respelled tag letters text made)
    (hends : ∀ c ∈ text.head?, isNameChar c = false) :
    SameReading tag (valueBehind text) (valueBehind made) := by
  have hvalue := rel_value? h
  rw [valueBehind, valueBehind]
  generalize value? text = found, value? made = found' at hvalue
  cases hvalue with
  | some hread => exact hread
  | none => exact ⟨.refl .., letters, h, .inr (.inr hends)⟩

/-- No name of the respelled text is one that begins with another letter than the tag, unless it was. -/
theorem eq_word_iff_of_respelled (hword : word.head?.map foldCase ≠ tag.name.head?)
    (h : Respelled tag letters name made) (hname : ∀ c ∈ name, isNameChar c = true)
    (hletters : letters = [] ∨ letters = tag.name) : name = word ↔ made = word := by
  cases h with
  | nil => rfl
  | @cons _ name made c d hletter hrest =>
    obtain ⟨hc, hinner⟩ := List.forall_mem_cons.mp hname
    by_cases hstart : letters.head? = some (foldCase c)
    · have hfirst : tag.name.head? = some (foldCase c) := by
        rcases hletters with rfl | rfl
        · cases hstart
        · exact hstart
      refine iff_of_false ?_ ?_
      · rintro rfl
        exact hword hfirst.symm
      · rintro rfl
        exact hword (by rw [hfirst, ← foldCase_eq_of_letter hletter]; rfl)
    · have hmark : c ≠ '<' := ne_of_isNameChar hc (by decide)
      have hslash : c ≠ '/' := ne_of_isNameChar hc (by decide)
      have hnone : lettersBehind tag letters c = [] := by
        simp [lettersBehind, hmark, hslash, hstart]
      obtain rfl : d = c := hletter.resolve_right fun h => hstart (h.1 ▸ h.2)
      rw [hnone] at hrest
      rw [hrest.eq_of_bracket_notMem fun hmem => absurd (hinner _ hmem) (by decide)]

/-- An entry of a respelled text: the same name, if it is one that begins with another letter than the tag,
and a value that is respelled where no letter of the tag stands in front. -/
def SameEntry (tag : Tag) (entry entry' : Text × Text) : Prop :=
  (∀ word : Text, word.head?.map foldCase ≠ tag.name.head? → (entry.1 = word ↔ entry'.1 = word)) ∧
    Respelled tag [] entry.2 entry'.2

/-- A respelled text is read entry by entry as the text is. -/
theorem Reads.exists_of_respelled {entries : List (Text × Text)} (h : Reads text entries)
    (hrespelled : Respelled tag letters text made) (hat : AtName tag letters text) :
    ∃ entries', Reads made entries' ∧ List.Forall₂ (SameEntry tag) entries entries' := by
  -- A name is read where it begins, and there the tag is at its first letter or at none: in front of the name
  -- stands no other character of a name.
  induction h generalizing letters made with
  | nil =>
    cases hrespelled
    exact ⟨[], .nil, .nil⟩
  | @skip c text entries hother _ ih =>
    cases hrespelled with
    | @cons _ _ made _ d hletter hrest =>
      have hd : isNameChar d = false := by
        rw [← isNameChar_foldCase, foldCase_eq_of_letter hletter, isNameChar_foldCase, hother]
      obtain ⟨entries', hreads, hsame⟩ := ih hrest (atName_lettersBehind hother)
      exact ⟨entries', .skip hd hreads, hsame⟩
  | @name name after entries hne hname hends _ ih =>
    obtain ⟨made, behind, rfl, hmade, hbehind⟩ := hrespelled.exists_of_append
    have hletters : letters = [] ∨ letters = tag.name := by
      rw [AtName, ← or_assoc] at hat
      refine hat.resolve_right fun hnot => ?_
      obtain ⟨c, name, rfl⟩ := List.exists_cons_of_ne_nil hne
      have hc := hnot c rfl
      rw [hname c List.mem_cons_self] at hc
      cases hc
    obtain ⟨hvalue, letters', hrest, hat'⟩ := sameReading_valueBehind hbehind hends
    obtain ⟨entries', hreads, hsame⟩ := ih hrest hat'
    have hmadeNe : made ≠ [] := by
      rintro rfl
      cases hmade
      exact hne rfl
    have hmadeName : ∀ c ∈ made, isNameChar c = true :=
      Text.forall_mem_of_map_foldCase isNameChar_foldCase hmade.map_foldCase_eq hname
    have hmadeEnds : ∀ c ∈ behind.head?, isNameChar c = false :=
      Text.forall_head?_of_map_foldCase isNameChar_foldCase hbehind.map_foldCase_eq hends
    exact ⟨_, .name hmadeNe hmadeName hmadeEnds hreads,
      .cons ⟨fun word hword => eq_word_iff_of_respelled hword hmade hname hletters, hvalue⟩ hsame⟩

theorem rel_get?_insertAll {entries entries' : List (Text × Text)} {found found' : Attributes}
    (hword : word.head?.map foldCase ≠ tag.name.head?)
    (h : List.Forall₂ (SameEntry tag) entries entries')
    (hfound : Option.Rel (Respelled tag []) (found.get? word) (found'.get? word)) :
    Option.Rel (Respelled tag []) ((found.insertAll entries).get? word)
      ((found'.insertAll entries').get? word) := by
  induction h generalizing found found' with
  | nil => exact hfound
  | @cons entry entry' entries entries' hsame _ ih =>
    refine @ih (found.insert entry.1 entry.2) (found'.insert entry'.1 entry'.2) ?_
    have hname := hsame.1 word hword
    rw [get?_insert, get?_insert]
    by_cases hentry : word = entry.1
    · rw [if_pos hentry, if_pos (hname.mp hentry.symm).symm]
      exact .some hsame.2
    · rw [if_neg hentry, if_neg fun h => hentry (hname.mpr h.symm).symm]
      exact hfound

theorem eq_value_iff_of_respelled (hvalue : '<' ∉ value) (h : Respelled tag [] text made) :
    text = value ↔ made = value := by
  constructor
  · rintro rfl
    exact h.eq_of_bracket_notMem hvalue
  · rintro rfl
    exact (h.eq_of_bracket_notMem fun hmem => hvalue (Text.mem_of_map_foldCase (by decide) (by decide)
      h.map_foldCase_eq.symm hmem)).symm

/-- Respelling does not change which attributes have a value with no mark of a tag in it. -/
theorem get?_ofText_of_respelled (hword : word.head?.map foldCase ≠ tag.name.head?)
    (hvalue : '<' ∉ value) (h : Respelled tag [] text made) :
    (ofText text).get? word = some value ↔ (ofText made).get? word = some value := by
  obtain ⟨entries, hentries⟩ := exists_reads text
  obtain ⟨entries', hentries', hsame⟩ := hentries.exists_of_respelled h (.inl rfl)
  have hrel : Option.Rel (Respelled tag []) ((insertAll [] entries).get? word)
      ((insertAll [] entries').get? word) := rel_get?_insertAll hword hsame .none
  rw [← hentries.ofText_eq, ← hentries'.ofText_eq] at hrel
  generalize (ofText text).get? word = found, (ofText made).get? word = found' at hrel
  cases hrel with
  | none => rfl
  | some hread => rw [Option.some.injEq, Option.some.injEq, eq_value_iff_of_respelled hvalue hread]

end Attributes

theorem atWordEnd_of_map_foldCase (h : text.map foldCase = made.map foldCase)
    (hend : Text.atWordEnd text = true) : Text.atWordEnd made = true := by
  cases text with
  | nil =>
    rw [List.map_eq_nil_iff.mp h.symm]
    rfl
  | cons c text =>
    obtain ⟨d, made, rfl, hd, -⟩ := List.map_eq_cons_iff.mp h.symm
    rw [Text.atWordEnd, ← Text.isWord_foldCase] at hend ⊢
    rwa [hd]

theorem unclosed_of_map_foldCase (h : text.map foldCase = made.map foldCase)
    (hunclosed : Unclosed tag text) : Unclosed tag made := by
  rintro back ⟨front, rfl⟩
  rw [List.map_append] at h
  obtain ⟨front', back', rfl, -, hback⟩ := List.map_eq_append_iff.mp h
  cases hafter : afterClosing? tag back with
  | none => rfl
  | some after =>
    obtain ⟨closing, rfl, hclosing⟩ := afterClosing?_eq_some_iff.mp hafter
    rw [List.map_append] at hback
    obtain ⟨closing', after', rfl, hclosing', -⟩ := List.map_eq_append_iff.mp hback
    have hnone := hunclosed _ (List.suffix_append ..)
    rw [afterClosing?_eq_some_iff.mpr ⟨closing', rfl, hclosing'.trans hclosing⟩] at hnone
    cases hnone

namespace Block

variable {block block' : Block} {after : Text}

/-- The parts of two blocks are the same up to case. -/
structure SameUpToCase (block block' : Block) : Prop where
  opening : block.opening.map foldCase = block'.opening.map foldCase
  attributes : block.attributes.map foldCase = block'.attributes.map foldCase
  body : block.body.map foldCase = block'.body.map foldCase
  closing : block.closing.map foldCase = block'.closing.map foldCase

theorem IsWritten.of_sameUpToCase (h : block.IsWritten tag) (hsame : block.SameUpToCase block') :
    block'.IsWritten tag where
  opening := hsame.opening.symm.trans h.opening
  atWordEnd := atWordEnd_of_map_foldCase
    (by rw [List.map_append, List.map_append, hsame.attributes]) h.atWordEnd
  attributes hmem :=
    h.attributes (Text.mem_of_map_foldCase (by decide) (by decide) hsame.attributes hmem)
  body := unclosed_of_map_foldCase hsame.body h.body
  closing := hsame.closing.symm.trans h.closing

theorem exists_of_map_foldCase (hwritten : block.IsWritten tag)
    (h : text.map foldCase = (block.text ++ after).map foldCase) :
    ∃ block' after', text = Block.text block' ++ after' ∧ block'.IsWritten tag := by
  simp only [text_append, List.map_append, List.map_cons] at h
  obtain ⟨opening, rest, rfl, hopening, h⟩ := List.map_eq_append_iff.mp h
  obtain ⟨attributes, rest, rfl, hattributes, h⟩ := List.map_eq_append_iff.mp h
  obtain ⟨mark, rest, rfl, hmark, h⟩ := List.map_eq_cons_iff.mp h
  obtain ⟨body, rest, rfl, hbody, h⟩ := List.map_eq_append_iff.mp h
  obtain ⟨closing, after', rfl, hclosing, -⟩ := List.map_eq_append_iff.mp h
  obtain rfl := Text.eq_of_foldCase_eq (hmark.trans (by decide : foldCase '>' = '>')) (by decide)
  exact ⟨⟨opening, attributes, body, closing⟩, after', (text_append ⟨_, _, _, _⟩ after').symm,
    hwritten.of_sameUpToCase ⟨hopening.symm, hattributes.symm, hbody.symm, hclosing.symm⟩⟩

theorem ofText?_eq_none_of_map_foldCase (h : text.map foldCase = made.map foldCase)
    (hnone : ofText? tag text = none) : ofText? tag made = none := by
  cases hmade : ofText? tag made with
  | none => rfl
  | some found =>
    obtain ⟨hwritten, hsplit⟩ := ofText?_eq_some_iff.mp hmade
    obtain ⟨block, after, rfl, hblock⟩ := exists_of_map_foldCase hwritten (hsplit ▸ h)
    rw [ofText?_eq_some_iff.mpr ⟨hblock, rfl⟩] at hnone
    cases hnone

end Block

/-- Behind the opening tag of a style there are no letters of that of a script. -/
theorem lettersAfter_style {opening : Text} (h : opening.map foldCase = '<' :: Tag.style.name) :
    lettersAfter .script letters opening = [] := by
  have hname : lettersAfter .script Tag.script.name Tag.style.name = [] := by decide
  rw [← lettersAfter_map_foldCase, h, lettersAfter, List.foldl_cons, lettersBehind, if_pos (.inl rfl)]
  exact hname

/-- Where the scripts of a text are respelled, its styles stand in the same places, and their attributes are
respelled where no letter of the tag stands in front. -/
theorem Splits.exists_of_respelled {ps : List Piece} (h : Splits .style text ps)
    (hrespelled : Respelled .script letters text made) :
    ∃ ps', Splits .style made ps' ∧ ∀ block' ∈ blocks ps', ∃ block ∈ blocks ps,
      Respelled .script [] block.attributes block'.attributes := by
  induction h generalizing letters made with
  | nil =>
    cases hrespelled
    exact ⟨[], .nil, nofun⟩
  | @block block after ps hwritten _ ih =>
    rw [Block.text_append] at hrespelled
    obtain ⟨opening, rest, rfl, hopening, hrest⟩ := hrespelled.exists_of_append
    obtain ⟨attributes, rest, rfl, hattributes, hrest⟩ := hrest.exists_of_append
    rw [lettersAfter_style hwritten.opening] at hattributes
    cases hrest with
    | @cons _ _ rest _ mark hmark hcontent =>
      obtain rfl : mark = '>' := hmark.elim id fun h => h.1 ▸ by decide
      obtain ⟨body, rest, rfl, hbody, hrest⟩ := hcontent.exists_of_append
      obtain ⟨closing, behind, rfl, hclosing, hbehind⟩ := hrest.exists_of_append
      obtain ⟨ps', hsplits, hblocks⟩ := ih hbehind
      have hmade : Block.IsWritten .style ⟨opening, attributes, body, closing⟩ :=
        hwritten.of_sameUpToCase ⟨hopening.map_foldCase_eq, hattributes.map_foldCase_eq,
          hbody.map_foldCase_eq, hclosing.map_foldCase_eq⟩
      have hsplit := Splits.block hmade hsplits
      rw [Block.text_append] at hsplit
      refine ⟨_, hsplit, fun block' hblock' => ?_⟩
      rcases List.mem_cons.mp hblock' with rfl | hmem
      · exact ⟨block, List.mem_cons_self, hattributes⟩
      · obtain ⟨found, hfound, hrespelled⟩ := hblocks block' hmem
        exact ⟨found, List.mem_cons_of_mem _ hfound, hrespelled⟩
  | @outside c text ps hnone _ ih =>
    have hfold := hrespelled.map_foldCase_eq
    cases hrespelled with
    | @cons _ _ made _ d _ hrest =>
      obtain ⟨ps', hsplits, hblocks⟩ := ih hrest
      refine ⟨consOutside d ps', .outside (Block.ofText?_eq_none_of_map_foldCase hfold hnone) hsplits, ?_⟩
      rwa [blocks_consOutside, blocks_consOutside]

end ComponentBundle.Markup
