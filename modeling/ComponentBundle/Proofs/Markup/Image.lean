import ComponentBundle.Proofs.Markup.Attribute
import ComponentBundle.Proofs.Markup.Concern
import Mathlib.Data.List.Basic
import Mathlib.Data.List.TakeWhile

/-!
# Images without a description

Images are looked for in the text of a component: an opening tag that begins with the name of an image and
goes on with no word, up to the first mark that ends a tag.
-/
namespace ComponentBundle.Markup

open Text (foldCase)

variable {ranges : List (Nat × Nat)} {n place : Nat} {text rest content attributes : Text}
  {found behind : List Nat} {c : Char}

def imageName : Text := "img".toList

/-- The text of a tag is read as one with a description. -/
def Describes (text : Text) : Prop := ((Attributes.ofText text).get? "alt".toList).isSome = true

instance : DecidablePred Describes := fun text =>
  inferInstanceAs (Decidable (((Attributes.ofText text).get? "alt".toList).isSome = true))

def reported (ranges : List (Nat × Nat)) (place : Nat) (attributes : Text) : List Nat :=
  if isInside ranges place = true ∨ Describes attributes then [] else [place]

/-- The ways to look for images in a text, with the places of those that are reported: the tag of an image
is taken up to its end, and any other character is passed over. -/
inductive Shows (ranges : List (Nat × Nat)) : (place : Nat) → Text → List Nat → Prop where
  | nil {place : Nat} : Shows ranges place [] []
  | other {place : Nat} {c : Char} {text : Text} {found : List Nat}
      (none : afterOpening? imageName (c :: text) = none) (rest : Shows ranges (place + 1) text found) :
      Shows ranges place (c :: text) found
  | image {place : Nat} {text attributes content : Text} {found : List Nat}
      (opens : afterOpening? imageName text = some (attributes ++ '>' :: content))
      (ends : '>' ∉ attributes) (rest : Shows ranges (place + 5 + attributes.length) content found) :
      Shows ranges place text (reported ranges place attributes ++ found)
  | unended {place : Nat} {text rest : Text} (opens : afterOpening? imageName text = some rest)
      (ends : '>' ∉ rest) : Shows ranges place text []

theorem exists_eq_append_of_opens (h : afterOpening? imageName text = some rest) :
    ∃ opening, text = opening ++ rest ∧ opening.length = 4 ∧ opening.map foldCase = '<' :: imageName := by
  obtain ⟨opening, htext, hopening, -⟩ := afterOpening?_eq_some_iff.mp h
  exact ⟨opening, htext, Text.length_eq_of_map_foldCase hopening, hopening⟩

theorem Shows.imagesWithoutAlt_eq (h : Shows ranges place text found) (hn : text.length ≤ n) :
    imagesWithoutAlt ranges n place text = found := by
  induction h generalizing n with
  | nil => cases n <;> rfl
  | other hnone _ ih =>
    cases n with
    | zero => cases hn
    | succ n =>
      rw [imagesWithoutAlt, ← imageName]
      simp only [hnone]
      exact ih (Nat.le_of_succ_le_succ hn)
  | @image place text attributes content found hopens hends _ ih =>
    obtain ⟨opening, htext, hlength, -⟩ := exists_eq_append_of_opens hopens
    have hlengths := congrArg List.length htext
    simp only [List.length_append, List.length_cons] at hlengths
    obtain ⟨m, rfl⟩ : ∃ m, n = m + 1 := ⟨n - 1, by omega⟩
    obtain ⟨c, text, rfl⟩ := List.exists_cons_of_ne_nil
      (ne_nil_of_isSome_afterOpening? (Option.isSome_iff_exists.mpr ⟨_, hopens⟩))
    rw [imagesWithoutAlt, ← imageName]
    simp only [hopens, Text.takeWhile_ne_append hends, Text.dropWhile_ne_append hends]
    rw [ih (by omega), reported]
    unfold Describes
    split <;> simp_all
  | @unended place text rest hopens hends =>
    obtain ⟨c, text, rfl⟩ := List.exists_cons_of_ne_nil
      (ne_nil_of_isSome_afterOpening? (Option.isSome_iff_exists.mpr ⟨_, hopens⟩))
    cases n with
    | zero => cases hn
    | succ n =>
      have hdrop : rest.dropWhile (· ≠ '>') = [] := by
        rw [List.dropWhile_eq_nil_iff]
        intro d hd
        simpa using ne_of_mem_of_not_mem hd hends
      rw [imagesWithoutAlt, ← imageName]
      simp only [hopens, hdrop]

theorem exists_shows (ranges : List (Nat × Nat)) (place : Nat) (text : Text) :
    ∃ found, Shows ranges place text found := by
  induction hn : text.length using Nat.strongRecOn generalizing place text with
  | ind n ih =>
    cases text with
    | nil => exact ⟨[], .nil⟩
    | cons c text =>
      cases hopens : afterOpening? imageName (c :: text) with
      | none =>
        obtain ⟨found, hfound⟩ := ih text.length (by simp [← hn]) (place + 1) text rfl
        exact ⟨found, .other hopens hfound⟩
      | some rest =>
        by_cases hends : '>' ∈ rest
        · obtain ⟨attributes, content, rfl, hattributes⟩ := List.eq_append_cons_of_mem hends
          obtain ⟨opening, htext, hlength, -⟩ := exists_eq_append_of_opens hopens
          have hlengths := congrArg List.length htext
          simp only [List.length_append, List.length_cons] at hlengths hn
          obtain ⟨found, hfound⟩ :=
            ih content.length (by omega) (place + 5 + attributes.length) content rfl
          exact ⟨_, .image hopens hattributes hfound⟩
        · exact ⟨[], .unended hopens hends⟩

/-- The places of images without a description in a text, counted on from `place`. -/
def images (ranges : List (Nat × Nat)) (place : Nat) (text : Text) : List Nat :=
  imagesWithoutAlt ranges text.length place text

theorem shows_images (ranges : List (Nat × Nat)) (place : Nat) (text : Text) :
    Shows ranges place text (images ranges place text) := by
  obtain ⟨found, hfound⟩ := exists_shows ranges place text
  rwa [images, hfound.imagesWithoutAlt_eq (Nat.le_refl _)]

theorem Shows.images_eq (h : Shows ranges place text found) : images ranges place text = found :=
  h.imagesWithoutAlt_eq (Nat.le_refl _)

theorem bounds_of_mem_images {m : Nat} (h : m ∈ images ranges place text) :
    place ≤ m ∧ m < place + text.length := by
  obtain ⟨front, rest, attributes, content, rfl, rfl, hopens, -⟩ := hasImage_of_mem_imagesWithoutAlt h
  have hrest := length_lt_of_isSome_afterOpening? (Option.isSome_iff_exists.mpr ⟨_, hopens⟩)
  rw [List.length_append]
  omega

/-- In a text that ends with a tag, the tag that is opened in front ends. -/
theorem mark_mem_of_opens (h : afterOpening? imageName text = some rest)
    (hlast : ∀ d ∈ text.getLast?, d = '>') : '>' ∈ rest := by
  obtain ⟨opening, rfl, -, hopening⟩ := exists_eq_append_of_opens h
  cases rest with
  | nil =>
    have hne : opening ≠ [] := fun hnil => by simp [hnil] at hopening
    have hmem : '>' ∈ opening := by
      rw [← hlast _ (by rw [List.append_nil, List.getLast?_eq_some_getLast hne]; rfl)]
      exact List.getLast_mem hne
    have hfold : foldCase '>' ∈ '<' :: imageName := hopening ▸ List.mem_map_of_mem hmem
    exact absurd hfold (by decide)
  | cons d rest =>
    have hne : d :: rest ≠ [] := List.cons_ne_nil d rest
    rw [← hlast _ (by rw [List.getLast?_append_of_ne_nil _ hne, List.getLast?_eq_some_getLast hne]; rfl)]
    exact List.getLast_mem hne

theorem afterOpening?_append_of_getLast? (htext : text ≠ []) (hlast : ∀ d ∈ text.getLast?, d = '>')
    (rest : Text) :
    afterOpening? imageName (text ++ rest) = (afterOpening? imageName text).map (· ++ rest) := by
  cases hopens : afterOpening? imageName text with
  | some after =>
    obtain ⟨opening, hsplit, hopening, hend⟩ := afterOpening?_eq_some_iff.mp hopens
    obtain ⟨d, after, rfl⟩ :=
      List.exists_cons_of_ne_nil (List.ne_nil_of_mem (mark_mem_of_opens hopens hlast))
    exact afterOpening?_eq_some_iff.mpr ⟨opening, by rw [hsplit, List.append_assoc], hopening, hend⟩
  | none =>
    cases hbehind : afterOpening? imageName (text ++ rest) with
    | none => rfl
    | some after =>
      obtain ⟨opening, hsplit, hopening, hend⟩ := afterOpening?_eq_some_iff.mp hbehind
      obtain ⟨front, rfl⟩ : ∃ front, text = front ++ ['>'] :=
        ⟨text.dropLast, by rw [← hlast _ (List.getLast?_eq_some_getLast htext),
          List.dropLast_concat_getLast]⟩
      have hfront : front ≠ [] := by
        rintro rfl
        obtain ⟨more, rfl⟩ := exists_of_map_foldCase hopening
        exact absurd (List.cons.inj hsplit).1 (by decide)
      -- The name of a tag does not go on across a mark.
      have hbegins : opening <+: front := by
        rw [List.append_assoc] at hsplit
        exact Text.prefix_of_map_foldCase hopening (by decide) hsplit.symm hfront
      have hsome := isSome_afterOpening?_of_append hopening
        (hbegins.trans (List.prefix_append front ['>'])) hsplit hend
      rw [hopens] at hsome
      cases hsome

/-- Behind the end of a tag the search begins anew. -/
theorem Shows.append (h : Shows ranges place text found) (hlast : ∀ d ∈ text.getLast?, d = '>')
    (hrest : Shows ranges (place + text.length) rest behind) :
    Shows ranges place (text ++ rest) (found ++ behind) := by
  induction h with
  | nil => exact hrest
  | @other place c text found hnone _ ih =>
    have hopens := afterOpening?_append_of_getLast? (List.cons_ne_nil c text) hlast rest
    rw [hnone] at hopens
    have hbehind : ∀ d ∈ text.getLast?, d = '>' := by
      cases text with
      | nil => simp
      | cons d text => simpa [List.getLast?_cons_cons] using hlast
    refine .other hopens (ih hbehind ?_)
    rwa [Nat.add_assoc, Nat.add_comm 1]
  | @image place text attributes content found hopens hends _ ih =>
    obtain ⟨opening, rfl, hlength, -⟩ := exists_eq_append_of_opens hopens
    have hafter := afterOpening?_append_of_getLast?
      (ne_nil_of_isSome_afterOpening? (Option.isSome_iff_exists.mpr ⟨_, hopens⟩)) hlast rest
    rw [hopens, Option.map_some, List.append_assoc attributes, List.cons_append] at hafter
    have hcontent : ∀ d ∈ content.getLast?, d = '>' := by
      cases content with
      | nil => simp
      | cons e content =>
        rw [List.append_cons attributes, ← List.append_assoc,
          List.getLast?_append_of_ne_nil _ (List.cons_ne_nil e content)] at hlast
        exact hlast
    rw [List.append_assoc (reported ranges place attributes)]
    refine .image hafter hends (ih hcontent ?_)
    simp only [List.length_append, List.length_cons, hlength] at hrest
    have hplace : place + (4 + (attributes.length + (content.length + 1))) =
        place + 5 + attributes.length + content.length := by omega
    rwa [hplace] at hrest
  | unended hopens hends => exact absurd (mark_mem_of_opens hopens hlast) hends

/-- In a text that opens no tag there is nothing to be found. -/
theorem Shows.text_append (htext : '<' ∉ text) (h : Shows ranges (place + text.length) rest found) :
    Shows ranges place (text ++ rest) found := by
  induction text generalizing place with
  | nil => exact h
  | cons c text ih =>
    obtain ⟨hc, htext⟩ := List.ne_and_not_mem_of_not_mem_cons htext
    have hnone : afterOpening? imageName (c :: (text ++ rest)) = none := by
      cases hopens : afterOpening? imageName (c :: (text ++ rest)) with
      | none => rfl
      | some after =>
        exact absurd (eq_of_isSome_afterOpening?_cons (Option.isSome_iff_exists.mpr ⟨_, hopens⟩)).symm hc
    refine .other hnone (ih htext ?_)
    rwa [Nat.add_assoc, Nat.add_comm 1]

end ComponentBundle.Markup
