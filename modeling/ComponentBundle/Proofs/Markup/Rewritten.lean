import ComponentBundle.Proofs.Markup.Splitting
import ComponentBundle.Proofs.Text.Place

/-!
# What a pass makes of a text

A pass over the blocks of a tag keeps what is outside them, keeps their tags up to case, and puts new
bodies in. So a text and what is made of it are in step, passage by passage. Each place that is not within
a new body comes from a place of the text, and the two have the same position if the bodies in front keep
their number of lines and the length of their last line.
-/
namespace ComponentBundle.Pipeline

open Markup
open Text (foldCase)

structure Passage where
  written : Text
  made : Text

/-- The passage changes in nothing but case. -/
def Passage.IsKept (passage : Passage) : Prop :=
  passage.written.map foldCase = passage.made.map foldCase

/-- The text that the passages are of. -/
def written (passages : List Passage) : Text := passages.flatMap (·.written)

def made (passages : List Passage) : Text := passages.flatMap (·.made)

/-- What a pass makes of pieces: each block gets the body that the hooks make of its own. -/
inductive Rewrites (tag : Tag) (hooks : Attributes → List (Text → Rewriting)) :
    List Piece → List Passage → Prop where
  | nil : Rewrites tag hooks [] []
  | outside {text : Text} {ps : List Piece} {passages : List Passage}
      (rest : Rewrites tag hooks ps passages) :
      Rewrites tag hooks (.outside text :: ps) (⟨text, text⟩ :: passages)
  | block {found : Block} {body : Text} {ps : List Piece} {passages : List Passage}
      (chain : chain (hooks (Attributes.ofText found.attributes)) found.body = .ok body)
      (rest : Rewrites tag hooks ps passages) :
      Rewrites tag hooks (.block found :: ps)
        (⟨found.opening ++ found.attributes ++ ['>'], '<' :: tag.name ++ found.attributes ++ ['>']⟩ ::
          ⟨found.body, body⟩ :: ⟨found.closing, closingWord tag⟩ :: passages)

variable {tag : Tag} {hooks : Attributes → List (Text → Rewriting)} {ps : List Piece}
  {passages : List Passage} {passage : Passage} {before text front front' : Text}

theorem Rewrites.written_eq (h : Rewrites tag hooks ps passages) :
    written passages = ps.flatMap Piece.text := by
  induction h with
  | nil => rfl
  | outside _ ih => exact congrArg _ ih
  | @block found body ps passages _ _ ih =>
    rw [List.flatMap_cons, ← ih]
    simp [written, Piece.text, Block.text]

theorem exists_rewrites (h : rewriteAfter tag hooks before ps = .ok text) :
    ∃ passages, Rewrites tag hooks ps passages ∧ text = made passages := by
  induction ps generalizing before text with
  | nil => exact ⟨[], .nil, (Except.ok.inj h).symm⟩
  | cons piece ps ih =>
    cases piece with
    | outside front =>
      rw [rewriteAfter] at h
      cases hrest : rewriteAfter tag hooks (before ++ front) ps with
      | error failure =>
        rw [hrest] at h
        cases h
      | ok rest =>
        rw [hrest] at h
        obtain ⟨passages, hpassages, rfl⟩ := ih hrest
        exact ⟨_, .outside hpassages, (Except.ok.inj h).symm⟩
    | block found =>
      rw [rewriteAfter] at h
      split at h
      · cases h
      · rename_i body hbody
        cases hrest : rewriteAfter tag hooks (before ++ found.text) ps with
        | error failure =>
          rw [hrest] at h
          cases h
        | ok rest =>
          rw [hrest] at h
          obtain ⟨passages, hpassages, rfl⟩ := ih hrest
          refine ⟨_, .block hbody hpassages, (Except.ok.inj h).symm.trans ?_⟩
          simp [made, render, closingWord]

/-- A pass fails where the hooks fail on a body, and the failure is moved to the place of the body. -/
theorem exists_chain_error {failure : PreprocessFailure}
    (h : rewriteAfter tag hooks before ps = .error failure) :
    ∃ place found inner, (place, found) ∈ blocksAfter before ps ∧
      chain (hooks (Attributes.ofText found.attributes)) found.body = .error inner ∧
      failure = moveFailure (place ++ found.opening ++ found.attributes ++ ['>']) inner := by
  induction ps generalizing before with
  | nil => cases h
  | cons piece ps ih =>
    cases piece with
    | outside front =>
      rw [rewriteAfter] at h
      cases hrest : rewriteAfter tag hooks (before ++ front) ps with
      | error failure =>
        rw [hrest] at h
        obtain rfl := Except.error.inj h
        exact ih hrest
      | ok rest =>
        rw [hrest] at h
        cases h
    | block found =>
      rw [rewriteAfter] at h
      split at h
      · rename_i inner hinner
        exact ⟨before, found, inner, List.mem_cons_self, hinner, (Except.error.inj h).symm⟩
      · cases hrest : rewriteAfter tag hooks (before ++ found.text) ps with
        | error failure =>
          rw [hrest] at h
          obtain rfl := Except.error.inj h
          obtain ⟨place, block, inner, hmem, hfailed⟩ := ih hrest
          exact ⟨place, block, inner, List.mem_cons_of_mem _ hmem, hfailed⟩
        | ok rest =>
          rw [hrest] at h
          cases h

/-- A pass stops at the first body on which the hooks fail. -/
theorem rewriteAfter_eq_error {place : Text} {block : Block} {earlier later : List (Text × Block)}
    {inner : PreprocessFailure}
    (hblocks : blocksAfter before ps = earlier ++ (place, block) :: later)
    (hearlier : ∀ other ∈ earlier, ∃ body,
      chain (hooks (Attributes.ofText other.2.attributes)) other.2.body = .ok body)
    (hfails : chain (hooks (Attributes.ofText block.attributes)) block.body = .error inner) :
    rewriteAfter tag hooks before ps =
      .error (moveFailure (place ++ block.opening ++ block.attributes ++ ['>']) inner) := by
  induction ps generalizing before earlier with
  | nil => simp [blocksAfter] at hblocks
  | cons piece ps ih =>
    cases piece with
    | outside text =>
      rw [rewriteAfter, ih hblocks hearlier]
      rfl
    | block found =>
      rw [blocksAfter] at hblocks
      cases earlier with
      | nil =>
        obtain ⟨heq, -⟩ := List.cons.inj hblocks
        obtain ⟨rfl, rfl⟩ := Prod.mk.inj heq
        rw [rewriteAfter, hfails]
      | cons other earlier =>
        obtain ⟨rfl, hrest⟩ := List.cons.inj hblocks
        obtain ⟨⟨body, hbody⟩, hearlier⟩ := List.forall_mem_cons.mp hearlier
        rw [rewriteAfter, hbody, ih hrest hearlier]
        rfl

/-- The place behind `front` in the text becomes the place behind `front'` in what is made: it is between
two passages, or within one that is kept. -/
inductive Carries : List Passage → (front front' : Text) → Prop where
  | between {passages : List Passage} : Carries passages [] []
  | within {passage : Passage} {passages : List Passage} {front front' : Text} (kept : passage.IsKept)
      (written : front <+: passage.written) (made : front' <+: passage.made)
      (length : front.length = front'.length) : Carries (passage :: passages) front front'
  | later {passage : Passage} {passages : List Passage} {front front' : Text}
      (rest : Carries passages front front') :
      Carries (passage :: passages) (passage.written ++ front) (passage.made ++ front')

/-- The place behind `front'` in what is made is within a passage that is not kept. -/
inductive Strays : List Passage → (front' : Text) → Prop where
  | within {passage : Passage} {passages : List Passage} {front' : Text} (changed : ¬passage.IsKept)
      (made : front' <+: passage.made) (ne_nil : front' ≠ []) (ne_made : front' ≠ passage.made) :
      Strays (passage :: passages) front'
  | later {passage : Passage} {passages : List Passage} {front' : Text} (rest : Strays passages front') :
      Strays (passage :: passages) (passage.made ++ front')

theorem Carries.prefix_written (h : Carries passages front front') : front <+: written passages := by
  induction h with
  | between => exact List.nil_prefix
  | within _ hwritten _ _ => exact hwritten.trans (List.prefix_append ..)
  | later _ ih => exact (List.prefix_append_right_inj _).mpr ih

/-- Each place of what is made comes from a place of the text, or it is within a new body. -/
theorem carries_or_strays (h : front' <+: made passages) :
    (∃ front, Carries passages front front') ∨ Strays passages front' := by
  induction passages generalizing front' with
  | nil =>
    obtain rfl := List.prefix_nil.mp h
    exact .inl ⟨[], .between⟩
  | cons passage passages ih =>
    obtain ⟨rest, hsplit⟩ := h
    rw [made, List.flatMap_cons] at hsplit
    rcases List.append_eq_append_iff.mp hsplit with ⟨beyond, hmade, -⟩ | ⟨beyond, hfront, hrest⟩
    · by_cases hkept : passage.IsKept
      · have hlength : front'.length ≤ passage.written.length := by
          have hlengths := congrArg List.length hkept
          simp only [List.length_map, hmade, List.length_append] at hlengths
          omega
        exact .inl ⟨passage.written.take front'.length, .within hkept (List.take_prefix ..)
          ⟨beyond, hmade.symm⟩ (List.length_take_of_le hlength)⟩
      -- The ends of a new body come from the ends of the old one.
      · by_cases hfirst : front' = []
        · exact .inl ⟨[], by rw [hfirst]; exact .between⟩
        · by_cases hlast : front' = passage.made
          · refine .inl ⟨passage.written ++ [], ?_⟩
            rw [hlast, ← List.append_nil passage.made]
            exact .later .between
          · exact .inr (.within hkept ⟨beyond, hmade.symm⟩ hfirst hlast)
    · subst hfront
      rcases ih ⟨rest, hrest.symm⟩ with ⟨front, hfront⟩ | hstrays
      · exact .inl ⟨passage.written ++ front, .later hfront⟩
      · exact .inr (.later hstrays)

theorem Strays.exists_not_isKept (h : Strays passages front') : ∃ passage ∈ passages, ¬passage.IsKept := by
  induction h with
  | within hchanged _ _ _ => exact ⟨_, List.mem_cons_self, hchanged⟩
  | later _ ih =>
    obtain ⟨passage, hmem, hchanged⟩ := ih
    exact ⟨passage, List.mem_cons_of_mem _ hmem, hchanged⟩

/-- A place keeps its position if the passages in front of it keep their shape. -/
theorem Carries.after_eq (h : Carries passages front front')
    (hshape : ∀ passage ∈ passages, Position.after passage.made = Position.after passage.written) :
    Position.after front' = Position.after front := by
  induction h with
  | between => rfl
  | within hkept hwritten hmade hlength =>
    have hfront := hwritten.map foldCase
    rw [hkept] at hfront
    have hbegins := List.prefix_of_prefix_length_le (hmade.map foldCase) hfront (by simp [hlength])
    exact Position.after_eq_of_map_foldCase_eq (hbegins.eq_of_length (by simp [hlength]))
  | later _ ih =>
    obtain ⟨hpassage, hpassages⟩ := List.forall_mem_cons.mp hshape
    rw [Position.after_append, Position.after_append, hpassage, ih hpassages]

end ComponentBundle.Pipeline
