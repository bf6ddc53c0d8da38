import ComponentBundle.Markup.Component
import ComponentBundle.Proofs.Markup.Tag
import ComponentBundle.Proofs.Text.Pieces

/-!
# How a component splits

A text splits into the blocks of a tag and the stretches between them. Read off the way in which the pieces
are found: which texts are blocks, that splitting loses nothing, that between two stretches there is a
block, and that a component passes the check for closing tags exactly if no stretch opens the tag.
-/
namespace ComponentBundle.Markup

open Text (foldCase)

variable {tag : Tag} {name text front rest after : Text} {block : Block} {c : Char}

namespace Block

/-- The block is one of the tag: its parts are what they are said to be, and its body ends where the first
closing tag is. -/
structure IsWritten (tag : Tag) (block : Block) : Prop where
  opening : block.opening.map foldCase = '<' :: tag.name
  atWordEnd : Text.atWordEnd (block.attributes ++ ['>']) = true
  attributes : '>' ∉ block.attributes
  body : Unclosed tag block.body
  closing : block.closing.map foldCase = closingWord tag

theorem text_append (block : Block) (after : Text) : block.text ++ after =
    block.opening ++ (block.attributes ++ '>' :: (block.body ++ (block.closing ++ after))) := by
  simp [text]

theorem atWordEnd_attributes (attributes rest : Text) :
    Text.atWordEnd (attributes ++ '>' :: rest) = Text.atWordEnd (attributes ++ ['>']) := by
  cases attributes <;> rfl

theorem ofText?_eq_some_iff : ofText? tag text = some (block, after) ↔
    block.IsWritten tag ∧ text = block.text ++ after := by
  constructor
  · intro h
    simp only [ofText?, Option.bind_eq_bind, Option.bind_eq_some_iff] at h
    obtain ⟨rest, hrest, h⟩ := h
    obtain ⟨opening, rfl, hopening, hend⟩ := afterOpening?_eq_some_iff.mp hrest
    split at h
    · cases h
    · rename_i mark content hcontent
      obtain ⟨hsplit, hattributes⟩ := Text.eq_append_of_dropWhile_ne hcontent
      obtain ⟨⟨body, found⟩, hbody, heq⟩ := Option.bind_eq_some_iff.mp h
      obtain ⟨closing, rfl, hclosing, hunclosed⟩ := untilClosing?_eq_some_iff.mp hbody
      have hopeningLength : opening.length = tag.name.length + 1 :=
        Text.length_eq_of_map_foldCase hopening
      have hclosingLength : closing.length = tag.name.length + 3 :=
        (Text.length_eq_of_map_foldCase hclosing).trans (length_closingWord tag)
      obtain ⟨rfl, rfl⟩ : ⟨opening, rest.takeWhile (· ≠ '>'), body, closing⟩ = block ∧
          found = after := by
        simpa [← hopeningLength, ← hclosingLength] using heq
      rw [hsplit, atWordEnd_attributes] at hend
      exact ⟨⟨hopening, hend, hattributes, hunclosed, hclosing⟩, by rw [text_append, ← hsplit]⟩
  · rintro ⟨hblock, rfl⟩
    have hopeningLength : block.opening.length = tag.name.length + 1 :=
      Text.length_eq_of_map_foldCase hblock.opening
    have hclosingLength : block.closing.length = tag.name.length + 3 :=
      (Text.length_eq_of_map_foldCase hblock.closing).trans (length_closingWord tag)
    have hopening : afterOpening? tag.name (block.text ++ after) =
        some (block.attributes ++ '>' :: (block.body ++ (block.closing ++ after))) :=
      afterOpening?_eq_some_iff.mpr ⟨block.opening, text_append .., hblock.opening,
        (atWordEnd_attributes ..).trans hblock.atWordEnd⟩
    have hbody : untilClosing? tag (block.body ++ (block.closing ++ after)) =
        some (block.body, after) :=
      untilClosing?_eq_some_iff.mpr ⟨block.closing, rfl, hblock.closing, hblock.body⟩
    rw [ofText?, hopening, text_append]
    simp only [Option.bind_eq_bind, Option.bind_some, Text.takeWhile_ne_append hblock.attributes,
      Text.dropWhile_ne_append hblock.attributes, hbody]
    simp [← hopeningLength, ← hclosingLength]

theorem ofText?_eq_none (h : (afterOpening? tag.name text).isSome = false) :
    ofText? tag text = none := by
  rw [Option.isSome_eq_false_iff, Option.isNone_iff_eq_none] at h
  rw [ofText?, h]
  rfl

/-- Where a tag opens in front of a block, a block begins. -/
theorem isSome_ofText?_of_suffix (hopens : afterOpening? tag.name text = some rest)
    (hblock : block.IsWritten tag) (hsuffix : block.text ++ after <:+ rest) :
    (ofText? tag text).isSome := by
  obtain ⟨beyond, rfl⟩ := hsuffix
  obtain ⟨content, hcontent, hclosing⟩ : ∃ content,
      (beyond ++ (block.text ++ after)).dropWhile (· ≠ '>') = '>' :: content ∧
        block.closing ++ after <:+ content := by
    rw [text_append, ← List.append_assoc, ← List.append_assoc]
    -- The opening tag ends in front of the body of the block, wherever that is.
    by_cases hmem : '>' ∈ beyond ++ block.opening ++ block.attributes
    · obtain ⟨front, back, hsplit, hfront⟩ := List.eq_append_cons_of_mem hmem
      rw [hsplit, List.append_assoc, List.cons_append, Text.dropWhile_ne_append hfront]
      exact ⟨_, rfl, back ++ '>' :: block.body, by simp⟩
    · rw [Text.dropWhile_ne_append hmem]
      exact ⟨_, rfl, block.body, rfl⟩
  cases huntil : untilClosing? tag content with
  | none =>
    have hnone := untilClosing?_eq_none_iff.mp huntil _ hclosing
    rw [afterClosing?_eq_some_iff.mpr ⟨_, rfl, hblock.closing⟩] at hnone
    cases hnone
  | some found =>
    rw [ofText?, hopens]
    simp only [Option.bind_eq_bind, Option.bind_some, hcontent, huntil, Option.isSome_some]

theorem IsWritten.exists_text_eq (h : block.IsWritten tag) :
    ∃ inner, block.text = '<' :: inner := by
  obtain ⟨more, hmore⟩ := exists_of_map_foldCase h.opening
  exact ⟨_, by rw [text, hmore]; rfl⟩

end Block

/-- The ways in which a text splits: a block is taken where one begins, and a character elsewhere. -/
inductive Splits (tag : Tag) : Text → List Piece → Prop where
  | nil : Splits tag [] []
  | block {block : Block} {after : Text} {ps : List Piece} (written : block.IsWritten tag)
      (rest : Splits tag after ps) : Splits tag (block.text ++ after) (.block block :: ps)
  | outside {c : Char} {text : Text} {ps : List Piece}
      (none : Block.ofText? tag (c :: text) = none) (rest : Splits tag text ps) :
      Splits tag (c :: text) (consOutside c ps)

private theorem splits_piecesUpTo {n : Nat} (h : text.length ≤ n) :
    Splits tag text (piecesUpTo tag n text) := by
  induction n generalizing text with
  | zero =>
    obtain rfl := List.length_eq_zero_iff.mp (Nat.le_zero.mp h)
    exact .nil
  | succ n ih =>
    cases text with
    | nil => exact .nil
    | cons c rest =>
      rw [piecesUpTo]
      split
      · rename_i found after hfound
        obtain ⟨hwritten, htext⟩ := Block.ofText?_eq_some_iff.mp hfound
        obtain ⟨inner, hinner⟩ := hwritten.exists_text_eq
        have hlength : after.length ≤ n := by
          have hlengths := congrArg List.length htext
          rw [hinner] at hlengths
          simp at h hlengths
          omega
        rw [htext]
        exact .block hwritten (ih hlength)
      · rename_i hnone
        exact .outside hnone (ih (Nat.le_of_succ_le_succ h))

theorem Splits.piecesUpTo_eq {n : Nat} {ps : List Piece} (h : Splits tag text ps)
    (hn : text.length ≤ n) : piecesUpTo tag n text = ps := by
  induction h generalizing n with
  | nil => cases n <;> rfl
  | @block block after ps hwritten _ ih =>
    obtain ⟨inner, hinner⟩ := hwritten.exists_text_eq
    have hfound : Block.ofText? tag ('<' :: (inner ++ after)) = some (block, after) :=
      Block.ofText?_eq_some_iff.mpr ⟨hwritten, by simp [hinner]⟩
    rw [hinner, List.cons_append] at hn ⊢
    cases n with
    | zero => cases hn
    | succ n =>
      have hafter : after.length ≤ n := by
        simp only [List.length_cons, List.length_append] at hn
        omega
      rw [piecesUpTo, hfound]
      exact congrArg _ (ih hafter)
  | outside hnone _ ih =>
    cases n with
    | zero => cases hn
    | succ n =>
      rw [piecesUpTo, hnone]
      exact congrArg (consOutside _) (ih (Nat.le_of_succ_le_succ hn))

/-- A text splits in one way only, the one that is found. -/
theorem splits_iff {ps : List Piece} : Splits tag text ps ↔ pieces tag text = ps :=
  ⟨fun h => h.piecesUpTo_eq (Nat.le_refl _), fun h => h ▸ splits_piecesUpTo (Nat.le_refl _)⟩

/-- The texts outside all blocks, in order. -/
def stretches (ps : List Piece) : List Text :=
  ps.filterMap fun
    | .outside text => some text
    | .block _ => none

/-- The stretch that comes first, if one does. -/
def leading : List Piece → Text
  | .outside text :: _ => text
  | _ => []

def afterLeading : List Piece → List Piece
  | .outside _ :: ps => ps
  | ps => ps

variable {ps : List Piece}

theorem outside_eq_flatten (ps : List Piece) : outside ps = (stretches ps).flatten := by
  induction ps with
  | nil => rfl
  | cons piece ps ih => cases piece <;> simp_all [outside, stretches]

theorem consOutside_eq (c : Char) (ps : List Piece) :
    consOutside c ps = .outside (c :: leading ps) :: afterLeading ps := by
  cases ps with
  | nil => rfl
  | cons piece ps => cases piece <;> rfl

theorem flatMap_text_consOutside (c : Char) (ps : List Piece) :
    (consOutside c ps).flatMap Piece.text = c :: ps.flatMap Piece.text := by
  cases ps with
  | nil => rfl
  | cons piece ps => cases piece <;> rfl

/-- Splitting loses nothing. -/
theorem Splits.text_eq (h : Splits tag text ps) : ps.flatMap Piece.text = text := by
  induction h with
  | nil => rfl
  | block _ _ ih => rw [List.flatMap_cons, ih, Piece.text]
  | outside _ _ ih => rw [flatMap_text_consOutside, ih]

theorem flatMap_text_pieces (tag : Tag) (text : Text) :
    (pieces tag text).flatMap Piece.text = text :=
  Splits.text_eq (splits_iff.mpr rfl)

/-- Behind the first stretch there is a block or nothing. -/
theorem Splits.leading_cases (h : Splits tag text ps) :
    afterLeading ps = [] ∧ text = leading ps ∨
      ∃ block : Block, ∃ after, block.IsWritten tag ∧ text = leading ps ++ (block.text ++ after) := by
  induction h with
  | nil => exact .inl ⟨rfl, rfl⟩
  | @block block after ps hwritten _ _ => exact .inr ⟨block, after, hwritten, rfl⟩
  | @outside c text ps _ _ ih =>
    rw [consOutside_eq]
    rcases ih with ⟨hps, htext⟩ | ⟨block, after, hwritten, htext⟩
    · exact .inl ⟨hps, congrArg (c :: ·) htext⟩
    · exact .inr ⟨block, after, hwritten, congrArg (c :: ·) htext⟩

theorem Splits.exists_eq_leading_append (h : Splits tag text ps) :
    ∃ behind, text = leading ps ++ behind ∧ ∀ c ∈ behind.head?, c = '<' := by
  rcases h.leading_cases with ⟨-, htext⟩ | ⟨block, after, hwritten, htext⟩
  · exact ⟨[], by rw [List.append_nil, ← htext], nofun⟩
  · obtain ⟨inner, hinner⟩ := hwritten.exists_text_eq
    exact ⟨block.text ++ after, htext, by simp [hinner]⟩

/-- Whether a tag opens at a place of a stretch is seen in the stretch. -/
theorem Splits.isSome_afterOpening?_cons (h : Splits tag text ps) (c : Char) (other : Tag) :
    (afterOpening? other.name (c :: text)).isSome =
      (afterOpening? other.name (c :: leading ps)).isSome := by
  obtain ⟨behind, rfl, hmark⟩ := h.exists_eq_leading_append
  exact isSome_afterOpening?_append (List.cons_ne_nil c (leading ps)) fun d hd =>
    hmark d hd ▸ bracket_notMem_name other

theorem forall_stretches_iff : (∀ stretch ∈ stretches ps, ¬Opens name stretch) ↔
    ¬Opens name (leading ps) ∧ ∀ stretch ∈ stretches (afterLeading ps), ¬Opens name stretch := by
  cases ps with
  | nil => simp [stretches, leading, afterLeading, not_opens_nil]
  | cons piece ps => cases piece <;> simp [stretches, leading, afterLeading, not_opens_nil]

variable {before : Text} {ranges : List (Nat × Nat)} {place : Nat}

theorem blocksAfter_consOutside (before : Text) (c : Char) (ps : List Piece) :
    blocksAfter before (consOutside c ps) = blocksAfter (before ++ [c]) ps := by
  cases ps with
  | nil => rfl
  | cons piece ps => cases piece <;> simp [consOutside, blocksAfter]

theorem prefix_of_mem_blocksAfter {place : Text} (h : (place, block) ∈ blocksAfter before ps) :
    place ++ block.text <+: before ++ ps.flatMap Piece.text := by
  induction ps generalizing before with
  | nil => cases h
  | cons piece ps ih =>
    cases piece with
    | outside text =>
      have hrest := ih h
      rwa [List.append_assoc] at hrest
    | block found =>
      rcases List.mem_cons.mp h with heq | hmem
      · obtain ⟨rfl, rfl⟩ := Prod.mk.inj heq
        exact ⟨ps.flatMap Piece.text, List.append_assoc ..⟩
      · have hrest := ih hmem
        rwa [List.append_assoc] at hrest

theorem isInside_blockRanges_of_lt (h : place < before.length) :
    isInside (blockRanges (blocksAfter before ps)) place = false := by
  induction ps generalizing before with
  | nil => rfl
  | cons piece ps ih =>
    cases piece with
    | outside text => exact ih (by simp; omega)
    | block found =>
      have hrest : isInside (blockRanges (blocksAfter (before ++ found.text) ps)) place = false :=
        ih (by simp; omega)
      rw [isInside, blockRanges] at hrest ⊢
      simp only [blocksAfter, List.map_cons, List.any_cons, hrest]
      simp
      omega

theorem openingOutside?_append {rest : Text}
    (h : ∀ n < front.length, isInside ranges (place + n) = true) :
    openingOutside? name ranges place (front ++ rest) =
      openingOutside? name ranges (place + front.length) rest := by
  induction front generalizing place with
  | nil => rfl
  | cons c front ih =>
    have hhere : isInside ranges place = true := h 0 (Nat.zero_lt_succ _)
    have hnext : ∀ n < front.length, isInside ranges (place + 1 + n) = true := fun n hn => by
      have hinside := h (n + 1) (Nat.succ_lt_succ hn)
      rwa [Nat.add_assoc, Nat.add_comm 1]
    rw [List.cons_append, openingOutside?, hhere, ih hnext, List.length_cons, Nat.add_assoc,
      Nat.add_comm 1]
    simp

/-- Outside the blocks a tag opens exactly if it does in one of the stretches. -/
theorem Splits.openingOutside?_eq_none_iff (h : Splits tag text ps)
    (hranges : ∀ place, before.length ≤ place →
      isInside ranges place = isInside (blockRanges (blocksAfter before ps)) place) :
    openingOutside? tag.name ranges before.length text = none ↔
      ∀ stretch ∈ stretches ps, ¬Opens tag.name stretch := by
  -- The ranges are those of all blocks; they are compared with those of the blocks that are left only
  -- from the present place on, since the ones in front do not matter any more.
  induction h generalizing before with
  | nil => exact iff_of_true rfl nofun
  | @block block after ps _ _ ih =>
    have hinside : ∀ n < block.text.length, isInside ranges (before.length + n) = true :=
      fun n hn => by
        rw [hranges _ (Nat.le_add_right ..)]
        simp [isInside, blockRanges, blocksAfter, hn]
    have hbehind : ∀ place, (before ++ block.text).length ≤ place →
        isInside ranges place =
          isInside (blockRanges (blocksAfter (before ++ block.text) ps)) place := fun place hplace => by
      rw [List.length_append] at hplace
      rw [hranges place (by omega)]
      simp only [isInside, blockRanges, blocksAfter, List.map_cons, List.any_cons]
      rw [decide_eq_false (p := place < before.length + block.text.length) (by omega)]
      simp
    rw [openingOutside?_append hinside, ← List.length_append, ih hbehind]
    exact Iff.rfl
  | @outside c text ps hnone hrest ih =>
    have hhere : isInside ranges before.length = false := by
      rw [hranges _ (Nat.le_refl _), blocksAfter_consOutside]
      exact isInside_blockRanges_of_lt (by simp)
    have hbehind : ∀ place, (before ++ [c]).length ≤ place → isInside ranges place =
        isInside (blockRanges (blocksAfter (before ++ [c]) ps)) place := fun place hplace => by
      rw [hranges place (Nat.le_trans (by simp) hplace), blocksAfter_consOutside]
    have hnext := ih hbehind
    rw [List.length_append, List.length_singleton, forall_stretches_iff] at hnext
    rw [openingOutside?, hhere, Bool.not_false, Bool.and_true, hrest.isSome_afterOpening?_cons,
      consOutside_eq]
    split
    · rename_i hopens
      refine iff_of_false nofun fun hall => hall _ List.mem_cons_self ?_
      exact opens_cons_iff.mpr (.inl hopens)
    · rename_i hopens
      rw [hnext]
      change _ ↔ ∀ stretch ∈ (c :: leading ps) :: stretches (afterLeading ps), _
      rw [List.forall_mem_cons, opens_cons_iff, or_iff_right hopens]

/-- A text passes the check for closing tags exactly if no stretch of it opens the tag. -/
theorem checkClosed_eq_ok_iff {source : Text} : checkClosed source tag = .ok () ↔
    ∀ stretch ∈ stretches (pieces tag source), ¬Opens tag.name stretch := by
  have hsplits : Splits tag source (pieces tag source) := splits_iff.mpr rfl
  have hnone : openingOutside? tag.name (blockRanges (blocksAfter [] (pieces tag source)))
      ([] : Text).length source = none ↔ _ :=
    hsplits.openingOutside?_eq_none_iff fun _ _ => rfl
  rw [← hnone, checkClosed, List.length_nil]
  split
  · rename_i hfound
    exact iff_of_true rfl hfound
  · rename_i place hfound
    exact iff_of_false nofun (by simp [hfound])

end ComponentBundle.Markup
