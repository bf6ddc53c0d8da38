import ComponentBundle.Proofs.Markup.Emitted
import ComponentBundle.Proofs.Markup.Splitting
import ComponentBundle.Proofs.Text.Place

/-!
# What diagnostics are about

A message about a component is about an image, a tag, a place of a script or a statement. Its position is
that of the byte of the compiled text at which what it is about begins.
-/
namespace ComponentBundle.Markup

variable {tag : Tag} {name code text front rest : Text} {ranges : List (Nat × Nat)}
  {fuel start place : Nat}

/-- What a message is about, and at which byte of the text that is. -/
inductive Concerns (code : Text) : (message : Text) → (offset : Nat) → Prop where
  /-- An image without a description, outside scripts. -/
  | image {front rest attributes content : Text} (text : code = front ++ rest)
      (opens : afterOpening? "img".toList rest = some (attributes ++ '>' :: content))
      (ends : '>' ∉ attributes)
      (undescribed : (Attributes.ofText attributes).get? "alt".toList = none)
      (outside : isInside (blockRanges (blocksAfter [] (pieces .script code))) front.length = false) :
      Concerns code missingAlt front.byteLength
  | unclosed {tag : Tag} {front rest : Text} (text : code = front ++ rest)
      (opens : (afterOpening? tag.name rest).isSome)
      (outside : isInside (blockRanges (blocksAfter [] (pieces tag code))) front.length = false) :
      Concerns code ('<' :: tag.name ++ "> must have a closing tag".toList) front.byteLength
  /-- What the grammar does not accept in a script. -/
  | syntaxError {before : Text} {block : Block} {failure : Script.Failure} {offset : Nat}
      (script : (before, block) ∈ blocksAfter [] (pieces .script code))
      (outline : Script.outline block.body = .error failure) (known : failure.offset = some offset) :
      Concerns code failure.message
        ((before ++ block.opening ++ block.attributes ++ ['>']).byteLength + offset)
  /-- A default export of a script. -/
  | defaultExport {before : Text} {block : Block} {items : List Script.Item} {item : Script.Item}
      (script : (before, block) ∈ blocksAfter [] (pieces .script code))
      (outline : Script.outline block.body = .ok items) (stands : item ∈ items)
      (kind : item.kind = .defaultExport) :
      Concerns code "A component cannot have a default export".toList
        ((before ++ block.opening ++ block.attributes ++ ['>']).byteLength + item.first)

theorem exists_of_openingOutside? (h : openingOutside? name ranges start text = some place) :
    ∃ front rest, text = front ++ rest ∧ place = start + front.length ∧
      (afterOpening? name rest).isSome ∧ isInside ranges place = false := by
  induction text generalizing start with
  | nil => cases h
  | cons c text ih =>
    rw [openingOutside?] at h
    split at h
    · rename_i hopens
      obtain rfl := Option.some.inj h
      simp only [Bool.and_eq_true, Bool.not_eq_true'] at hopens
      exact ⟨[], c :: text, rfl, rfl, hopens.1, hopens.2⟩
    · obtain ⟨front, rest, rfl, rfl, hopens, houtside⟩ := ih h
      exact ⟨c :: front, rest, rfl, by simp; omega, hopens, houtside⟩

/-- At a place of the text, counted on from `start`, there is an image without a description. -/
def HasImage (ranges : List (Nat × Nat)) (start : Nat) (text : Text) (place : Nat) : Prop :=
  ∃ front rest attributes content, text = front ++ rest ∧ place = start + front.length ∧
    afterOpening? "img".toList rest = some (attributes ++ '>' :: content) ∧ '>' ∉ attributes ∧
    (Attributes.ofText attributes).get? "alt".toList = none ∧ isInside ranges place = false

theorem HasImage.prepend (h : HasImage ranges (start + front.length) text place) :
    HasImage ranges start (front ++ text) place := by
  obtain ⟨inner, rest, attributes, content, rfl, rfl, hfound⟩ := h
  exact ⟨front ++ inner, rest, attributes, content, (List.append_assoc ..).symm,
    by rw [List.length_append, Nat.add_assoc], hfound⟩

theorem hasImage_of_mem_imagesWithoutAlt (h : place ∈ imagesWithoutAlt ranges fuel start text) :
    HasImage ranges start text place := by
  induction fuel generalizing start text with
  | zero => cases h
  | succ fuel ih =>
    cases text with
    | nil => cases h
    | cons c text =>
      rw [imagesWithoutAlt] at h
      split at h
      · have hbehind : HasImage ranges (start + [c].length) text place := ih h
        exact hbehind.prepend
      · rename_i after hopens
        simp only at h
        split at h
        · cases h
        · rename_i mark content hcontent
          obtain ⟨hafter, hends⟩ := Text.eq_append_of_dropWhile_ne hcontent
          obtain ⟨opening, htext, hopening, -⟩ := afterOpening?_eq_some_iff.mp hopens
          have hlength : opening.length = 4 := Text.length_eq_of_map_foldCase hopening
          -- The search goes on behind the tag of the image, whether or not that is reported.
          have hbehind (hmem : place ∈ imagesWithoutAlt ranges fuel
              (start + 5 + (after.takeWhile (· ≠ '>')).length) content) :
              HasImage ranges start (c :: text) place := by
            have hplace : start + 5 + (after.takeWhile (· ≠ '>')).length =
                start + (opening ++ after.takeWhile (· ≠ '>') ++ ['>']).length := by
              simp [hlength]
              omega
            have hsplit : c :: text = opening ++ after.takeWhile (· ≠ '>') ++ ['>'] ++ content := by
              rw [htext, List.append_assoc, List.append_assoc]
              exact congrArg (opening ++ ·) hafter
            rw [hsplit]
            exact (hplace ▸ ih hmem).prepend
          split at h
          · exact hbehind h
          · rename_i hnot
            rcases List.mem_cons.mp h with rfl | hmem
            · simp only [Bool.or_eq_true, not_or, Bool.not_eq_true, Option.isSome_eq_false_iff,
                Option.isNone_iff_eq_none] at hnot
              exact ⟨[], c :: text, _, content, rfl, rfl, hafter ▸ hopens, hends, hnot.2, hnot.1⟩
            · exact hbehind hmem

def IsPlaced (code message : Text) (position : Position) : Prop :=
  ∃ offset, Concerns code message offset ∧ position = .ofOffset code offset

theorem after_take_length (front rest : Text) :
    Position.after ((front ++ rest).take front.length) =
      .ofOffset (front ++ rest) front.byteLength := by
  rw [List.take_left, Position.ofOffset_byteLength (List.prefix_append front rest)]

theorem isPlaced_of_checkClosed {failure : CompileFailure}
    (h : checkClosed code tag = .error failure) :
    ∃ position, failure.position = some position ∧ IsPlaced code failure.message position := by
  rw [checkClosed] at h
  split at h
  · cases h
  · rename_i place hplace
    obtain rfl := Except.error.inj h
    obtain ⟨front, rest, rfl, rfl, hopens, houtside⟩ := exists_of_openingOutside? hplace
    rw [Nat.zero_add] at houtside ⊢
    exact ⟨_, rfl, _, .unclosed rfl hopens houtside, after_take_length front rest⟩

theorem isPlaced_of_mem_imageWarnings {file : Path} {warning : Diagnostic}
    (h : warning ∈ imageWarnings code (blockRanges (blocksAfter [] (pieces .script code))) file) :
    IsPlaced code warning.message warning.start := by
  obtain ⟨place, hplace, rfl⟩ := List.mem_map.mp h
  obtain ⟨front, rest, attributes, content, rfl, rfl, hopens, hends, hnone, houtside⟩ :=
    hasImage_of_mem_imagesWithoutAlt hplace
  rw [Nat.zero_add] at houtside ⊢
  exact ⟨_, .image rfl hopens hends hnone houtside, after_take_length front rest⟩

theorem isPlaced_of_addScript {before : Text} {block : Block} {found : Statements}
    {failure : CompileFailure} {position : Position}
    (hmem : (before, block) ∈ blocksAfter [] (pieces .script code))
    (h : addScript code (before ++ block.opening ++ block.attributes ++ ['>']) block.body found =
      .error failure) (hposition : failure.position = some position) :
    IsPlaced code failure.message position := by
  rw [addScript] at h
  split at h
  · rename_i inner houtline
    obtain rfl := Except.error.inj h
    obtain ⟨offset, hoffset, rfl⟩ := Option.map_eq_some_iff.mp hposition
    exact ⟨_, .syntaxError hmem houtline hoffset, rfl⟩
  · rename_i items houtline
    split at h
    · rename_i item hitem
      obtain rfl := Except.error.inj h
      obtain rfl := Option.some.inj hposition
      have hkind : item.kind = .defaultExport := by simpa using List.find?_some hitem
      exact ⟨_, .defaultExport hmem houtline (List.mem_of_find?_eq_some hitem) hkind, rfl⟩
    · cases h

theorem exists_addScript_error {blocks : List (Text × Block)} {found : Statements}
    {failure : CompileFailure}
    (h : blocks.foldlM (fun found (before, block) =>
      addScript code (before ++ block.opening ++ block.attributes ++ ['>']) block.body found)
      found = .error failure) :
    ∃ before block found, (before, block) ∈ blocks ∧
      addScript code (before ++ block.opening ++ block.attributes ++ ['>']) block.body found =
        .error failure := by
  induction blocks generalizing found with
  | nil => cases h
  | cons head blocks ih =>
    obtain ⟨before, block⟩ := head
    cases hnext : addScript code (before ++ block.opening ++ block.attributes ++ ['>']) block.body
        found with
    | error inner =>
      simp only [List.foldlM_cons, hnext] at h
      obtain rfl := Except.error.inj h
      exact ⟨before, block, found, List.mem_cons_self, hnext⟩
    | ok next =>
      simp only [List.foldlM_cons, hnext] at h
      obtain ⟨place, failing, found, hmem, hfailed⟩ := ih h
      exact ⟨place, failing, found, List.mem_cons_of_mem _ hmem, hfailed⟩

/-- The place of a failure of the compiler of components is that of what its message is about. -/
theorem isPlaced_of_compile {file : Path} {failure : CompileFailure} {position : Position}
    (h : compile code file = .error failure) (hposition : failure.position = some position) :
    IsPlaced code failure.message position := by
  have hclosed {tag : Tag} (h : checkClosed code tag = .error failure) :
      IsPlaced code failure.message position := by
    obtain ⟨found, hfound, hplaced⟩ := isPlaced_of_checkClosed h
    rw [hfound] at hposition
    exact Option.some.inj hposition ▸ hplaced
  simp only [compile, Bind.bind, Except.bind] at h
  split at h
  · rename_i hscript
    exact hclosed (Except.error.inj h ▸ hscript)
  split at h
  · rename_i hstyle
    exact hclosed (Except.error.inj h ▸ hstyle)
  split at h
  · rename_i hstatements
    obtain ⟨before, block, found, hmem, hfailed⟩ :=
      exists_addScript_error (Except.error.inj h ▸ hstatements)
    exact isPlaced_of_addScript hmem hfailed hposition
  · cases h

theorem isPlaced_of_mem_warnings {file : Path} {output : MarkupOutput} {warning : Diagnostic}
    (h : compile code file = .ok output) (hmem : warning ∈ output.warnings) :
    IsPlaced code warning.message warning.start := by
  rw [warnings_compile h] at hmem
  exact isPlaced_of_mem_imageWarnings hmem

end ComponentBundle.Markup
