import ComponentBundle.Proofs.Markup.Concern
import ComponentBundle.Proofs.Markup.Rewritten
import ComponentBundle.Standard

/-!
# Where the diagnostics of a component are

A component is compiled after its scripts and styles have been preprocessed. A failure of preprocessing is
moved to the place of the source; what the compiler reports is placed in what it is given. The two agree
as long as the new bodies in front keep the number of lines and the length of the last one.
-/
namespace ComponentBundle

open Markup Pipeline

variable {files : Style.Files} {source code body : Text} {path : Path} {attributes : Attributes}
  {scripts styles : List Passage}

def scriptHooks (path : Path) (attributes : Attributes) : List (Text → Rewriting) :=
  standardPipeline.map fun p body => p.script body attributes path

def styleHooks (files : Style.Files) (path : Path) (attributes : Attributes) :
    List (Text → Rewriting) :=
  standardPipeline.map fun p body => p.style files body attributes path

structure IsRewritten (files : Style.Files) (source : Text) (path : Path)
    (scripts styles : List Passage) : Prop where
  scriptPass : Rewrites .script (scriptHooks path) (pieces .script source) scripts
  stylePass : Rewrites .style (styleHooks files path) (pieces .style (made scripts)) styles

theorem chain_cons (hook : Text → Rewriting) (hooks : List (Text → Rewriting)) (text : Text) :
    chain (hook :: hooks) text =
      match hook text with
      | .error failure => .error failure
      | .ok found => chain hooks (found.getD text) := by
  rw [chain, List.foldlM_cons]
  cases hook text <;> rfl

theorem exists_of_typedScripts {failure : PreprocessFailure}
    (h : typedScripts.script body attributes path = .error failure) :
    isTyped attributes = true ∧ ∃ inner, Script.lower true body = .error inner ∧
      failure = ⟨"typescript".toList, inner.message, inner.position body⟩ := by
  unfold typedScripts at h
  dsimp only at h
  by_cases htyped : isTyped attributes = true
  · rw [if_pos htyped] at h
    cases hlower : Script.lower true body with
    | ok script =>
      rw [hlower] at h
      cases h
    | error inner =>
      rw [hlower] at h
      exact ⟨htyped, inner, rfl, (Except.error.inj h).symm⟩
  · rw [if_neg htyped] at h
    cases h

/-- Of the script hooks only the one for types has something to say. -/
theorem chain_scriptHooks : chain (scriptHooks path attributes) body =
    (typedScripts.script body attributes path).map (·.getD body) := by
  have hhooks : scriptHooks path attributes =
      [fun _ => .ok none, fun body => typedScripts.script body attributes path,
        fun _ => .ok none] := rfl
  rw [hhooks, chain_cons]
  simp only [Option.getD_none]
  rw [chain_cons]
  cases typedScripts.script body attributes path <;> rfl

/-- A script whose hooks fail is typed, and taking out its types fails. -/
theorem exists_of_chain_scriptHooks {failure : PreprocessFailure}
    (h : chain (scriptHooks path attributes) body = .error failure) :
    isTyped attributes = true ∧ ∃ inner, Script.lower true body = .error inner ∧
      failure = ⟨"typescript".toList, inner.message, inner.position body⟩ := by
  rw [chain_scriptHooks] at h
  cases hscript : typedScripts.script body attributes path with
  | ok found =>
    rw [hscript] at h
    cases h
  | error failed =>
    rw [hscript] at h
    obtain rfl := Except.error.inj h
    exact exists_of_typedScripts hscript

theorem exists_of_chain_error {hooks : List (Text → Rewriting)} {text : Text}
    {failure : PreprocessFailure} (h : chain hooks text = .error failure) :
    ∃ hook ∈ hooks, ∃ text, hook text = .error failure := by
  induction hooks generalizing text with
  | nil => cases h
  | cons hook hooks ih =>
    rw [chain_cons] at h
    split at h
    · rename_i hhook
      exact ⟨hook, List.mem_cons_self, text, hhook.trans (congrArg _ (Except.error.inj h))⟩
    · obtain ⟨failing, hmem, hfailed⟩ := ih h
      exact ⟨failing, List.mem_cons_of_mem _ hmem, hfailed⟩

/-- A style that fails does not say where. -/
theorem position_of_chain_styleHooks {failure : PreprocessFailure}
    (h : chain (styleHooks files path attributes) body = .error failure) : failure.position = none := by
  obtain ⟨hook, hmem, text, hfailed⟩ := exists_of_chain_error h
  have hnested {name : Text} {form : Style.Form}
      (h : (nestedStyles name form).style files text attributes path = .error failure) :
      failure.position = none := by
    simp only [nestedStyles] at h
    split at h
    · split at h
      · cases h
      · exact Except.error.inj h ▸ rfl
    · cases h
  obtain ⟨p, hp, rfl⟩ := List.mem_map.mp hmem
  simp only [standardPipeline, List.mem_cons, List.not_mem_nil, or_false] at hp
  rcases hp with rfl | rfl | rfl
  · exact hnested hfailed
  · cases hfailed
  · exact hnested hfailed

theorem run_eq : standardPipeline.run files source path =
    (rewriteBlocks .script (scriptHooks path) source).bind fun code =>
      (rewriteBlocks .style (styleHooks files path) code).bind fun code =>
        .ok (if code.all Text.isBlank then none else some code) :=
  rfl

theorem exists_isRewritten (h : standardPipeline.run files source path = .ok (some code)) :
    ∃ scripts styles, IsRewritten files source path scripts styles ∧ code = made styles := by
  rw [run_eq] at h
  cases hscripts : rewriteBlocks .script (scriptHooks path) source with
  | error failure =>
    rw [hscripts] at h
    cases h
  | ok middle =>
    cases hstyles : rewriteBlocks .style (styleHooks files path) middle with
    | error failure =>
      simp only [hscripts, Except.bind, hstyles] at h
      cases h
    | ok found =>
      simp only [hscripts, Except.bind, hstyles] at h
      obtain ⟨scripts, hscriptPass, rfl⟩ := exists_rewrites hscripts
      obtain ⟨styles, hstylePass, rfl⟩ := exists_rewrites hstyles
      refine ⟨scripts, styles, ⟨hscriptPass, hstylePass⟩, ?_⟩
      split at h
      · cases h
      · exact (Option.some.inj (Except.ok.inj h)).symm

/-- Taking the types out of a script of the source fails at a byte of the source. -/
inductive LoweringFails (source : Text) : (message : Text) → (offset : Nat) → Prop where
  | intro {before : Text} {block : Block} {failure : Script.Failure} {offset : Nat}
      (script : (before, block) ∈ blocksAfter [] (pieces .script source))
      (typed : isTyped (Attributes.ofText block.attributes) = true)
      (lower : Script.lower true block.body = .error failure) (known : failure.offset = some offset) :
      LoweringFails source ('[' :: "typescript".toList ++ ']' :: ' ' :: failure.message)
        (before ++ block.opening ++ block.attributes ++ ['>'] ++ block.body.takeBytes offset).byteLength

/-- A failure of the standard pipeline that has a place is one of types, and it is placed in the source. -/
theorem loweringFails_of_run {failure : PreprocessFailure} {position : Position}
    (h : standardPipeline.run files source path = .error failure)
    (hposition : failure.position = some position) :
    ∃ offset, LoweringFails source failure.display offset ∧
      position = .ofOffset source offset := by
  rw [run_eq] at h
  cases hscripts : rewriteBlocks .script (scriptHooks path) source with
  | error inner =>
    rw [hscripts] at h
    obtain rfl := Except.error.inj h
    obtain ⟨before, block, inner, hmem, hchain, rfl⟩ := exists_chain_error hscripts
    obtain ⟨htyped, failure, hlower, rfl⟩ := exists_of_chain_scriptHooks hchain
    obtain ⟨inner, hinner, rfl⟩ := Option.map_eq_some_iff.mp hposition
    obtain ⟨offset, hoffset, rfl⟩ := Option.map_eq_some_iff.mp hinner
    refine ⟨_, .intro hmem htyped hlower hoffset, ?_⟩
    have hbegins : before ++ block.text <+: source := by
      have hblock := prefix_of_mem_blocksAfter hmem
      rwa [List.nil_append, flatMap_text_pieces] at hblock
    have hbody : before ++ block.opening ++ block.attributes ++ ['>'] ++
        block.body.takeBytes offset <+: before ++ block.text := by
      simpa [Block.text, List.prefix_append_right_inj] using
        (Text.takeBytes_prefix block.body offset).trans (List.prefix_append _ block.closing)
    rw [Position.ofOffset_byteLength (hbody.trans hbegins)]
    exact (Position.after_append _ (block.body.takeBytes offset)).symm
  | ok middle =>
    cases hstyles : rewriteBlocks .style (styleHooks files path) middle with
    | error inner =>
      simp only [hscripts, Except.bind, hstyles] at h
      obtain rfl := Except.error.inj h
      obtain ⟨before, block, inner, -, hchain, rfl⟩ := exists_chain_error hstyles
      rw [moveFailure, position_of_chain_styleHooks hchain] at hposition
      cases hposition
    | ok found =>
      simp only [hscripts, Except.bind, hstyles] at h
      cases h

/-- The place behind `origin` in the source becomes the place behind `place` in what is compiled. -/
def Comes (scripts styles : List Passage) (origin place : Text) : Prop :=
  ∃ middle, Carries scripts origin middle ∧ Carries styles middle place

/-- The place behind `place` in what is compiled is within a new body. -/
def IsNew (scripts styles : List Passage) (place : Text) : Prop :=
  Strays styles place ∨ ∃ middle, Carries styles middle place ∧ Strays scripts middle

variable {origin place : Text}

theorem comes_or_isNew (h : IsRewritten files source path scripts styles)
    (hplace : place <+: made styles) :
    (∃ origin, Comes scripts styles origin place) ∨ IsNew scripts styles place := by
  rcases carries_or_strays hplace with ⟨middle, hmiddle⟩ | hstrays
  · have hmade : middle <+: made scripts := by
      have hbegins := hmiddle.prefix_written
      rwa [h.stylePass.written_eq, flatMap_text_pieces] at hbegins
    rcases carries_or_strays hmade with ⟨origin, horigin⟩ | hstrays
    · exact .inl ⟨origin, middle, horigin, hmiddle⟩
    · exact .inr (.inr ⟨middle, hmiddle, hstrays⟩)
  · exact .inr (.inl hstrays)

theorem Comes.prefix_source (h : IsRewritten files source path scripts styles)
    (hcomes : Comes scripts styles origin place) : origin <+: source := by
  obtain ⟨middle, horigin, -⟩ := hcomes
  have hbegins := horigin.prefix_written
  rwa [h.scriptPass.written_eq, flatMap_text_pieces] at hbegins

theorem Comes.after_eq (hcomes : Comes scripts styles origin place)
    (hshape : ∀ passage ∈ scripts ++ styles,
      Position.after passage.made = Position.after passage.written) :
    Position.after place = Position.after origin := by
  obtain ⟨middle, horigin, hmiddle⟩ := hcomes
  obtain ⟨hscripts, hstyles⟩ := List.forall_mem_append.mp hshape
  rw [hmiddle.after_eq hstyles, horigin.after_eq hscripts]

theorem IsNew.exists_not_isKept (h : IsNew scripts styles place) :
    ∃ passage ∈ scripts ++ styles, ¬passage.IsKept := by
  rcases h with hstrays | ⟨middle, -, hstrays⟩
  · obtain ⟨passage, hmem, hchanged⟩ := hstrays.exists_not_isKept
    exact ⟨passage, List.mem_append_right _ hmem, hchanged⟩
  · obtain ⟨passage, hmem, hchanged⟩ := hstrays.exists_not_isKept
    exact ⟨passage, List.mem_append_left _ hmem, hchanged⟩

/-- The diagnostic is about what is compiled, and it is placed in that. The place comes from one of the
source unless it is within a new body. The diagnostic is at that one exactly if the text in front ends in
the same line and column before and after preprocessing. It is if all bodies keep their number of lines and
the length of their last line, and there is such a place if all bodies are kept. -/
structure IsPlacedAfter (files : Style.Files) (source : Text) (path : Path) (diagnostic : Diagnostic)
    (scripts styles : List Passage) (offset : Nat) : Prop where
  rewritten : IsRewritten files source path scripts styles
  concerns : Concerns (made styles) diagnostic.message offset
  start_eq : diagnostic.start = .ofOffset (made styles) offset
  comes : (∃ origin, Comes scripts styles origin ((made styles).takeBytes offset)) ∨
    IsNew scripts styles ((made styles).takeBytes offset)
  start_eq_iff {origin : Text} : Comes scripts styles origin ((made styles).takeBytes offset) →
    (diagnostic.start = .ofOffset source origin.byteLength ↔
      Position.after ((made styles).takeBytes offset) = Position.after origin)
  start_eq_of_shape {origin : Text} :
    (∀ passage ∈ scripts ++ styles, Position.after passage.made = Position.after passage.written) →
      Comes scripts styles origin ((made styles).takeBytes offset) →
        diagnostic.start = .ofOffset source origin.byteLength
  exists_of_kept : (∀ passage ∈ scripts ++ styles, passage.IsKept) →
    ∃ origin, Comes scripts styles origin ((made styles).takeBytes offset) ∧
      diagnostic.start = .ofOffset source origin.byteLength

theorem exists_isPlacedAfter {diagnostic : Diagnostic}
    (hrun : standardPipeline.run files source path = .ok (some code))
    (h : IsPlaced code diagnostic.message diagnostic.start) :
    ∃ scripts styles offset, IsPlacedAfter files source path diagnostic scripts styles offset := by
  obtain ⟨scripts, styles, hrewritten, rfl⟩ := exists_isRewritten hrun
  obtain ⟨offset, hconcerns, hstart⟩ := h
  have hcomes := comes_or_isNew hrewritten (Text.takeBytes_prefix (made styles) offset)
  have hiff {origin : Text} (hcomes : Comes scripts styles origin ((made styles).takeBytes offset)) :
      diagnostic.start = .ofOffset source origin.byteLength ↔
        Position.after ((made styles).takeBytes offset) = Position.after origin := by
    rw [hstart, Position.ofOffset_byteLength (hcomes.prefix_source hrewritten)]
    exact Iff.rfl
  have hshape {origin : Text} (hall : ∀ passage ∈ scripts ++ styles,
      Position.after passage.made = Position.after passage.written)
      (hcomes : Comes scripts styles origin ((made styles).takeBytes offset)) :
      diagnostic.start = .ofOffset source origin.byteLength :=
    (hiff hcomes).mpr (hcomes.after_eq hall)
  refine ⟨scripts, styles, offset, hrewritten, hconcerns, hstart, hcomes, hiff, hshape,
    fun hkept => ?_⟩
  rcases hcomes with ⟨origin, hcomes⟩ | hnew
  · exact ⟨origin, hcomes, hshape (fun passage hmem =>
      (Position.after_eq_of_map_foldCase_eq (hkept passage hmem)).symm) hcomes⟩
  · obtain ⟨passage, hmem, hchanged⟩ := hnew.exists_not_isKept
    exact absurd (hkept passage hmem) hchanged

/-- Every diagnostic of a component either has no place, or it is about the types of a script and is where
the source has them, or it is about what is compiled and is where that has it. It is then at the place of
the source from which that comes exactly if preprocessing keeps the line and column in which the text in
front ends. -/
theorem mem_diagnostics_standard {options : CompileOptions} {diagnostic : Diagnostic}
    (h : diagnostic ∈
      (UnitCompiler.standard.compileComponent files source path options).diagnostics) :
    diagnostic.start = .none ∨ diagnostic.start = .zero ∨
      (∃ offset, LoweringFails source diagnostic.message offset ∧
        diagnostic.start = .ofOffset source offset) ∨
      ∃ scripts styles offset,
        IsPlacedAfter files source path diagnostic scripts styles offset := by
  rw [UnitCompiler.compileComponent] at h
  split at h
  · rename_i failure hrun
    obtain rfl := List.mem_singleton.mp h
    have hstart : (failure.compileFailure.diagnostic.inFile path).start =
        failure.position.getD .zero := rfl
    cases hposition : failure.position with
    | none =>
      rw [hposition] at hstart
      exact .inr (.inl hstart)
    | some position =>
      rw [hposition] at hstart
      obtain ⟨offset, hfails, rfl⟩ := loweringFails_of_run hrun hposition
      exact .inr (.inr (.inl ⟨offset, hfails, hstart⟩))
  · obtain rfl := List.mem_singleton.mp h
    exact .inl rfl
  · rename_i code hrun
    split at h
    · rename_i failure hcompile
      obtain rfl := List.mem_singleton.mp h
      have hstart : (failure.diagnostic.inFile path).start = failure.position.getD .zero := rfl
      cases hposition : failure.position with
      | none =>
        rw [hposition] at hstart
        exact .inr (.inl hstart)
      | some position =>
        rw [hposition] at hstart
        have hplaced := isPlaced_of_compile hcompile hposition
        exact .inr (.inr (.inr (exists_isPlacedAfter hrun (hstart ▸ hplaced))))
    · rename_i output hcompile
      obtain ⟨warning, hwarning, rfl⟩ := List.mem_map.mp h
      have hplaced := isPlaced_of_mem_warnings hcompile hwarning
      exact .inr (.inr (.inr (exists_isPlacedAfter hrun hplaced)))

/-- No files that styles could import. -/
def noStyleFiles : Style.Files where
  isFile _ := false
  isDirectory _ := false
  read? _ := none

/-- A component with a typed script that keeps its shape, and an image without a description. -/
def typedLine : Text := "<SCRIPT lang=\"ts\">let a: number = 1;\n</script>\n<img>".toList

theorem mem_diagnostics_standard_typedLine :
    ∃ diagnostic ∈ (UnitCompiler.standard.compileComponent noStyleFiles typedLine
        (.ofString "/App.svelte") {}).diagnostics,
      diagnostic.start = ⟨3, 0⟩ ∧ ∃ scripts styles offset,
        IsPlacedAfter noStyleFiles typedLine (.ofString "/App.svelte") diagnostic scripts styles
          offset := by
  have hmem : (Diagnostic.warning ⟨3, 0⟩ missingAlt).inFile (.ofString "/App.svelte") ∈
      (UnitCompiler.standard.compileComponent noStyleFiles typedLine
        (.ofString "/App.svelte") {}).diagnostics := by decide +kernel
  have hmessage : ∀ message offset, LoweringFails typedLine message offset →
      message.head? = some '[' := by
    rintro _ _ ⟨⟩
    rfl
  refine ⟨_, hmem, rfl, ?_⟩
  rcases mem_diagnostics_standard hmem with hnone | hzero | ⟨offset, hfails, -⟩ | hplaced
  · exact absurd hnone (by decide)
  · exact absurd hzero (by decide)
  · exact absurd (hmessage _ _ hfails) (by decide)
  · exact hplaced

def typedLines : Text :=
  "<script lang=\"ts\">\ninterface A \x7b\n  a: string;\n\x7d\n</script>\n<img src=\"a.png\">".toList

/-- A warning can miss the image that it is about. -/
theorem warning_misses_image :
    ∃ diagnostic ∈ (UnitCompiler.standard.compileComponent noStyleFiles typedLines
        (.ofString "/App.svelte") {}).diagnostics,
      diagnostic.message = missingAlt ∧ diagnostic.start = ⟨2, 0⟩ ∧
        ∀ front rest, typedLines = front ++ rest → (afterOpening? "img".toList rest).isSome →
          Position.after front = ⟨6, 0⟩ := by
  have hmem : (Diagnostic.warning ⟨2, 0⟩ missingAlt).inFile (.ofString "/App.svelte") ∈
      (UnitCompiler.standard.compileComponent noStyleFiles typedLines
        (.ofString "/App.svelte") {}).diagnostics := by decide +kernel
  have hplace : ∀ n ≤ typedLines.length, (afterOpening? "img".toList (typedLines.drop n)).isSome →
      Position.after (typedLines.take n) = ⟨6, 0⟩ := by decide +kernel
  refine ⟨_, hmem, rfl, rfl, fun front rest hsplit hopens => ?_⟩
  have hfront := hplace front.length (by simp [hsplit])
  rw [hsplit, List.take_left, List.drop_left] at hfront
  exact hfront hopens

end ComponentBundle
