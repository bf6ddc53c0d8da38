import ComponentBundle.Proofs.Markup.Placed
import ComponentBundle.Proofs.Text.Order

/-!
# The first script that fails

The standard pipeline stops at the first typed script whose types cannot be taken out. The failure is
found in the body of that script, and it is reported at the position that the same byte has in the file,
since the position in a part of a text is moved by the position of the part.
-/
namespace ComponentBundle

open Markup Pipeline

variable {files : Style.Files} {source body before : Text} {path : Path} {attributes : Attributes}
  {block : Block} {failure : Script.Failure}

theorem typedScripts_script (htyped : isTyped attributes = true) :
    typedScripts.script body attributes path =
      match Script.lower true body with
      | .ok script => .ok (some script)
      | .error failure =>
        .error ⟨"typescript".toList, failure.message, failure.position body⟩ :=
  if_pos htyped

/-- The script behind `before` is the first one of the source that is typed and whose types cannot be taken
out. -/
def FailsFirst (source before : Text) (block : Block) (failure : Script.Failure) : Prop :=
  ∃ earlier later, blocksAfter [] (pieces .script source) = earlier ++ (before, block) :: later ∧
    (∀ other ∈ earlier, isTyped (Attributes.ofText other.2.attributes) = true →
      ∃ script, Script.lower true other.2.body = .ok script) ∧
    isTyped (Attributes.ofText block.attributes) = true ∧
    Script.lower true block.body = .error failure

namespace FailsFirst

/-- The failure of the first script that fails is that of the pipeline, moved to the body of the script. -/
theorem run_eq (h : FailsFirst source before block failure) :
    standardPipeline.run files source path = .error (moveFailure
      (before ++ block.opening ++ block.attributes ++ ['>'])
      ⟨"typescript".toList, failure.message, failure.position block.body⟩) := by
  obtain ⟨earlier, later, hblocks, hearlier, htyped, hlower⟩ := h
  have hchain : ∀ other ∈ earlier, ∃ body,
      chain (scriptHooks path (Attributes.ofText other.2.attributes)) other.2.body = .ok body := by
    intro other hother
    rw [chain_scriptHooks]
    by_cases htyped : isTyped (Attributes.ofText other.2.attributes) = true
    · obtain ⟨script, hscript⟩ := hearlier other hother htyped
      rw [typedScripts_script htyped, hscript]
      exact ⟨script, rfl⟩
    · exact ⟨other.2.body, congrArg _ (if_neg htyped)⟩
  have hfails : chain (scriptHooks path (Attributes.ofText block.attributes)) block.body =
      .error ⟨"typescript".toList, failure.message, failure.position block.body⟩ := by
    rw [chain_scriptHooks, typedScripts_script htyped, hlower]
    rfl
  rw [ComponentBundle.run_eq, rewriteBlocks, rewriteAfter_eq_error hblocks hchain hfails]
  rfl

theorem exists_source_eq (h : FailsFirst source before block failure) : ∃ back,
    source = before ++ block.opening ++ block.attributes ++ ['>'] ++ (block.body ++ back) := by
  obtain ⟨earlier, later, hblocks, -⟩ := h
  have hmem : (before, block) ∈ blocksAfter [] (pieces .script source) := hblocks ▸ by simp
  obtain ⟨rest, hrest⟩ := prefix_of_mem_blocksAfter hmem
  rw [List.nil_append, flatMap_text_pieces] at hrest
  exact ⟨block.closing ++ rest, by rw [← hrest]; simp [Block.text]⟩

end FailsFirst

/-- Positions compose: that of a byte of a part, moved by that of the part, is the position of the byte in
the whole. So when types cannot be taken out of a script, and the scripts in front of it do not fail, the
pipeline fails at the position that the byte in question of the body has in the file. No line and no
column of a position is larger than the number of the characters and one. -/
theorem block_places_compose :
    (∀ (front content back : Text) (offset : Nat), offset ≤ content.byteLength →
      (Position.ofOffset content offset).shift
          (Position.ofOffset (front ++ (content ++ back)) front.byteLength) =
        Position.ofOffset (front ++ (content ++ back)) (front.byteLength + offset)) ∧
      (∀ (files : Style.Files) (source : Text) (path : Path) (before : Text) (block : Block)
        (failure : Script.Failure) (offset : Nat), FailsFirst source before block failure →
        failure.offset = some offset → offset ≤ block.body.byteLength →
          (∃ back, source =
            before ++ block.opening ++ block.attributes ++ ['>'] ++ (block.body ++ back)) ∧
          standardPipeline.run files source path =
            .error ⟨"typescript".toList, failure.message, some (Position.ofOffset source
              ((before ++ block.opening ++ block.attributes ++ ['>']).byteLength + offset))⟩) ∧
      ∀ (source : Text) (offset : Nat),
        1 ≤ (Position.ofOffset source offset).line ∧ 0 ≤ (Position.ofOffset source offset).column ∧
          (Position.ofOffset source offset).line + (Position.ofOffset source offset).column ≤
            source.length + 1 := by
  refine ⟨fun front content back offset h => Position.ofOffset_shift h front back, ?_,
    Position.ofOffset_bounds⟩
  intro files source path before block failure offset hfirst hoffset hinside
  refine ⟨hfirst.exists_source_eq, ?_⟩
  obtain ⟨back, hsource⟩ := hfirst.exists_source_eq
  have hmoved := Position.ofOffset_shift hinside
    (before ++ block.opening ++ block.attributes ++ ['>']) back
  rw [← hsource, Position.ofOffset_byteLength ⟨_, hsource.symm⟩] at hmoved
  rw [hfirst.run_eq, moveFailure, Script.Failure.position, hoffset, Option.map_some, Option.map_some,
    hmoved]

def beforeWrong : Text :=
  "<script>let = ;</script>\n<p>é</p><script lang='ts'>let a: number = 1;</script>".toList

/-- A typed script that is wrong in its second line, behind a letter of two bytes. -/
def wrongBlock : Block where
  opening := "<SCRIPT".toList
  attributes := " lang=\"typescript\"".toList
  body := "let b;\nlet é: number = ;".toList
  closing := "</script>".toList

theorem block_places_compose_wrongBlock :
    FailsFirst (beforeWrong ++ wrongBlock.text) beforeWrong wrongBlock
        ⟨"Unexpected token".toList, some 24⟩ ∧
      standardPipeline.run noStyleFiles (beforeWrong ++ wrongBlock.text) (.ofString "/App.svelte") =
        .error ⟨"typescript".toList, "Unexpected token".toList, some ⟨3, 16⟩⟩ := by
  have hblocks : blocksAfter [] (pieces .script (beforeWrong ++ wrongBlock.text)) =
      [([], ⟨"<script".toList, [], "let = ;".toList, "</script>".toList⟩),
        ("<script>let = ;</script>\n<p>é</p>".toList, ⟨"<script".toList, " lang='ts'".toList,
          "let a: number = 1;".toList, "</script>".toList⟩)] ++ [(beforeWrong, wrongBlock)] := by
    decide +kernel
  have hfirst : FailsFirst (beforeWrong ++ wrongBlock.text) beforeWrong wrongBlock
      ⟨"Unexpected token".toList, some 24⟩ := by
    refine ⟨_, [], hblocks, ?_, by decide +kernel, ?_⟩
    · simp only [List.forall_mem_cons, List.not_mem_nil, false_implies, implies_true, and_true]
      refine ⟨fun htyped => absurd htyped (by decide +kernel), fun _ => ?_⟩
      have hisOk : (Script.lower true "let a: number = 1;".toList).isOk = true := by decide +kernel
      cases hscript : Script.lower true "let a: number = 1;".toList with
      | ok script => exact ⟨script, rfl⟩
      | error failure =>
        rw [hscript] at hisOk
        cases hisOk
    · have herror : (match Script.lower true wrongBlock.body with
          | .ok _ => none
          | .error failure => some failure) =
            some ⟨"Unexpected token".toList, some 24⟩ := by decide +kernel
      split at herror
      · cases herror
      · rename_i failure hfailure
        exact hfailure.trans (congrArg _ (Option.some.inj herror))
  obtain ⟨-, hplaced⟩ := block_places_compose.2.1 noStyleFiles _ (.ofString "/App.svelte") _ _ _ 24 hfirst rfl
    (by decide +kernel)
  have hposition : Position.ofOffset (beforeWrong ++ wrongBlock.text)
      ((beforeWrong ++ wrongBlock.opening ++ wrongBlock.attributes ++ ['>']).byteLength + 24) =
        ⟨3, 16⟩ := by decide +kernel
  exact ⟨hfirst, hposition ▸ hplaced⟩

end ComponentBundle
