import ComponentBundle.Proofs.Markup.Placed
import ComponentBundle.Proofs.Markup.Respelled

/-!
# Components that are left alone

A pipeline whose hooks have nothing to say about a component puts the tags of its blocks in lower case, and
changes nothing else. So it leaves the component as it is exactly if these tags are in lower case. The
standard pipeline has nothing to say where no script is typed and no style is in a nested notation.
-/
namespace ComponentBundle

open Markup Pipeline
open Text (foldCase)

variable {tag : Tag} {text letters made before : Text} {ps : List Piece} {block : Block}
  {pipeline : Pipeline} {files : Style.Files} {source : Text} {path : Path}

/-- The piece with its tag in lower case. -/
def Markup.Piece.lower (tag : Tag) : Piece → Text
  | .outside text => text
  | .block found => render tag found.attributes found.body

/-- The text with the tags of its blocks in lower case. -/
def lowerTags (tag : Tag) (text : Text) : Text := (pieces tag text).flatMap (Piece.lower tag)

theorem chain_eq_ok {hooks : List (Text → Rewriting)} (h : ∀ hook ∈ hooks, hook text = .ok none) :
    chain hooks text = .ok text := by
  induction hooks with
  | nil => rfl
  | cons hook hooks ih =>
    obtain ⟨hhook, hhooks⟩ := List.forall_mem_cons.mp h
    rw [chain_cons, hhook]
    exact ih hhooks

theorem rewriteAfter_eq_ok {hooks : Attributes → List (Text → Rewriting)}
    (h : ∀ block ∈ blocks ps, ∀ hook ∈ hooks (Attributes.ofText block.attributes),
      hook block.body = .ok none) :
    rewriteAfter tag hooks before ps = .ok (ps.flatMap (Piece.lower tag)) := by
  induction ps generalizing before with
  | nil => rfl
  | cons piece ps ih =>
    cases piece with
    | outside text =>
      rw [rewriteAfter, ih h]
      rfl
    | block found =>
      obtain ⟨hfound, hrest⟩ := List.forall_mem_cons.mp h
      rw [rewriteAfter, chain_eq_ok hfound, ih hrest]
      rfl

/-- No hook has anything to say about the component, or about a script or style that it is asked about. -/
structure LeavesAlone (pipeline : Pipeline) (files : Style.Files) (source : Text) (path : Path) :
    Prop where
  markup : ∀ p ∈ pipeline, p.markup source path = .ok none
  script : ∀ p ∈ pipeline, ∀ block ∈ blocks (pieces .script source),
    p.script block.body (Attributes.ofText block.attributes) path = .ok none
  style : ∀ p ∈ pipeline, ∀ block ∈ blocks (pieces .style (lowerTags .script source)),
    p.style files block.body (Attributes.ofText block.attributes) path = .ok none

theorem LeavesAlone.run_eq (h : LeavesAlone pipeline files source path) :
    pipeline.run files source path =
      .ok (if (lowerTags .style (lowerTags .script source)).all Text.isBlank then none
        else some (lowerTags .style (lowerTags .script source))) := by
  have hmarkup : chain (pipeline.map fun p text => p.markup text path) source = .ok source :=
    chain_eq_ok (by simpa using h.markup)
  have hscript : rewriteBlocks .script
      (fun attributes => pipeline.map fun p body => p.script body attributes path) source =
        .ok (lowerTags .script source) :=
    rewriteAfter_eq_ok fun block hblock => by simpa using fun p hp => h.script p hp block hblock
  have hstyle : rewriteBlocks .style
      (fun attributes => pipeline.map fun p body => p.style files body attributes path)
        (lowerTags .script source) = .ok (lowerTags .style (lowerTags .script source)) :=
    rewriteAfter_eq_ok fun block hblock => by simpa using fun p hp => h.style p hp block hblock
  rw [run, hmarkup]
  simp only [Bind.bind, Except.bind, hscript, hstyle]
  rfl

theorem isNameChar_of_map_foldCase {word : Text} (h : word.map foldCase = tag.name) :
    ∀ c ∈ word, Attributes.isNameChar c = true := by
  have hname : ∀ c ∈ tag.name, Attributes.isNameChar c = true := by cases tag <;> decide
  intro c hc
  rw [← Attributes.isNameChar_foldCase]
  exact hname _ (h ▸ List.mem_map_of_mem hc)

theorem respelled_letters {word : Text} (hword : ∀ c ∈ word, Attributes.isNameChar c = true) :
    Respelled tag (word.map foldCase) word (word.map foldCase) := by
  induction word with
  | nil => exact .nil
  | cons c word ih =>
    obtain ⟨hc, hword⟩ := List.forall_mem_cons.mp hword
    have hmark : c ≠ '<' := Attributes.ne_of_isNameChar hc (by decide)
    have hslash : c ≠ '/' := Attributes.ne_of_isNameChar hc (by decide)
    have hbehind : lettersBehind tag (foldCase c :: word.map foldCase) c = word.map foldCase := by
      simp [lettersBehind, hc, hmark, hslash]
    exact .cons (.inr ⟨rfl, rfl⟩) (by rw [List.map_cons, hbehind]; exact ih hword)

theorem respelled_name {word : Text} (h : word.map foldCase = tag.name) :
    Respelled tag tag.name word tag.name := by
  have hletters : Respelled tag (word.map foldCase) word (word.map foldCase) :=
    respelled_letters (isNameChar_of_map_foldCase h)
  rwa [h] at hletters

theorem respelled_opening {opening : Text} (h : opening.map foldCase = '<' :: tag.name) :
    Respelled tag letters opening ('<' :: tag.name) := by
  obtain ⟨word, rfl⟩ := exists_of_map_foldCase h
  refine .cons (.inl rfl) ?_
  rw [lettersBehind, if_pos (.inl rfl)]
  exact respelled_name (List.cons.inj h).2

theorem respelled_closing {closing : Text} (h : closing.map foldCase = closingWord tag) :
    Respelled tag letters closing (closingWord tag) := by
  obtain ⟨rest, rfl⟩ := exists_of_map_foldCase h
  obtain ⟨slash, rest, rfl, hslash, hrest⟩ := List.map_eq_cons_iff.mp (List.cons.inj h).2
  obtain ⟨word, marks, rfl, hword, hmarks⟩ := List.map_eq_append_iff.mp hrest
  obtain ⟨mark, rfl, hmark⟩ := List.map_eq_singleton_iff.mp hmarks
  obtain rfl := Text.eq_of_foldCase_eq hslash (by decide)
  obtain rfl := Text.eq_of_foldCase_eq hmark (by decide)
  refine .cons (.inl rfl) (.cons (.inl rfl) ?_)
  rw [lettersBehind, if_pos (.inr ⟨rfl, if_pos (.inl rfl)⟩)]
  exact (respelled_name hword).append fun letters => .refl ..

theorem lower_consOutside (c : Char) (ps : List Piece) :
    (consOutside c ps).flatMap (Piece.lower tag) = c :: ps.flatMap (Piece.lower tag) := by
  cases ps with
  | nil => rfl
  | cons piece ps => cases piece <;> rfl

theorem render_eq (tag : Tag) (attributes body : Text) : render tag attributes body =
    ('<' :: tag.name) ++ (attributes ++ '>' :: body ++ closingWord tag) := by
  simp [render, closingWord]

theorem block_text_eq (block : Block) : block.text =
    block.opening ++ (block.attributes ++ '>' :: block.body ++ block.closing) := by
  simp [Block.text]

theorem respelled_render (h : block.IsWritten tag) (letters : Text) :
    Respelled tag letters block.text (render tag block.attributes block.body) := by
  rw [render_eq, block_text_eq]
  exact (respelled_opening h.opening).append fun letters =>
    (Respelled.refl tag letters _).append fun letters => respelled_closing h.closing

theorem render_eq_text_iff (h : block.IsWritten tag) :
    render tag block.attributes block.body = block.text ↔
      block.opening = '<' :: tag.name ∧ block.closing = closingWord tag := by
  rw [render_eq, block_text_eq]
  constructor
  · intro heq
    obtain ⟨hopening, hrest⟩ := List.append_inj heq (Text.length_eq_of_map_foldCase h.opening).symm
    exact ⟨hopening.symm, (List.append_cancel_left hrest).symm⟩
  · rintro ⟨hopening, hclosing⟩
    rw [hopening, hclosing]

/-- Where a text has its tags put in lower case, it is respelled. -/
theorem respelled_lower (h : Splits tag text ps) (letters : Text) :
    Respelled tag letters text (ps.flatMap (Piece.lower tag)) := by
  induction h generalizing letters with
  | nil => exact .nil
  | block hwritten _ ih => exact (respelled_render hwritten letters).append ih
  | outside _ _ ih =>
    rw [lower_consOutside]
    exact .cons (.inl rfl) (ih _)

theorem respelled_lowerTags (tag : Tag) (letters text : Text) :
    Respelled tag letters text (lowerTags tag text) :=
  respelled_lower (splits_iff.mpr rfl) letters

theorem all_isBlank_lowerTags (tag : Tag) (text : Text) :
    (lowerTags tag text).all Text.isBlank = text.all Text.isBlank := by
  have hall {text made : Text} (h : text.map foldCase = made.map foldCase)
      (hblank : text.all Text.isBlank = true) : made.all Text.isBlank = true :=
    List.all_eq_true.mpr
      (Text.forall_mem_of_map_foldCase Text.isBlank_foldCase h (List.all_eq_true.mp hblank))
  have hfold := (respelled_lowerTags tag [] text).map_foldCase_eq
  exact Bool.eq_iff_iff.mpr ⟨hall hfold.symm, hall hfold⟩

/-- The tags of the blocks of a component are in lower case. -/
def TagsAreLower (source : Text) : Prop :=
  ∀ tag : Tag, ∀ block ∈ blocks (pieces tag source),
    block.opening = '<' :: tag.name ∧ block.closing = closingWord tag

theorem lower_eq_iff (h : Splits tag text ps) : ps.flatMap (Piece.lower tag) = text ↔
    ∀ block ∈ blocks ps, block.opening = '<' :: tag.name ∧ block.closing = closingWord tag := by
  induction h with
  | nil => exact iff_of_true rfl nofun
  | @block block after ps hwritten _ ih =>
    have hlength : (render tag block.attributes block.body).length = block.text.length := by
      simpa using congrArg List.length (respelled_render hwritten []).map_foldCase_eq.symm
    have hblocks : blocks (.block block :: ps) = block :: blocks ps := rfl
    rw [hblocks, List.forall_mem_cons, ← render_eq_text_iff hwritten, ← ih]
    exact ⟨fun h => List.append_inj h hlength, fun h => congrArg₂ _ h.1 h.2⟩
  | outside _ _ ih =>
    rw [lower_consOutside, blocks_consOutside, ← ih, List.cons_inj_right]

/-- Putting the tags of both kinds in lower case leaves a component as it is if they were. -/
theorem lowerTags_lowerTags_eq_iff (source : Text) :
    lowerTags .style (lowerTags .script source) = source ↔ TagsAreLower source := by
  have hlower (tag : Tag) : lowerTags tag source = source ↔ _ :=
    lower_eq_iff (splits_iff.mpr rfl : Splits tag source (pieces tag source))
  constructor
  · intro h
    -- What the second pass would have to undo it cannot, since it puts letters in lower case too.
    have hscript : lowerTags .script source = source := by
      have hback := respelled_lowerTags .style [] (lowerTags .script source)
      rw [h] at hback
      exact (respelled_lowerTags .script [] source).antisymm hback
    rw [hscript] at h
    intro tag
    cases tag with
    | script => exact (hlower .script).mp hscript
    | style => exact (hlower .style).mp h
  · intro h
    rw [(hlower .script).mpr (h .script), (hlower .style).mpr (h .style)]

/-- A component that is not blank and that the pipeline leaves alone comes out with its tags in lower
case, and as it is exactly if they were. -/
theorem LeavesAlone.run_eq_some (h : LeavesAlone pipeline files source path)
    (hblank : source.all Text.isBlank = false) :
    pipeline.run files source path = .ok (some (lowerTags .style (lowerTags .script source))) ∧
      (pipeline.run files source path = .ok (some source) ↔ TagsAreLower source) := by
  have hrun : pipeline.run files source path =
      .ok (some (lowerTags .style (lowerTags .script source))) := by
    rw [h.run_eq, all_isBlank_lowerTags, all_isBlank_lowerTags, hblank]
    rfl
  refine ⟨hrun, ?_⟩
  rw [hrun, ← lowerTags_lowerTags_eq_iff]
  simp

/-- No script of the component is typed, and no style is in a nested notation. -/
structure IsPlainNotation (source : Text) : Prop where
  script : ∀ block ∈ blocks (pieces .script source),
    isTyped (Attributes.ofText block.attributes) = false
  style : ∀ block ∈ blocks (pieces .style source),
    hasLanguage (Attributes.ofText block.attributes) "scss".toList = false ∧
      hasLanguage (Attributes.ofText block.attributes) "sass".toList = false

/-- Respelling the scripts of a text does not change the language of a style. -/
theorem hasLanguage_of_respelled {language : Text} (hlanguage : '<' ∉ language)
    (h : Respelled .script [] text made) :
    hasLanguage (Attributes.ofText made) language = hasLanguage (Attributes.ofText text) language := by
  have hname {word value : Text} (hword : word.head?.map foldCase ≠ Tag.script.name.head?)
      (hvalue : '<' ∉ value) := Attributes.get?_ofText_of_respelled hword hvalue h
  rw [Bool.eq_iff_iff]
  simp only [hasLanguage, Bool.or_eq_true, beq_iff_eq]
  rw [hname (by decide) hlanguage, hname (by decide) (by simp [hlanguage])]

theorem IsPlainNotation.leavesAlone (h : IsPlainNotation source) :
    LeavesAlone standardPipeline files source path where
  markup p hp := by
    simp only [standardPipeline, List.mem_cons, List.not_mem_nil, or_false] at hp
    rcases hp with rfl | rfl | rfl <;> rfl
  script p hp block hblock := by
    simp only [standardPipeline, List.mem_cons, List.not_mem_nil, or_false] at hp
    rcases hp with rfl | rfl | rfl
    · rfl
    · exact if_neg (Bool.eq_false_iff.mp (h.script block hblock))
    · rfl
  style p hp block hblock := by
    have hsplits : Splits .style source (pieces .style source) := splits_iff.mpr rfl
    obtain ⟨ps, hps, hblocks⟩ := hsplits.exists_of_respelled (respelled_lowerTags .script [] source)
    rw [splits_iff.mp hps] at hblock
    obtain ⟨written, hwritten, hrespelled⟩ := hblocks block hblock
    obtain ⟨hscss, hsass⟩ := h.style written hwritten
    rw [← hasLanguage_of_respelled (by decide) hrespelled] at hscss hsass
    simp only [standardPipeline, List.mem_cons, List.not_mem_nil, or_false] at hp
    rcases hp with rfl | rfl | rfl
    · exact if_neg (Bool.eq_false_iff.mp hscss)
    · rfl
    · exact if_neg (Bool.eq_false_iff.mp hsass)

/-- A component that is not blank, and about which no hook of the pipeline has anything to say, comes out
with the tags of its blocks in lower case, and so as it is exactly if they were. The hooks of the standard
pipeline have nothing to say where no script is typed and no style is in a nested notation. -/
theorem untouched_iff_tagsAreLower (files : Style.Files) (source : Text) (path : Path)
    (hblank : source.all Text.isBlank = false) :
    (∀ pipeline, LeavesAlone pipeline files source path →
        Pipeline.run pipeline files source path =
            .ok (some (lowerTags .style (lowerTags .script source))) ∧
          (Pipeline.run pipeline files source path = .ok (some source) ↔ TagsAreLower source)) ∧
      (IsPlainNotation source →
        standardPipeline.run files source path =
            .ok (some (lowerTags .style (lowerTags .script source))) ∧
          (standardPipeline.run files source path = .ok (some source) ↔ TagsAreLower source)) :=
  ⟨fun _ halone => halone.run_eq_some hblank, fun hplain => hplain.leavesAlone.run_eq_some hblank⟩

/-- A component with scripts and a style in plain notation, and what looks like a tag in other words. -/
def plainComponent : Text :=
  ("<script lang='js'>let a = '</style>';</script >\n<SCRIPTS></script>" ++
    "<style type=text/css></style >\n</style>").toList

theorem untouched_iff_tagsAreLower_plainComponent : TagsAreLower plainComponent ∧
    standardPipeline.run noStyleFiles plainComponent (.ofString "/App.svelte") =
      .ok (some plainComponent) := by
  have hplain : IsPlainNotation plainComponent := ⟨by decide +kernel, by decide +kernel⟩
  have hlower : TagsAreLower plainComponent := fun tag => by cases tag <;> decide +kernel
  have hblank : plainComponent.all Text.isBlank = false := by decide
  have hrun := (untouched_iff_tagsAreLower noStyleFiles plainComponent (.ofString "/App.svelte") hblank).2
    hplain
  exact ⟨hlower, hrun.2.mpr hlower⟩

def capitalComponent : Text := "<SCRIPT>let a = 1;</SCRIPT>".toList

/-- Not every component that a pipeline has nothing to say about comes out as it is. -/
theorem untouched_changes_tags : ¬∀ pipeline files source path, source.all Text.isBlank = false →
    LeavesAlone pipeline files source path →
      Pipeline.run pipeline files source path = .ok (some source) := by
  intro hall
  have hplain : IsPlainNotation capitalComponent := ⟨by decide +kernel, by decide +kernel⟩
  have hblank : capitalComponent.all Text.isBlank = false := by decide
  have halone : LeavesAlone standardPipeline noStyleFiles capitalComponent (.ofString "/App.svelte") :=
    hplain.leavesAlone
  have hlower := (halone.run_eq_some hblank).2.mp (hall _ _ _ _ hblank halone)
  have hblock : (⟨"<SCRIPT".toList, [], "let a = 1;".toList, "</SCRIPT>".toList⟩ : Block) ∈
      blocks (pieces .script capitalComponent) := by decide +kernel
  exact absurd (hlower .script _ hblock).1 (by decide)

end ComponentBundle
