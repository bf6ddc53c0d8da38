import ComponentBundle.Proofs.Markup.Emitted
import ComponentBundle.Proofs.Markup.Splitting

/-!
# What cutting leaves

The markup of a component is what is left when its scripts are cut out, and then the styles of what is
left. Closing tags are looked for in the source, so an opening tag is in the markup exactly if a cut has
put it together, or if what is left without scripts has a style that is not closed there.
-/
namespace ComponentBundle.Markup

open Text (foldCase)

variable {tag : Tag} {name text rest start : Text} {texts : List Text}

/-- When the texts are joined, a tag of the name opens where `start` begins, the end of one of them. -/
inductive OpensAt (name : Text) : (texts : List Text) → (start : Text) → Prop where
  | here {text start : Text} {texts : List Text} (suffix : start <:+ text) (ne_nil : start ≠ [])
      (opens : (afterOpening? name (start ++ texts.flatten)).isSome) :
      OpensAt name (text :: texts) start
  | later {text start : Text} {texts : List Text} (h : OpensAt name texts start) :
      OpensAt name (text :: texts) start

/-- When the texts are joined, a tag opens within one of them. -/
def OpensWithin (name : Text) (texts : List Text) : Prop :=
  ∃ start, OpensAt name texts start ∧ name.length < start.length

/-- When the texts are joined, a tag opens that begins in one of them and goes on in the next. -/
def OpensAcross (name : Text) (texts : List Text) : Prop :=
  ∃ start, OpensAt name texts start ∧ start.length ≤ name.length

theorem opens_flatten_iff : Opens name texts.flatten ↔ ∃ start, OpensAt name texts start := by
  induction texts with
  | nil => exact iff_of_false not_opens_nil nofun
  | cons text texts ih =>
    rw [List.flatten_cons, opens_append_iff, ih]
    constructor
    · rintro (⟨start, hsuffix, hne, hopens⟩ | ⟨start, h⟩)
      · exact ⟨start, .here hsuffix hne hopens⟩
      · exact ⟨start, .later h⟩
    · rintro ⟨start, ⟨hsuffix, hne, hopens⟩ | h⟩
      · exact .inl ⟨start, hsuffix, hne, hopens⟩
      · exact .inr ⟨start, h⟩

theorem opens_flatten_iff_across : Opens name texts.flatten ↔
    OpensAcross name texts ∨ OpensWithin name texts := by
  rw [opens_flatten_iff]
  constructor
  · rintro ⟨start, h⟩
    rcases Nat.lt_or_ge name.length start.length with hlength | hlength
    · exact .inr ⟨start, h, hlength⟩
    · exact .inl ⟨start, h, hlength⟩
  · rintro (⟨start, h, -⟩ | ⟨start, h, -⟩)
    · exact ⟨start, h⟩
    · exact ⟨start, h⟩

theorem OpensWithin.exists_opens (h : OpensWithin name texts) : ∃ text ∈ texts, Opens name text := by
  obtain ⟨start, hstart, hlength⟩ := h
  induction hstart with
  | @here text start texts hsuffix _ hopens =>
    obtain ⟨front, rest, hsplit, hfront, hend⟩ := isSome_afterOpening?_iff.mp hopens
    have hfrontLength : front.length = name.length + 1 := Text.length_eq_of_map_foldCase hfront
    have hbegins : front <+: start ++ texts.flatten := ⟨rest, hsplit.symm⟩
    have hfits : front <+: start :=
      List.prefix_of_prefix_length_le hbegins (List.prefix_append ..) (by omega)
    exact ⟨text, List.mem_cons_self, start, hsuffix,
      isSome_afterOpening?_of_append hfront hfits hsplit hend⟩
  | later _ ih =>
    obtain ⟨text, htext, hopens⟩ := ih hlength
    exact ⟨text, List.mem_cons_of_mem _ htext, hopens⟩

variable {ps : List Piece} {c : Char}

theorem mem_stretches_of_mem_afterLeading (h : text ∈ stretches (afterLeading ps)) :
    text ∈ stretches ps := by
  cases ps with
  | nil => exact h
  | cons piece ps =>
    cases piece with
    | outside _ => exact List.mem_cons_of_mem _ h
    | block _ => exact h

theorem Splits.opens_of_mem {stretch : Text} (h : Splits tag text ps) (hmem : stretch ∈ stretches ps)
    (other : Tag) (hopens : Opens other.name stretch) : Opens other.name text := by
  induction h with
  | nil => cases hmem
  | block _ _ ih => exact (ih hmem).of_suffix (List.suffix_append ..)
  | @outside c text ps _ hrest ih =>
    rw [consOutside_eq] at hmem
    rcases List.mem_cons.mp hmem with rfl | hmem
    · obtain ⟨behind, rfl, hmark⟩ := hrest.exists_eq_leading_append
      rw [← List.cons_append, opens_append_iff_of_head? fun d hd =>
        hmark d hd ▸ bracket_notMem_name other]
      exact .inl hopens
    · exact (ih (mem_stretches_of_mem_afterLeading hmem)).of_suffix (List.suffix_cons ..)

/-- A tag that opens without a block has none behind it. -/
theorem Splits.afterLeading_eq_nil (h : Splits tag text ps)
    (hopens : (afterOpening? tag.name (c :: leading ps)).isSome)
    (hnone : Block.ofText? tag (c :: text) = none) : afterLeading ps = [] := by
  rcases h.leading_cases with ⟨hps, -⟩ | ⟨block, after, hwritten, rfl⟩
  · exact hps
  · obtain ⟨rest, hrest⟩ := Option.isSome_iff_exists.mp hopens
    obtain ⟨inner, hinner⟩ := hwritten.exists_text_eq
    have hfound : afterOpening? tag.name (c :: leading ps ++ (block.text ++ after)) =
        some (rest ++ (block.text ++ after)) :=
      afterOpening?_append hrest (by simp [hinner, (bracket_notMem_name tag).2])
    have hblock := Block.isSome_ofText?_of_suffix hfound hwritten (List.suffix_append ..)
    rw [List.cons_append, hnone] at hblock
    cases hblock

theorem OpensAt.consOutside (h : OpensAt name (stretches ps) start) (c : Char) :
    OpensAt name (stretches (consOutside c ps)) start := by
  cases ps with
  | nil => cases h
  | cons piece ps =>
    cases piece with
    | block _ => exact .later h
    | outside text =>
      cases h with
      | here hsuffix hne hopens => exact .here (hsuffix.trans (List.suffix_cons ..)) hne hopens
      | later h => exact .later h

/-- Where the stretches are joined, a tag that opens in one of them still does. -/
theorem Splits.opensWithin (h : Splits tag text ps)
    (hopens : ∃ stretch ∈ stretches ps, Opens tag.name stretch) :
    OpensWithin tag.name (stretches ps) := by
  induction h with
  | nil => simp [stretches] at hopens
  | block _ _ ih => exact ih hopens
  | @outside c text ps hnone hrest ih =>
    -- Where the tag opens here, no block follows: this stretch is the last, and nothing is joined to it.
    by_cases hhere : (afterOpening? tag.name (c :: leading ps)).isSome
    · rw [consOutside_eq, hrest.afterLeading_eq_nil hhere hnone]
      exact ⟨c :: leading ps, .here (List.suffix_refl _) (List.cons_ne_nil _ _) (by simpa using hhere),
        length_lt_of_isSome_afterOpening? hhere⟩
    · have hrest : ∃ stretch ∈ stretches ps, Opens tag.name stretch := by
        refine Classical.byContradiction fun hno => ?_
        obtain ⟨hleading, hafter⟩ := forall_stretches_iff.mp fun stretch hmem hopens =>
          hno ⟨stretch, hmem, hopens⟩
        obtain ⟨stretch, hmem, hopens⟩ := hopens
        rw [consOutside_eq] at hmem
        rcases List.mem_cons.mp hmem with rfl | hmem
        · exact hleading ((opens_cons_iff.mp hopens).resolve_left hhere)
        · exact hafter stretch hmem hopens
      obtain ⟨start, hstart, hlength⟩ := ih hrest
      exact ⟨start, hstart.consOutside c, hlength⟩

/-- Within a stretch a tag opens exactly if it is not closed. -/
theorem opensWithin_stretches_iff :
    OpensWithin tag.name (stretches (pieces tag text)) ↔ checkClosed text tag ≠ .ok () := by
  rw [Ne, checkClosed_eq_ok_iff]
  constructor
  · intro h hall
    obtain ⟨stretch, hmem, hopens⟩ := h.exists_opens
    exact hall stretch hmem hopens
  · intro h
    refine (splits_iff.mpr rfl).opensWithin (Classical.byContradiction fun hno => h ?_)
    exact fun stretch hmem hopens => hno ⟨stretch, hmem, hopens⟩

/-- What is left of a component without its scripts. -/
def withoutScripts (source : Text) : Text := outside (pieces .script source)

/-- The stretches between the scripts of a component. -/
def scriptCut (source : Text) : List Text := stretches (pieces .script source)

/-- The stretches between the styles of what is left without scripts. -/
def styleCut (source : Text) : List Text := stretches (pieces .style (withoutScripts source))

theorem withoutScripts_eq (source : Text) : withoutScripts source = (scriptCut source).flatten :=
  outside_eq_flatten _

theorem template_eq (source : Text) : template source = Text.trim (styleCut source).flatten :=
  congrArg Text.trim (outside_eq_flatten _)

/-- The text ends in the beginning of an opening tag. -/
def EndsInOpening (name text : Text) : Prop :=
  ∃ start, start <:+ text ∧ start ≠ [] ∧ start.length ≤ name.length ∧
    start.map foldCase <+: '<' :: name

theorem OpensAcross.exists_endsInOpening (h : OpensAcross name texts) :
    ∃ text ∈ texts.dropLast, EndsInOpening name text := by
  obtain ⟨start, hstart, hlength⟩ := h
  induction hstart with
  | @here text start texts hsuffix hne hopens =>
    have htexts : texts ≠ [] := by
      rintro rfl
      rw [List.flatten_nil, List.append_nil] at hopens
      exact Nat.not_lt.mpr hlength (length_lt_of_isSome_afterOpening? hopens)
    obtain ⟨front, rest, hsplit, hfront, -⟩ := isSome_afterOpening?_iff.mp hopens
    have hfrontLength : front.length = name.length + 1 := Text.length_eq_of_map_foldCase hfront
    obtain ⟨beyond, rfl⟩ : start <+: front :=
      List.prefix_of_prefix_length_le (List.prefix_append start texts.flatten)
        ⟨rest, hsplit.symm⟩ (by omega)
    rw [List.dropLast_cons_of_ne_nil htexts]
    refine ⟨text, List.mem_cons_self, start, hsuffix, hne, hlength, beyond.map foldCase, ?_⟩
    rw [← List.map_append, hfront]
  | @later text start texts _ ih =>
    obtain ⟨found, hmem, hends⟩ := ih hlength
    have htexts : texts ≠ [] := List.ne_nil_of_mem (List.dropLast_subset texts hmem)
    rw [List.dropLast_cons_of_ne_nil htexts]
    exact ⟨found, List.mem_cons_of_mem _ hmem, hends⟩

/-- A tag that opens in a stretch of what is left without scripts was put together by cutting them. -/
theorem opensAcross_scriptCut {source : Text} (hclosed : checkClosed source .script = .ok ())
    (h : OpensWithin Tag.script.name (styleCut source)) :
    OpensAcross Tag.script.name (scriptCut source) := by
  obtain ⟨stretch, hmem, hopens⟩ := h.exists_opens
  have hsplits : Splits .style (withoutScripts source) (pieces .style (withoutScripts source)) :=
    splits_iff.mpr rfl
  have hleft : Opens Tag.script.name (withoutScripts source) :=
    hsplits.opens_of_mem hmem .script hopens
  rw [withoutScripts_eq, opens_flatten_iff_across] at hleft
  exact hleft.resolve_right fun hwithin => opensWithin_stretches_iff.mp hwithin hclosed

theorem opens_template_iff_across {source : Text} : Opens tag.name (template source) ↔
    OpensAcross tag.name (styleCut source) ∨ OpensWithin tag.name (styleCut source) := by
  rw [template_eq, opens_trim_iff, opens_flatten_iff_across]

/-- The markup that an accepted component embeds opens a style exactly if cutting out styles puts the tag
together, or if one is not closed in what is left without scripts. It opens a script exactly if cutting
out styles puts the tag together, or if it opens in a stretch between them, and then cutting out scripts
has put it together. So it opens neither if no stretch in front of a cut ends in the beginning of a tag
and all styles are closed in what is left without scripts. -/
theorem opens_template_iff {source : Text} {file : Path} {output : MarkupOutput}
    (h : compile source file = .ok output) :
    (∃ statements, output.script = statements ++ renderTemplate (template source).quote) ∧
      (Opens Tag.style.name (template source) ↔
        OpensAcross Tag.style.name (styleCut source) ∨
          checkClosed (withoutScripts source) .style ≠ .ok ()) ∧
      (Opens Tag.script.name (template source) ↔
        OpensAcross Tag.script.name (styleCut source) ∨
          OpensWithin Tag.script.name (styleCut source)) ∧
      (OpensWithin Tag.script.name (styleCut source) →
        OpensAcross Tag.script.name (scriptCut source)) ∧
      ((∀ stretch ∈ (scriptCut source).dropLast, ¬EndsInOpening Tag.script.name stretch) →
        (∀ stretch ∈ (styleCut source).dropLast, ∀ tag : Tag, ¬EndsInOpening tag.name stretch) →
        checkClosed (withoutScripts source) .style = .ok () →
          ∀ tag : Tag, ¬Opens tag.name (template source)) := by
  have hstyle : Opens Tag.style.name (template source) ↔
      OpensAcross Tag.style.name (styleCut source) ∨
        checkClosed (withoutScripts source) .style ≠ .ok () := by
    rw [opens_template_iff_across, styleCut, opensWithin_stretches_iff]
  have hclosed := checkClosed_of_compile h .script
  have hacross (tag : Tag) (texts : List Text)
      (hends : ∀ stretch ∈ texts.dropLast, ¬EndsInOpening tag.name stretch) : ¬OpensAcross tag.name texts :=
    fun hopens => by
      obtain ⟨stretch, hmem, hend⟩ := hopens.exists_endsInOpening
      exact hends stretch hmem hend
  refine ⟨⟨_, script_compile h⟩, hstyle, opens_template_iff_across, opensAcross_scriptCut hclosed, ?_⟩
  intro hscripts hstyles hleft tag hopens
  cases tag with
  | script =>
    rcases opens_template_iff_across.mp hopens with hopens | hopens
    · exact hacross _ _ (fun stretch hmem => hstyles stretch hmem .script) hopens
    · exact hacross _ _ hscripts (opensAcross_scriptCut hclosed hopens)
  | style =>
    rcases hstyle.mp hopens with hopens | hopens
    · exact hacross _ _ (fun stretch hmem => hstyles stretch hmem .style) hopens
    · exact hopens hleft

def scriptInTag : Text := "<scr<script></script>ipt>".toList

theorem opens_template_iff_scriptInTag :
    ∃ output, compile scriptInTag (.ofString "/App.svelte") = .ok output ∧
      Opens Tag.script.name (template scriptInTag) ∧
      OpensAcross Tag.script.name (scriptCut scriptInTag) := by
  obtain ⟨output, hcompile⟩ : ∃ output,
      compile scriptInTag (.ofString "/App.svelte") = .ok output :=
    exists_output (by decide +kernel)
  have hcut : styleCut scriptInTag = ["<script>".toList] := by decide +kernel
  have hwithin : OpensWithin Tag.script.name (styleCut scriptInTag) := by
    rw [hcut]
    exact ⟨_, .here (List.suffix_refl _) (by decide) (by decide +kernel), by decide⟩
  obtain ⟨-, -, hopens, hacross, -⟩ := opens_template_iff hcompile
  exact ⟨output, hcompile, hopens.mpr (.inr hwithin), hacross hwithin⟩

def crossedComments : Text := "<style>A<script>/*</style>*/</script>B".toList

/-- A block can be left in the markup. -/
theorem template_keeps_tag :
    ¬∀ source file output, compile source file = .ok output →
      ∀ tag : Tag, ¬Opens tag.name (template source) := by
  intro hnone
  obtain ⟨output, hcompile⟩ : ∃ output,
      compile crossedComments (.ofString "/App.svelte") = .ok output :=
    exists_output (by decide +kernel)
  have htemplate : template crossedComments = "<style>AB".toList := by decide +kernel
  refine hnone _ _ _ hcompile .style ?_
  rw [htemplate]
  exact ⟨_, List.suffix_refl _, by decide +kernel⟩

end ComponentBundle.Markup
