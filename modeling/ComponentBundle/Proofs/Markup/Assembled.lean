import ComponentBundle.Proofs.Markup.Emitted
import ComponentBundle.Proofs.Markup.Splitting

/-!
# Assembled components

A component is put together from markup and from elements, scripts and styles. The elements of a tag come
out as its blocks exactly if the tag opens in nothing between them, and what is compiled then are their
bodies, with the markup in one piece. An element of one tag may hold the other one: between the scripts
there are the styles, and between the styles the scripts, whatever is written in them.
-/
namespace ComponentBundle.Markup

/-- A part of a component. -/
inductive Part where
  | markup (text : Text)
  | element (tag : Tag) (attributes body : Text)

namespace Part

/-- The part as it is written. -/
def text : Part → Text
  | .markup text => text
  | .element tag attributes body => Pipeline.render tag attributes body

def block? (tag : Tag) : Part → Option Block
  | .markup _ => none
  | .element other attributes body =>
    if other = tag then some ⟨'<' :: tag.name, attributes, body, closingWord tag⟩ else none

/-- The attributes end with their tag and are apart from its name, and the body ends with its element. -/
def Fits : Part → Prop
  | .markup _ => True
  | .element tag attributes body =>
    '>' ∉ attributes ∧ (∀ c ∈ attributes.head?, Text.isBlank c = true) ∧ Unclosed tag body

instance : DecidablePred Fits
  | .markup _ => isTrue trivial
  | .element tag attributes body =>
    decidable_of_iff ('>' ∉ attributes ∧ attributes.head?.all Text.isBlank = true ∧
      Unclosed tag body) (by rw [Option.all_eq_true]; rfl)

variable {tag : Tag} {part : Part} {block : Block}

theorem text_eq_of_block? (h : part.block? tag = some block) : part.text = block.text := by
  cases part with
  | markup _ => cases h
  | element other attributes body =>
    obtain ⟨rfl, hblock⟩ := Option.ite_none_right_eq_some.mp h
    obtain rfl := Option.some.inj hblock
    simp [text, Pipeline.render, Block.text, closingWord]

theorem isWritten_of_block? (hfits : part.Fits) (h : part.block? tag = some block) :
    block.IsWritten tag := by
  cases part with
  | markup _ => cases h
  | element other attributes body =>
    obtain ⟨rfl, hblock⟩ := Option.ite_none_right_eq_some.mp h
    obtain rfl := Option.some.inj hblock
    obtain ⟨hmark, hblank, hbody⟩ := hfits
    have hopening : ('<' :: other.name).map Text.foldCase = '<' :: other.name := by
      cases other <;> decide
    have hclosing : (closingWord other).map Text.foldCase = closingWord other := by
      cases other <;> decide
    refine ⟨hopening, ?_, hmark, hbody, hclosing⟩
    cases attributes with
    | nil => rfl
    | cons c attributes =>
      simpa [Text.atWordEnd] using Text.isWord_eq_false_of_isBlank (hblank c rfl)

end Part

/-- The component that consists of the parts. -/
def assemble (parts : List Part) : Text := parts.flatMap Part.text

/-- The elements of a tag as its blocks, and all else as what is between them. -/
def piecesOf (tag : Tag) : List Part → List Piece
  | [] => []
  | part :: parts =>
    match part.block? tag with
    | some block => .block block :: piecesOf tag parts
    | none => part.text.foldr consOutside (piecesOf tag parts)

/-- Between the elements of a tag the tag does not open. -/
def Apart (tag : Tag) (parts : List Part) : Prop :=
  ∀ stretch ∈ stretches (piecesOf tag parts), ¬Opens tag.name stretch

instance (tag : Tag) (parts : List Part) : Decidable (Apart tag parts) :=
  inferInstanceAs (Decidable (∀ stretch ∈ stretches (piecesOf tag parts), ¬Opens tag.name stretch))

variable {tag : Tag} {name text rest : Text} {ps : List Piece} {parts : List Part} {c : Char}

theorem forall_stretches_of_consOutside
    (h : ∀ stretch ∈ stretches (consOutside c ps), ¬Opens name stretch) :
    (afterOpening? name (c :: leading ps)).isSome = false ∧
      ∀ stretch ∈ stretches ps, ¬Opens name stretch := by
  rw [consOutside_eq] at h
  obtain ⟨hfirst, hrest⟩ := List.forall_mem_cons.mp h
  rw [opens_cons_iff, not_or] at hfirst
  exact ⟨by simpa using hfirst.1, forall_stretches_iff.mpr ⟨hfirst.2, hrest⟩⟩

theorem forall_stretches_of_foldr
    (h : ∀ stretch ∈ stretches (text.foldr consOutside ps), ¬Opens name stretch) :
    ∀ stretch ∈ stretches ps, ¬Opens name stretch := by
  induction text with
  | nil => exact h
  | cons c text ih => exact ih (forall_stretches_of_consOutside h).2

/-- Text in which the tag does not open is all outside. -/
theorem Splits.append (h : Splits tag rest ps)
    (hopens : ∀ stretch ∈ stretches (text.foldr consOutside ps), ¬Opens tag.name stretch) :
    Splits tag (text ++ rest) (text.foldr consOutside ps) := by
  -- What follows begins with a block or ends, so the tag opens in front of it as it does in the stretch.
  induction text with
  | nil => exact h
  | cons c text ih =>
    obtain ⟨hhere, hnext⟩ := forall_stretches_of_consOutside hopens
    have hsplits := ih hnext
    refine .outside (Block.ofText?_eq_none ?_) hsplits
    exact (hsplits.isSome_afterOpening?_cons c tag).trans hhere

theorem splits_assemble (hfits : ∀ part ∈ parts, part.Fits) (happart : Apart tag parts) :
    Splits tag (assemble parts) (piecesOf tag parts) := by
  induction parts with
  | nil => exact .nil
  | cons part parts ih =>
    obtain ⟨hpart, hparts⟩ := List.forall_mem_cons.mp hfits
    rw [Apart, piecesOf] at happart
    rw [piecesOf, assemble, List.flatMap_cons]
    split at happart
    · rename_i block hblock
      rw [Part.text_eq_of_block? hblock]
      exact .block (Part.isWritten_of_block? hpart hblock) (ih hparts happart)
    · exact (ih hparts (forall_stretches_of_foldr happart)).append happart

/-- The elements of a tag come out as its blocks, all of them closed, exactly if the tag does not open
between them. -/
theorem pieces_assemble_iff (hfits : ∀ part ∈ parts, part.Fits) :
    pieces tag (assemble parts) = piecesOf tag parts ∧ checkClosed (assemble parts) tag = .ok () ↔
      Apart tag parts := by
  rw [checkClosed_eq_ok_iff]
  constructor
  · rintro ⟨hpieces, hopens⟩
    rwa [hpieces] at hopens
  · intro hparts
    have hpieces := splits_iff.mp (splits_assemble hfits hparts)
    exact ⟨hpieces, by rwa [hpieces]⟩

/-- The bodies of the elements of a tag. -/
def bodies (tag : Tag) (parts : List Part) : List Text :=
  (parts.filterMap (Part.block? tag)).map (·.body)

/-- The parts that are no elements of a tag. -/
def without (tag : Tag) (parts : List Part) : List Part :=
  parts.filter fun part => (part.block? tag).isNone

/-- The markup, put together. -/
def markup (parts : List Part) : Text :=
  parts.flatMap fun
    | .markup text => text
    | .element .. => []

/-- The script is a module without a default export. -/
def IsModule (script : Text) : Prop :=
  match Script.outline script with
  | .ok items => ∀ item ∈ items, item.kind ≠ .defaultExport
  | .error _ => False

instance (script : Text) : Decidable (IsModule script) :=
  match h : Script.outline script with
  | .ok items => decidable_of_iff (∀ item ∈ items, item.kind ≠ .defaultExport) (by simp [IsModule, h])
  | .error _ => isFalse (by simp [IsModule, h])

theorem outside_consOutside (c : Char) (ps : List Piece) :
    outside (consOutside c ps) = c :: outside ps := by
  cases ps with
  | nil => rfl
  | cons piece ps => cases piece <;> rfl

theorem outside_foldr (text : Text) (ps : List Piece) :
    outside (text.foldr consOutside ps) = text ++ outside ps := by
  induction text with
  | nil => rfl
  | cons c text ih => rw [List.foldr_cons, outside_consOutside, ih, List.cons_append]

theorem outside_piecesOf (tag : Tag) (parts : List Part) :
    outside (piecesOf tag parts) = assemble (without tag parts) := by
  induction parts with
  | nil => rfl
  | cons part parts ih =>
    rw [piecesOf]
    split
    · rename_i block hblock
      simpa [outside, without, hblock] using ih
    · rename_i hnone
      rw [outside_foldr, ih]
      simp [without, assemble, hnone]

def blocks (ps : List Piece) : List Block :=
  ps.filterMap fun
    | .outside _ => none
    | .block found => some found

theorem blocks_consOutside (c : Char) (ps : List Piece) : blocks (consOutside c ps) = blocks ps := by
  cases ps with
  | nil => rfl
  | cons piece ps => cases piece <;> rfl

theorem blocks_foldr (text : Text) (ps : List Piece) :
    blocks (text.foldr consOutside ps) = blocks ps := by
  induction text with
  | nil => rfl
  | cons c text ih => rw [List.foldr_cons, blocks_consOutside, ih]

theorem map_snd_blocksAfter (before : Text) (ps : List Piece) :
    (blocksAfter before ps).map (·.2) = blocks ps := by
  induction ps generalizing before with
  | nil => rfl
  | cons piece ps ih => cases piece <;> simp [blocksAfter, blocks, ih]

theorem blocks_piecesOf (tag : Tag) (parts : List Part) :
    blocks (piecesOf tag parts) = parts.filterMap (Part.block? tag) := by
  induction parts with
  | nil => rfl
  | cons part parts ih =>
    rw [piecesOf]
    split
    · rename_i block hblock
      simpa [blocks, hblock] using ih
    · rename_i hnone
      rw [blocks_foldr, ih, List.filterMap_cons_none hnone]

theorem map_body_blocksAfter (tag : Tag) (parts : List Part) :
    (blocksAfter [] (piecesOf tag parts)).map (·.2.body) = bodies tag parts := by
  rw [bodies, ← blocks_piecesOf, ← map_snd_blocksAfter [], List.map_map]
  rfl

theorem assemble_without_without (parts : List Part) :
    assemble (without .style (without .script parts)) = markup parts := by
  induction parts with
  | nil => rfl
  | cons part parts ih =>
    cases part with
    | markup text => exact congrArg (text ++ ·) ih
    | element tag attributes body => cases tag <;> exact ih

theorem exists_addScript {source before script : Text} {found : Statements} (h : IsModule script) :
    ∃ result, addScript source before script found = .ok result := by
  rw [IsModule] at h
  split at h
  · rename_i items hitems
    have hfind : (items.find? fun item => item.kind = .defaultExport) = none := by
      rw [List.find?_eq_none]
      exact fun item hitem => by simpa using h item hitem
    rw [addScript, hitems]
    simp only [hfind]
    exact ⟨_, rfl⟩
  · cases h

theorem exists_statements {source : Text} {found : Statements} {blocks : List (Text × Block)}
    (h : ∀ body ∈ blocks.map (·.2.body), IsModule body) :
    ∃ result, blocks.foldlM (fun found (before, block) =>
      addScript source (before ++ block.opening ++ block.attributes ++ ['>']) block.body found)
      found = .ok result := by
  induction blocks generalizing found with
  | nil => exact ⟨found, rfl⟩
  | cons head blocks ih =>
    obtain ⟨before, block⟩ := head
    obtain ⟨next, hnext⟩ : ∃ next, addScript source
        (before ++ block.opening ++ block.attributes ++ ['>']) block.body found = .ok next :=
      exists_addScript (h _ List.mem_cons_self)
    simp only [List.foldlM_cons, hnext]
    exact ih fun body hbody => h body (List.mem_cons_of_mem _ hbody)

theorem exists_compile_assemble (file : Path) (hfits : ∀ part ∈ parts, part.Fits)
    (hmodules : ∀ body ∈ bodies .script parts, IsModule body) (happart : ∀ tag, Apart tag parts) :
    ∃ output, compile (assemble parts) file = .ok output := by
  obtain ⟨hscripts, hscript⟩ := (pieces_assemble_iff hfits).mpr (happart .script)
  obtain ⟨-, hstyle⟩ := (pieces_assemble_iff hfits).mpr (happart .style)
  obtain ⟨found, hfound⟩ : ∃ found, statements (assemble parts)
      (blocksAfter [] (pieces .script (assemble parts))) = .ok found := by
    refine exists_statements ?_
    rwa [hscripts, map_body_blocksAfter]
  simp only [compile, hscript, hstyle, hfound]
  exact ⟨_, rfl⟩

theorem template_assemble (hfits : ∀ part ∈ parts, part.Fits)
    (hscripts : pieces .script (assemble parts) = piecesOf .script parts)
    (hstyles : Apart .style (without .script parts)) :
    template (assemble parts) = Text.trim (markup parts) := by
  have hleft : ∀ part ∈ without .script parts, part.Fits := fun part hpart =>
    hfits part (List.mem_filter.mp hpart).1
  obtain ⟨hpieces, -⟩ := (pieces_assemble_iff hleft).mpr hstyles
  rw [template, hscripts, outside_piecesOf, hpieces, outside_piecesOf, assemble_without_without]

/-- A component that is put together from markup, scripts without a default export and styles is accepted
with exactly these elements as its blocks if and only if neither tag opens between its elements. If, with
the scripts cut out, no style opens between the styles either, it is compiled to the statements of the
bodies of its scripts, in order, to the bodies of its styles, and to its markup in one piece. -/
theorem compile_assemble_iff (file : Path) (hfits : ∀ part ∈ parts, part.Fits)
    (hmodules : ∀ body ∈ bodies .script parts, IsModule body) :
    ((∃ output, compile (assemble parts) file = .ok output ∧
        ∀ tag, pieces tag (assemble parts) = piecesOf tag parts) ↔ ∀ tag, Apart tag parts) ∧
      ((∀ tag, Apart tag parts) → Apart .style (without .script parts) →
        ∃ output, compile (assemble parts) file = .ok output ∧
          output.script =
            (((bodies .script parts).flatMap Script.declarations).map (·.text) ++
                (bodies .script parts).flatMap Script.otherStatements).flatMap (· ++ ['\n']) ++
              renderTemplate (Text.trim (markup parts)).quote ∧
          output.style =
            Text.joinWith ['\n'] (((bodies .style parts).map Text.trim).filter (· ≠ []))) := by
  constructor
  · constructor
    · rintro ⟨output, hcompile, hpieces⟩ tag
      exact (pieces_assemble_iff hfits).mp ⟨hpieces tag, checkClosed_of_compile hcompile tag⟩
    · intro happart
      obtain ⟨output, hcompile⟩ := exists_compile_assemble file hfits hmodules happart
      exact ⟨output, hcompile, fun tag => ((pieces_assemble_iff hfits).mpr (happart tag)).1⟩
  · intro happart hleft
    obtain ⟨output, hcompile⟩ := exists_compile_assemble file hfits hmodules happart
    have hpieces (tag : Tag) : pieces tag (assemble parts) = piecesOf tag parts :=
      ((pieces_assemble_iff hfits).mpr (happart tag)).1
    refine ⟨output, hcompile, ?_, ?_⟩
    · rw [script_compile hcompile, template_assemble hfits (hpieces .script) hleft, declarations,
        otherStatements, hpieces .script, ← map_body_blocksAfter, List.flatMap_map, List.flatMap_map]
    · rw [style_compile hcompile, style, hpieces .style, ← map_body_blocksAfter, List.map_map]
      rfl

def mixedParts : List Part := [
  .markup "<p>a</p>\n".toList,
  .element .script " defer".toList "import a from './a.js';".toList,
  .markup "<scr".toList,
  .markup "ibe>".toList,
  .element .style [] "p \x7b \x7d".toList,
  .element .script [] "let b = '</style>';".toList,
  .element .style " id=x".toList " /* </script> */ ".toList]

theorem compile_assemble_iff_mixedParts :
    ∃ output, compile (assemble mixedParts) (.ofString "/App.svelte") = .ok output ∧
      output.script = "import a from './a.js';\nlet b = '</style>';\n".toList ++
        renderTemplate (Text.quote "<p>a</p>\n<scribe>".toList) ∧
      output.style = "p \x7b \x7d\n/* </script> */".toList := by
  have hfits : ∀ part ∈ mixedParts, part.Fits := by decide +kernel
  have hmodules : ∀ body ∈ bodies .script mixedParts, IsModule body := by decide +kernel
  have happart (tag : Tag) : Apart tag mixedParts := by cases tag <;> decide +kernel
  have hleft : Apart .style (without .script mixedParts) := by decide +kernel
  have hmarkup : Text.trim (markup mixedParts) = "<p>a</p>\n<scribe>".toList := by decide +kernel
  have hstatements : (((bodies .script mixedParts).flatMap Script.declarations).map (·.text) ++
      (bodies .script mixedParts).flatMap Script.otherStatements).flatMap (· ++ ['\n']) =
        "import a from './a.js';\nlet b = '</style>';\n".toList := by decide +kernel
  have hstyle : Text.joinWith ['\n'] (((bodies .style mixedParts).map Text.trim).filter (· ≠ [])) =
      "p \x7b \x7d\n/* </script> */".toList := by decide +kernel
  obtain ⟨-, hcompile⟩ := compile_assemble_iff (.ofString "/App.svelte") hfits hmodules
  obtain ⟨output, houtput, hscript, hfound⟩ := hcompile happart hleft
  rw [hstatements, hmarkup] at hscript
  exact ⟨output, houtput, hscript, hfound.trans hstyle⟩

def styleInString : List Part := [.element .script [] "let a = \"<style>\";".toList]

/-- Not every component that is put together from markup and elements is accepted. -/
theorem assembled_is_refused :
    ¬∀ parts file, (∀ part ∈ parts, part.Fits) →
      (∀ text, .markup text ∈ parts → ∀ tag : Tag, ¬Opens tag.name text) →
      (∀ body ∈ bodies .script parts, IsModule body) →
        ∃ output, compile (assemble parts) file = .ok output := by
  intro hall
  have hfits : ∀ part ∈ styleInString, part.Fits := by decide +kernel
  have hmodules : ∀ body ∈ bodies .script styleInString, IsModule body := by decide +kernel
  have hrefused : (compile (assemble styleInString) (.ofString "/App.svelte")).isOk = false := by
    decide +kernel
  obtain ⟨output, hcompile⟩ := hall styleInString (.ofString "/App.svelte") hfits
    (by simp [styleInString]) hmodules
  rw [hcompile] at hrefused
  cases hrefused

end ComponentBundle.Markup
