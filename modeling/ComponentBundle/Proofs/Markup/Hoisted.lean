import ComponentBundle.Proofs.Markup.Emitted
import ComponentBundle.Proofs.Text.Pieces

/-!
# The statements of a compiled component

A component is compiled by its texts: the statements of its scripts are put one below the other, imports
first, and the generated ones at the end. Each text is there unchanged, at a place that the texts before
it tell, and only line feeds stand between two of them. Where a statement ends is not written down, so
a reader of the module need not find the same ends.
-/
namespace ComponentBundle.Markup

variable {source : Text} {file : Path} {output : MarkupOutput}

/-- A statement as it is written below others: how many lines are left empty in front of it. -/
structure Written where
  empty : Nat
  text : Text

/-- Statements one below the other. -/
def layout (statements : List Written) : Text :=
  statements.flatMap fun found => List.replicate found.empty '\n' ++ found.text ++ ['\n']

/-- Where each of them begins and ends in bytes, the first line beginning at `offset`. -/
def places : (offset : Nat) → List Written → List (Nat × Nat)
  | _, [] => []
  | offset, found :: statements =>
    let first := offset + found.empty
    let last := first + found.text.byteLength
    (first, last) :: places (last + 1) statements

theorem places_add (offset more : Nat) (statements : List Written) :
    places (offset + more) statements =
      (places offset statements).map (Prod.map (· + more) (· + more)) := by
  induction statements generalizing offset with
  | nil => rfl
  | cons found statements ih =>
    have hnext : offset + more + found.empty + found.text.byteLength + 1 =
        offset + found.empty + found.text.byteLength + 1 + more := by omega
    simp only [places, hnext, ih, List.map_cons, Prod.map_apply, List.cons.injEq, Prod.mk.injEq,
      and_true]
    omega

theorem slice_places (before : Text) (statements : List Written) :
    (places before.byteLength statements).map (before ++ layout statements).slice =
      statements.map (·.text) := by
  induction statements generalizing before with
  | nil => rfl
  | cons found statements ih =>
    let front := before ++ List.replicate found.empty '\n'
    have hfront : front.byteLength = before.byteLength + found.empty := by
      rw [Text.byteLength_append, Text.byteLength_replicate_newline]
    have hlayout : before ++ layout (found :: statements) =
        front ++ (found.text ++ '\n' :: layout statements) := by
      simp [layout, front]
    have hhere := Text.slice_append front found.text ('\n' :: layout statements)
    -- What is written so far is in front of the statements that are left.
    have hlater := ih (front ++ found.text ++ ['\n'])
    have hbefore : Text.byteLength (front ++ found.text ++ ['\n']) =
        before.byteLength + found.empty + found.text.byteLength + 1 := by
      have hnewline : Text.byteLength ['\n'] = 1 := by decide
      rw [Text.byteLength_append, Text.byteLength_append, hfront, hnewline]
    rw [hbefore, List.append_assoc, List.append_assoc, List.singleton_append] at hlater
    rw [hfront] at hhere
    rw [places, List.map_cons, List.map_cons, hlayout, hhere, hlater]

def classString : String :=
  "class Component \x7b\n\tconstructor(options) \x7b\n\t\tthis.target = options.target;\n" ++
    "\t\tthis.target.insertAdjacentHTML(\"beforeend\", template);\n\t\x7d\n\x7d"

def classText : Text := classString.toList

def generated (markup : Text) : List Written :=
  [⟨0, "const template = ".toList ++ markup.quote ++ [';']⟩, ⟨1, classText⟩,
    ⟨1, "export default Component;".toList⟩]

/-- The statements of a compiled component: the import declarations of all scripts, then the directives
and other statements of each script, then those for the markup. -/
def written (source : Text) : List Written :=
  ((declarations source).map (·.text) ++ otherStatements source).map (⟨0, ·⟩) ++
    generated (template source)

/-- The outline of a script, if it has one, as the texts of its statements. -/
def readTexts? (script : Text) : Option (List Text) :=
  (Script.outline script).toOption.map (·.map (Script.Item.text script))

def readPlaces? (script : Text) : Option (List (Nat × Nat)) :=
  (Script.outline script).toOption.map (·.map fun item => (item.first, item.last))

/-- A statement ends above those below it: they are read as they are without it, and it in front of them,
on the lines that it takes. -/
def Written.EndsAbove (found : Written) (below : List Written) : Prop :=
  let last := found.empty + found.text.byteLength
  readPlaces? (layout (found :: below)) =
    (readPlaces? (layout below)).map fun places =>
      (found.empty, last) :: places.map (Prod.map (· + (last + 1)) (· + (last + 1)))

theorem Written.endsAbove_iff {found : Written} {below : List Written}
    (h : readPlaces? (layout below) = some (places 0 below)) :
    found.EndsAbove below ↔
      readPlaces? (layout (found :: below)) = some (places 0 (found :: below)) := by
  have hplaces : places 0 (found :: below) =
      (found.empty, found.empty + found.text.byteLength) ::
        places (0 + (found.empty + found.text.byteLength + 1)) below := by
    simp only [places, Nat.zero_add]
  rw [EndsAbove, h, hplaces, places_add]
  rfl

/-- Each of the statements ends above those below it. -/
inductive StandApart : List Written → Prop where
  | nil : StandApart []
  | cons {found : Written} {below : List Written} (hends : found.EndsAbove below)
      (hbelow : StandApart below) : StandApart (found :: below)

namespace StandApart

/-- Statements each of which ends above those below it are all read at their places. -/
theorem readPlaces?_layout {statements : List Written} (h : StandApart statements) :
    readPlaces? (layout statements) = some (places 0 statements) := by
  induction h with
  | nil => decide +kernel
  | cons hends _ ih => exact (Written.endsAbove_iff ih).mp hends

theorem cons_of_readPlaces? {found : Written} {below : List Written} (hbelow : StandApart below)
    (h : readPlaces? (layout (found :: below)) = some (places 0 (found :: below))) :
    StandApart (found :: below) :=
  .cons ((Written.endsAbove_iff hbelow.readPlaces?_layout).mpr h) hbelow

end StandApart

/-- A script is read as exactly the statements of a component, in their order. -/
def IsPreserved (source script : Text) : Prop :=
  readTexts? script = some ((written source).map (·.text))

instance (source script : Text) : Decidable (IsPreserved source script) :=
  inferInstanceAs (Decidable (_ = _))

theorem readTexts?_of_readPlaces? {script : Text} {found : List (Nat × Nat)}
    (h : readPlaces? script = some found) : readTexts? script = some (found.map script.slice) := by
  obtain ⟨items, houtline, hfound⟩ := Option.map_eq_some_iff.mp h
  rw [readTexts?, houtline, Option.map_some, ← hfound, List.map_map]
  rfl

theorem componentClass_eq : componentClass =
    ['\n'] ++ classText ++ ['\n', '\n'] ++ "export default Component;".toList ++ ['\n'] := by
  have hstring : "\nclass Component \x7b\n\tconstructor(options) \x7b\n\t\tthis.target = options.target;\n" ++
      "\t\tthis.target.insertAdjacentHTML(\"beforeend\", template);\n\t\x7d\n\x7d\n\n" ++
        "export default Component;\n" =
      "\n" ++ classString ++ "\n\n" ++ "export default Component;" ++ "\n" := by
    decide +kernel
  have hfirst : "\n".toList = ['\n'] := String.toList_ofList
  have hempty : "\n\n".toList = ['\n', '\n'] := String.toList_ofList
  have hclass : componentClass =
      ("\n" ++ classString ++ "\n\n" ++ "export default Component;" ++ "\n").toList :=
    congrArg String.toList hstring
  simp only [hclass, String.toList_append, hfirst, hempty, classText]

theorem layout_generated (markup : Text) : layout (generated markup) = renderTemplate markup.quote := by
  rw [renderTemplate_eq, componentClass_eq]
  simp [layout, generated, templateStatement_eq]

theorem script_compile_eq_layout (h : compile source file = .ok output) :
    output.script = layout (written source) := by
  have hsplit (texts : List Text) (rest : List Written) :
      layout (texts.map (⟨0, ·⟩) ++ rest) = texts.flatMap (· ++ ['\n']) ++ layout rest := by
    simp [layout, List.flatMap_map]
  rw [script_compile h, written, hsplit, layout_generated]

/-- A component that is accepted has scripts that are, and its statements are all of theirs. -/
theorem exists_outline_of_statements {blocks : List (Text × Block)} {found result : Statements}
    (h : blocks.foldlM (fun found (before, block) =>
      addScript source (before ++ block.opening ++ block.attributes ++ ['>']) block.body found)
      found = .ok result) :
    ∀ entry ∈ blocks, ∃ items, Script.outline entry.2.body = .ok items ∧
      ∀ item ∈ items, item.kind ≠ .defaultExport := by
  induction blocks generalizing found with
  | nil => nofun
  | cons head blocks ih =>
    obtain ⟨before, block⟩ := head
    cases hnext : addScript source (before ++ block.opening ++ block.attributes ++ ['>']) block.body
        found with
    | error failure =>
      simp only [List.foldlM_cons, hnext] at h
      cases h
    | ok next =>
      simp only [List.foldlM_cons, hnext] at h
      refine List.forall_mem_cons.mpr ⟨?_, ih h⟩
      rw [addScript] at hnext
      split at hnext
      · cases hnext
      · rename_i items houtline
        split at hnext
        · cases hnext
        · rename_i hnone
          refine ⟨items, houtline, fun item hitem hkind => ?_⟩
          exact List.find?_eq_none.mp hnone item hitem (decide_eq_true hkind)

theorem exists_outline_of_compile (h : compile source file = .ok output) :
    ∀ entry ∈ blocksAfter [] (pieces .script source), ∃ items,
      Script.outline entry.2.body = .ok items ∧ ∀ item ∈ items, item.kind ≠ .defaultExport := by
  obtain ⟨found, -, -, hfound, -⟩ := exists_of_compile h
  exact exists_outline_of_statements hfound

/-- The statements of a component are kept as texts. Those of each script that the grammar finds there,
none of which exports by default, are its import declarations and its other statements. In the compiled
script all of them stand one below the other, each at its place, with nothing but line feeds between
them. If each ends above those below it, a reader finds them at these places, and a reader who does finds
them all. If each is on one line, the lines of the compiled script are these statements and those of the
generated ones. -/
theorem hoisting_keeps_texts (h : compile source file = .ok output) :
    (∀ entry ∈ blocksAfter [] (pieces .script source), ∃ items,
      Script.outline entry.2.body = .ok items ∧ (∀ item ∈ items, item.kind ≠ .defaultExport) ∧
        (items.filter fun item => item.kind = .importDeclaration).map
          (Script.Item.text entry.2.body) = (Script.declarations entry.2.body).map (·.text) ∧
        (items.filter fun item => item.kind ≠ .importDeclaration).map
          (Script.Item.text entry.2.body) = Script.otherStatements entry.2.body) ∧
      output.script = layout (written source) ∧
      (places 0 (written source)).map output.script.slice = (written source).map (·.text) ∧
      (StandApart (written source) →
        readPlaces? output.script = some (places 0 (written source))) ∧
      (readPlaces? output.script = some (places 0 (written source)) →
        IsPreserved source output.script) ∧
      ((∀ declaration ∈ declarations source, '\n' ∉ declaration.text) →
        (∀ text ∈ otherStatements source, '\n' ∉ text) →
          output.script.lines = (declarations source).map (·.text) ++ otherStatements source ++
            (renderTemplate (template source).quote).lines) := by
  have hscript := script_compile_eq_layout h
  have hslices : (places 0 (written source)).map output.script.slice =
      (written source).map (·.text) := by
    rw [hscript]
    exact slice_places [] (written source)
  refine ⟨fun entry hentry => ?scripts, hscript, hslices, fun hapart => ?apart, fun hplaces => ?read,
    fun hdeclarations hothers => ?lines⟩
  case scripts =>
    obtain ⟨items, houtline, hkinds⟩ := exists_outline_of_compile h entry hentry
    exact ⟨items, houtline, hkinds, Script.texts_outline houtline⟩
  case apart => rw [hscript, hapart.readPlaces?_layout]
  case read => rw [IsPreserved, readTexts?_of_readPlaces? hplaces, hslices]
  case lines =>
    have htexts : ∀ text ∈ (declarations source).map (·.text) ++ otherStatements source,
        '\n' ∉ text :=
      List.forall_mem_append.mpr ⟨List.forall_mem_map.mpr hdeclarations, hothers⟩
    rw [script_compile h, Text.lines_append_of_notMem htexts]

def separatedStatements : Text :=
  "<script>'a'; f(); import B from './B.svelte';\n(b);</script><p>b</p>".toList

theorem hoisting_keeps_texts_separated :
    ∃ output, compile separatedStatements (.ofString "/App.svelte") = .ok output ∧
      StandApart (written separatedStatements) ∧ IsPreserved separatedStatements output.script ∧
      (written separatedStatements).map (·.text) =
        ["import B from './B.svelte';".toList, "'a';".toList, "f();".toList, "(b);".toList,
          "const template = \"<p>b</p>\";".toList, classText, "export default Component;".toList] := by
  obtain ⟨hisOk, hstatements, htemplate⟩ :
      (compile separatedStatements (.ofString "/App.svelte")).isOk = true ∧
        (declarations separatedStatements).map (·.text) ++ otherStatements separatedStatements =
          ["import B from './B.svelte';".toList, "'a';".toList, "f();".toList, "(b);".toList] ∧
        template separatedStatements = "<p>b</p>".toList := by
    decide +kernel
  have hwritten : written separatedStatements =
      [⟨0, "import B from './B.svelte';".toList⟩, ⟨0, "'a';".toList⟩, ⟨0, "f();".toList⟩,
        ⟨0, "(b);".toList⟩] ++ generated "<p>b</p>".toList := by
    rw [written, hstatements, htemplate]
    simp only [List.map_cons, List.map_nil]
  have hapart : StandApart (written separatedStatements) := by
    rw [hwritten]
    -- From the last statement to the first, since each is read above those below it.
    refine .cons_of_readPlaces? (.cons_of_readPlaces? (.cons_of_readPlaces? (.cons_of_readPlaces?
      (.cons_of_readPlaces? (.cons_of_readPlaces? (.cons_of_readPlaces? .nil ?_) ?_) ?_) ?_) ?_) ?_) ?_
      <;> decide +kernel
  have htemplateLine : "const template = ".toList ++ Text.quote "<p>b</p>".toList ++ [';'] =
      "const template = \"<p>b</p>\";".toList := by decide +kernel
  obtain ⟨output, hcompile⟩ := exists_output hisOk
  obtain ⟨-, -, -, hread, hkept, -⟩ := hoisting_keeps_texts hcompile
  refine ⟨output, hcompile, hapart, hkept (hread hapart), ?_⟩
  simp only [hwritten, generated, htemplateLine, List.cons_append, List.nil_append, List.map_cons,
    List.map_nil]

def separatingImport : Text := "<script>\nf\nimport x from './x'\n(a)\n</script>".toList

def importBeforeCall : Text := "<script>\nimport x from './x'\nf\n(a)\n</script>".toList

/-- Hoisting can make one statement of two. The script is then that of a component with the one
statement, so nothing can read the statements of each component from its script. -/
theorem hoisting_fuses_statements :
    (∃ output, compile separatingImport (.ofString "/App.svelte") = .ok output ∧
        ¬IsPreserved separatingImport output.script ∧
        "f\n(a)".toList ∈ (readTexts? output.script).getD []) ∧
      ¬∃ read : Text → List Text, ∀ source file output, compile source file = .ok output →
        read output.script = (written source).map (·.text) := by
  obtain ⟨hisOk, hisOk', hsame, hne, hfused, hread⟩ :
      (compile separatingImport (.ofString "/App.svelte")).isOk = true ∧
        (compile importBeforeCall (.ofString "/App.svelte")).isOk = true ∧
        layout (written separatingImport) = layout (written importBeforeCall) ∧
        (written separatingImport).map (·.text) ≠ (written importBeforeCall).map (·.text) ∧
        "f\n(a)".toList ∈ (written importBeforeCall).map (·.text) ∧
        IsPreserved importBeforeCall (layout (written importBeforeCall)) := by
    decide +kernel
  obtain ⟨output, hcompile⟩ := exists_output hisOk
  obtain ⟨output', hcompile'⟩ := exists_output hisOk'
  have hscript : output.script = layout (written importBeforeCall) :=
    (script_compile_eq_layout hcompile).trans hsame
  have hscript' := script_compile_eq_layout hcompile'
  rw [IsPreserved, ← hscript] at hread
  have hcall : "f\n(a)".toList ∈ (readTexts? output.script).getD [] := by
    rw [hread, Option.getD_some]
    exact hfused
  refine ⟨⟨output, hcompile, fun hkept => ?_, hcall⟩, ?_⟩
  · rw [IsPreserved, hread, Option.some.injEq] at hkept
    exact hne hkept.symm
  · rintro ⟨read, hall⟩
    have hfirst := hall _ _ _ hcompile
    have hsecond := hall _ _ _ hcompile'
    rw [hscript, ← hscript', hsecond] at hfirst
    exact hne hfirst.symm

end ComponentBundle.Markup
