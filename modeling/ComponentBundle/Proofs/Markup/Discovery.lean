import ComponentBundle.Proofs.Import.Line
import ComponentBundle.Proofs.Markup.Emitted

/-!
# Which imports of a component are found

A component is compiled by the grammar of its scripts, and the imports of the result are found by its
lines. The two agree about a statement that names its module on one line, and they may disagree about
any other. The markup of a component is never taken for an import.
-/
namespace ComponentBundle.Markup

/-- What shows the markup names nothing, whatever the markup is. -/
theorem specifiers_renderTemplate (markup : Text) :
    Import.specifiers (renderTemplate markup.quote) = [] := by
  have hclass : Import.specifiers componentClass = [] := by decide +kernel
  have hline : Import.ofLine? (templateStatement markup.quote) = none := by
    obtain ⟨rest, hrest⟩ := exists_templateStatement_eq_cons markup.quote
    rw [hrest]
    exact Import.ofLine?_cons_of_ne (by decide) (by decide) rest
  rw [renderTemplate_eq, Import.specifiers_append_newline,
    Import.specifiers_of_notMem (newline_notMem_templateStatement markup), hline, hclass]
  rfl

/-- What is found in a compiled component is what its statements name, line by line, those first that
are import declarations. -/
theorem specifiers_script_compile {source : Text} {file : Path} {output : MarkupOutput}
    (h : compile source file = .ok output) :
    Import.specifiers output.script =
      (declarations source).flatMap (Import.specifiers ·.text) ++
        (otherStatements source).flatMap Import.specifiers := by
  rw [script_compile h, Import.specifiers_flatMap_line, specifiers_renderTemplate, List.append_nil,
    List.flatMap_append, List.flatMap_map]

/-- The imports that are found in a compiled component are those that its statements name line by
line. An import declaration is read as the grammar reads it exactly when one of its lines names its
module and no other line names anything, any other statement when no line does. A component of such
statements has all its import declarations found, each once and in order. -/
theorem discovery_of_compile {source : Text} {file : Path} {output : MarkupOutput}
    (h : compile source file = .ok output) :
    Import.specifiers output.script =
        (declarations source).flatMap (Import.specifiers ·.text) ++
          (otherStatements source).flatMap Import.specifiers ∧
      (∀ declaration ∈ declarations source,
        Import.specifiers declaration.text = [declaration.specifier] ↔
          Import.NamesOnly declaration.text declaration.specifier) ∧
      (∀ declaration ∈ declarations source, '\n' ∉ declaration.text →
        (Import.NamesOnly declaration.text declaration.specifier ↔
          Import.Names declaration.text declaration.specifier)) ∧
      (∀ text ∈ otherStatements source,
        Import.specifiers text = [] ↔ Import.IsSilent text) ∧
      ((∀ declaration ∈ declarations source,
          Import.NamesOnly declaration.text declaration.specifier) →
        (∀ text ∈ otherStatements source, Import.IsSilent text) →
          Import.specifiers output.script = (declarations source).map (·.specifier)) := by
  refine ⟨specifiers_script_compile h, fun _ _ => Import.specifiers_eq_singleton_iff,
    fun _ _ hline => Import.namesOnly_iff_names hline, fun _ _ => Import.specifiers_eq_nil_iff, ?_⟩
  intro hdeclarations hothers
  have hfound : (declarations source).flatMap (Import.specifiers ·.text) =
      (declarations source).flatMap fun declaration => [declaration.specifier] :=
    congrArg List.flatten (List.map_congr_left fun declaration hdeclaration =>
      Import.specifiers_eq_singleton_iff.mpr (hdeclarations declaration hdeclaration))
  have hnone : (otherStatements source).flatMap Import.specifiers = [] :=
    List.flatMap_eq_nil_iff.mpr fun text htext =>
      Import.specifiers_eq_nil_iff.mpr (hothers text htext)
  rw [specifiers_script_compile h, hfound, hnone, List.append_nil, List.map_eq_flatMap]

def hoistedImports : Text :=
  "<script>let n = 1; import A from './A.svelte';\n  import \"./b.js\" // b\n</script>".toList

theorem discovery_of_compile_hoistedImports :
    ∃ output, compile hoistedImports (.ofString "/App.svelte") = .ok output ∧
      Import.specifiers output.script = ["./A.svelte".toList, "./b.js".toList] := by
  obtain ⟨output, hcompile⟩ : ∃ output,
      compile hoistedImports (.ofString "/App.svelte") = .ok output :=
    exists_output (by decide +kernel)
  have hdeclarations : ∀ declaration ∈ declarations hoistedImports,
      Import.specifiers declaration.text = [declaration.specifier] := by decide +kernel
  have hothers : ∀ text ∈ otherStatements hoistedImports, Import.specifiers text = [] := by
    decide +kernel
  have hspecifiers : (declarations hoistedImports).map (·.specifier) =
      ["./A.svelte".toList, "./b.js".toList] := by decide +kernel
  obtain ⟨-, hexact, -, hsilent, hfound⟩ := discovery_of_compile hcompile
  refine ⟨output, hcompile, ?_⟩
  rw [← hspecifiers]
  exact hfound (fun declaration h => (hexact declaration h).mp (hdeclarations declaration h))
    fun text h => (hsilent text h).mp (hothers text h)

/-- A component whose only import declaration has an attribute, in quotes like the module. -/
def importWithAttribute : Text :=
  "<script>import data from './d.json' with \x7b type: \"json\" \x7d;</script>".toList

/-- What is found in a component may reach beyond the module of a declaration. -/
theorem discovery_not_exact :
    ¬∀ source file output, compile source file = .ok output →
      Import.specifiers output.script = (declarations source).map (·.specifier) := by
  intro hexact
  obtain ⟨output, hcompile⟩ : ∃ output,
      compile importWithAttribute (.ofString "/App.svelte") = .ok output :=
    exists_output (by decide +kernel)
  have hnames : (declarations importWithAttribute).map (·.specifier) = ["./d.json".toList] := by
    decide +kernel
  have hfound : (declarations importWithAttribute).flatMap (Import.specifiers ·.text) ++
      (otherStatements importWithAttribute).flatMap Import.specifiers =
        ["./d.json' with \x7b type: \"json".toList] := by decide +kernel
  have hread := hexact _ _ _ hcompile
  rw [specifiers_script_compile hcompile, hfound, hnames] at hread
  simp at hread

end ComponentBundle.Markup
