import ComponentBundle.Proofs.Walk.Assembly

/-!
# All or nothing

A bundle is whole or empty but for its diagnostics. It is empty when the entry has errors, or when
some import leads nowhere. Then nothing that was recorded before is left of it, however far the
walk had come, and the import it blames is the first one in the order of the walk.
-/
namespace ComponentBundle

/-- A component has a script, even if it could not be compiled. -/
theorem UnitCompiler.exists_script_compileComponent (compiler : UnitCompiler) (files : Style.Files)
    (source : Text) (path : Path) (options : CompileOptions) :
    ∃ script, (compiler.compileComponent files source path options).script = some script := by
  rw [compileComponent]
  split
  · exact ⟨[], rfl⟩
  · exact ⟨[], rfl⟩
  · split
    · exact ⟨[], rfl⟩
    · exact ⟨_, rfl⟩

theorem UnitCompiler.path_compileComponent (compiler : UnitCompiler) (files : Style.Files)
    (source : Text) (path : Path) (options : CompileOptions) :
    (compiler.compileComponent files source path options).path = path := by
  rw [compileComponent]
  repeat' split
  all_goals rfl

theorem UnitCompiler.path_compileDependency (compiler : UnitCompiler) (files : Style.Files)
    (source : Text) (path : Path) :
    (compiler.compileDependency files source path).path = path := by
  rw [compileDependency]
  split
  · exact path_compileComponent ..
  · split <;> rfl
  · rfl
  · rfl

namespace Bundler

variable (bundler : Bundler) (workspace : Workspace) (source : Text) (path : Path)
  (options : GenerateOptions)

theorem exists_script_recordedEntry :
    ∃ script, (bundler.recordedEntry workspace source path options).script = some script := by
  obtain ⟨script, hscript⟩ : ∃ script,
      (bundler.compiledEntry workspace source path options).script = some script :=
    UnitCompiler.exists_script_compileComponent ..
  rw [recordedEntry, recorded]
  split
  · exact ⟨Import.stripLeading script, by rw [hscript, Option.map_some]⟩
  · exact ⟨script, hscript⟩

theorem path_recordedEntry :
    (bundler.recordedEntry workspace source path options).path =
      path.absolute workspace.files.workingDirectory := by
  rw [recordedEntry, recorded]
  split <;> exact UnitCompiler.path_compileComponent ..

/-- A whole bundle holds the entry under its chain. -/
theorem entry_generate
    (hentry : (bundler.compiledEntry workspace source path options).hasErrors = false)
    (htree : (bundler.importTree workspace source path options).missing? = none) :
    (bundler.generate workspace source path options).paths.get? Breadcrumb.entry =
        some (path.absolute workspace.files.workingDirectory).text ∧
      (bundler.generate workspace source path options).script? Breadcrumb.entry =
        (bundler.recordedEntry workspace source path options).script := by
  have hmem : (bundler.recordedEntry workspace source path options).toRecord .entry ∈
      bundler.records workspace source path options := List.mem_cons_self
  have hunique := fun other (hother : other ∈ bundler.records workspace source path options) =>
    eq_recordedEntry hother
  obtain ⟨script, hscript⟩ := exists_script_recordedEntry bundler workspace source path options
  rw [generate_of_complete hentry htree, Bundle.paths_ofRecords, Bundle.script?_ofRecords,
    ← path_recordedEntry bundler workspace source path options, hscript]
  exact ⟨Record.lastPath?_eq_some hmem hunique, Record.lastScript?_eq_some hmem hunique hscript⟩

/-- A bundle is one of three: that of an entry with errors, which holds its diagnostics; that of a
walk that came to an import which leads nowhere, which holds an error about the first of them; or one
that holds the entry. Only in the last one is there a path. -/
theorem generate_all_or_nothing :
    let entry := bundler.compiledEntry workspace source path options
    let tree := bundler.importTree workspace source path options
    let bundle := bundler.generate workspace source path options
    ((entry.hasErrors = true ∧ bundle = { diagnostics := entry.diagnostics } ∧
          bundle.hasErrors = true) ∨
        (entry.hasErrors = false ∧ ∃ specifier, tree.missing? = some specifier ∧
          bundle = { diagnostics := [.error .zero ("module not found: ".toList ++ specifier)] } ∧
          bundle.hasErrors = true) ∨
        (entry.hasErrors = false ∧ tree.missing? = none ∧
          bundle.paths.get? Breadcrumb.entry =
            some (path.absolute workspace.files.workingDirectory).text ∧
          ∃ script, (bundler.recordedEntry workspace source path options).script = some script ∧
            bundle.script? Breadcrumb.entry = some script)) ∧
      (bundle.paths = [] ↔ entry.hasErrors = true ∨ ∃ specifier, tree.missing? = some specifier) := by
  intro entry tree bundle
  cases hentry : entry.hasErrors with
  | true =>
    have hbundle : bundle = .failed entry.diagnostics := generate_of_hasErrors hentry
    refine ⟨.inl ⟨rfl, hbundle, ?_⟩, ?_⟩
    · rw [hbundle]
      exact hentry
    · simp [hbundle, Bundle.failed]
  | false =>
    cases htree : tree.missing? with
    | some specifier =>
      have hbundle : bundle = .failed [(WalkFailure.moduleNotFound specifier).diagnostic] :=
        generate_of_missing hentry htree
      refine ⟨.inr (.inl ⟨rfl, specifier, rfl, hbundle, ?_⟩), ?_⟩
      · rw [hbundle]
        rfl
      · simp [hbundle, Bundle.failed]
    | none =>
      obtain ⟨hpath, hscript⟩ : bundle.paths.get? Breadcrumb.entry = some _ ∧
          bundle.script? Breadcrumb.entry = _ :=
        entry_generate bundler workspace source path options hentry htree
      obtain ⟨script, hrecorded⟩ :=
        exists_script_recordedEntry bundler workspace source path options
      refine ⟨.inr (.inr ⟨rfl, rfl, hpath, script, hrecorded, hscript.trans hrecorded⟩), ?_⟩
      have hpaths : bundle.paths ≠ [] := by
        intro hnil
        rw [hnil] at hpath
        cases hpath
      simp [hpaths]

end Bundler

end ComponentBundle
