import ComponentBundle.Unit

/-!
# Units that fail

A unit fails when a preprocessor gives up on it, when nothing but blanks is left of it, or when the
compiler of its kind refuses it. Whatever the reason, all that there is of it then is its path, an empty
script and the one error.
-/
namespace ComponentBundle.UnitCompiler

/-- A unit fails with an error. -/
inductive Fails (compiler : UnitCompiler) (files : Style.Files) (source : Text) (path : Path) :
    Diagnostic → Prop where
  | preprocessor {failure : PreprocessFailure} (kind : UnitKind.ofPath path = .component)
      (run : compiler.pipeline.run files source path = .error failure) :
      Fails compiler files source path failure.compileFailure.diagnostic
  | blank (kind : UnitKind.ofPath path = .component)
      (run : compiler.pipeline.run files source path = .ok none) :
      Fails compiler files source path (.error .none "failed to preprocess".toList)
  | component {code : Text} {failure : CompileFailure} (kind : UnitKind.ofPath path = .component)
      (run : compiler.pipeline.run files source path = .ok (some code))
      (refused : compiler.markup code path = .error failure) :
      Fails compiler files source path failure.diagnostic
  | script {failure : CompileFailure} (kind : UnitKind.ofPath path = .typeScript)
      (refused : compiler.script source = .error failure) :
      Fails compiler files source path (.error .zero failure.message)

variable {compiler : UnitCompiler} {files : Style.Files} {source : Text} {path : Path}
  {diagnostic : Diagnostic}

theorem Fails.compileDependency_eq (h : compiler.Fails files source path diagnostic) :
    compiler.compileDependency files source path =
      .failed path (UnitKind.ofPath path) diagnostic := by
  cases h with
  | preprocessor kind run => simp [compileDependency, compileComponent, kind, run]
  | blank kind run => simp [compileDependency, compileComponent, kind, run]
  | component kind run refused => simp [compileDependency, compileComponent, kind, run, refused]
  | script kind refused => simp [compileDependency, kind, refused]

theorem Fails.isError (h : compiler.Fails files source path diagnostic) :
    diagnostic.isError = true := by
  cases h <;> rfl

/-- All diagnostics of a component name its file. -/
theorem file_eq_of_mem_diagnostics {options : CompileOptions}
    (h : diagnostic ∈ (compiler.compileComponent files source path options).diagnostics) :
    diagnostic.file = some path.text := by
  have hfailed {error : Diagnostic}
      (h : diagnostic ∈ (CompiledUnit.failed path .component error).diagnostics) :
      diagnostic.file = some path.text :=
    List.mem_singleton.mp h ▸ rfl
  unfold compileComponent at h
  split at h
  · exact hfailed h
  · exact hfailed h
  · split at h
    · exact hfailed h
    · obtain ⟨warning, -, rfl⟩ := List.mem_map.mp h
      rfl

end ComponentBundle.UnitCompiler
