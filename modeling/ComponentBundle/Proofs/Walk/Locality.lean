import ComponentBundle.Proofs.Unit.Failure
import ComponentBundle.Proofs.Walk.Failure
import ComponentBundle.Proofs.Walk.Reach

/-!
# How far a failure goes

A unit that fails is recorded with an empty script, and its imports are looked for in its source. So
its failure stays with it when its source names nothing, and a source that names what does not exist
takes the whole bundle with it.
-/
namespace ComponentBundle

namespace Walk

variable {walk : Walk} {first : Call} {chain : Chain} {file path : Path} {source : Text}

/-- A unit that an import leads to is one of the units of the tree, and so are those below it. -/
theorem units_importTree_of_lead {specifier : Text} {specifiers : List Text}
    (hspecifier : specifier ∈ specifiers)
    (hlead : walk.lead chain file specifier = .unit path source) :
    walk.compile source path ∈ (walk.importTree chain file specifiers).units ∧
      (walk.treeOf (walk.callFor chain path source)).units ⊆
        (walk.importTree chain file specifiers).units := by
  induction specifiers with
  | nil => cases hspecifier
  | cons other specifiers ih =>
    rw [importTree_cons]
    rcases List.mem_cons.mp hspecifier with rfl | hlater
    · rw [hlead]
      exact ⟨List.mem_append_left _ List.mem_cons_self,
        fun unit hunit => List.mem_append_left _ (List.mem_cons_of_mem _ hunit)⟩
    · obtain ⟨hmem, hsubset⟩ := ih hlater
      cases walk.lead chain file other with
      | nowhere => exact ⟨hmem, hsubset⟩
      | ancestor => exact ⟨hmem, hsubset⟩
      | unit =>
        exact ⟨List.mem_append_right _ hmem,
          fun unit hunit => List.mem_append_right _ (hsubset hunit)⟩

/-- Every unit that the walk visits is one of the units of the tree. -/
theorem Visits.mem_units (h : walk.Visits first chain path source) :
    walk.compile source path ∈ (walk.treeOf first).units := by
  obtain ⟨call, hcall, rfl, specifier, hspecifier, hlead⟩ := h
  have hsubset : (walk.treeOf call).units ⊆ (walk.treeOf first).units := by
    clear hspecifier hlead
    induction hcall with
    | refl => exact List.Subset.refl _
    | tail _ hcalls ih =>
      obtain ⟨before, hbefore, path, source, hunit, rfl⟩ := hcalls
      exact List.Subset.trans (units_importTree_of_lead hbefore hunit).2 ih
  exact hsubset (units_importTree_of_lead hspecifier hlead).1

/-- The specifiers that the script of a unit names, or its source when it has no script. -/
def named (walk : Walk) (path : Path) (source : Text) : List Text :=
  walk.asked (Import.specifiers ((walk.compile source path).script.getD source))

/-- The imports of a unit with an empty script are those that its source names. -/
theorem imports_callFor_of_script_eq (h : (walk.compile source path).script = some []) :
    walk.imports (walk.callFor chain path source) = walk.asked (Import.specifiers source) := by
  simp [imports, callFor, scanned, h]

/-- The imports of any other unit are those that its script names, or its source if it has none. -/
theorem imports_callFor_of_script_ne (h : (walk.compile source path).script ≠ some []) :
    walk.imports (walk.callFor chain path source) = walk.named path source := by
  rcases hscript : (walk.compile source path).script with _ | (_ | ⟨c, script⟩)
  · simp [imports, named, callFor, scanned, hscript]
  · exact absurd hscript h
  · simp [imports, named, callFor, scanned, hscript]

theorem specifiers_treeOf (call : Call) : (walk.treeOf call).specifiers = walk.imports call :=
  specifiers_importTree _

theorem treeOf_eq_done {call : Call} (h : walk.imports call = []) : walk.treeOf call = .done := by
  rw [treeOf, h, importTree]

end Walk

namespace Bundler

/-- If nothing is missing, nothing is reported as not found: the errors of an entry that cannot be
compiled name its file. -/
theorem generate_ne_moduleNotFound {bundler : Bundler} {workspace : Workspace} {source : Text}
    {path : Path} {options : GenerateOptions}
    (htree : (bundler.importTree workspace source path options).missing? = none)
    (specifier : Text) :
    bundler.generate workspace source path options ≠
      .failed [(WalkFailure.moduleNotFound specifier).diagnostic] := by
  intro hfailed
  cases hentry : (bundler.compiledEntry workspace source path options).hasErrors with
  | true =>
    have hdiagnostics : (bundler.compiledEntry workspace source path options).diagnostics =
        [(WalkFailure.moduleNotFound specifier).diagnostic] :=
      congrArg Bundle.diagnostics ((generate_of_hasErrors hentry).symm.trans hfailed)
    have hmem : (WalkFailure.moduleNotFound specifier).diagnostic ∈
        (bundler.compiledEntry workspace source path options).diagnostics := by
      simp [hdiagnostics]
    cases UnitCompiler.file_eq_of_mem_diagnostics hmem
  | false =>
    have hpath := (entry_generate bundler workspace source path options hentry htree).1
    rw [hfailed] at hpath
    cases hpath

/-- A unit that fails adds an empty script, no style and one error about its file to the bundle, and
what is below it are the imports that its source names. So if no unit with an empty script has a source
that names something, there is nothing below a unit that fails; and if then the imports of the entry
and of the units that do not fail lead somewhere, nothing is reported as not found. -/
theorem failures_stay_local (bundler : Bundler) (workspace : Workspace) (source : Text) (path : Path)
    (options : GenerateOptions) :
    let walk := bundler.walkOf workspace path options
    let first := bundler.firstCall workspace source path options
    let Fails := bundler.compiler.Fails (.ofTree workspace.files)
    (∀ chain file text error, walk.Visits first chain file text → Fails text file error →
        walk.compile text file ∈ (bundler.importTree workspace source path options).units ∧
        (∀ crumb, (walk.compile text file).toRecord crumb =
          { crumb, path := file.text, script := some [], diagnostics := [error.inFile file] }) ∧
        error.isError = true ∧
        (walk.treeOf (walk.callFor chain file text)).specifiers =
          walk.asked (Import.specifiers text)) ∧
      ((∀ chain file text, walk.Visits first chain file text →
          (walk.compile text file).script = some [] → walk.asked (Import.specifiers text) = []) →
        (∀ chain file text error, walk.Visits first chain file text → Fails text file error →
          walk.treeOf (walk.callFor chain file text) = .done) ∧
        (walk.LeadsOn first (walk.imports first) →
          (∀ chain file text, walk.Visits first chain file text → (∀ error, ¬Fails text file error) →
            walk.LeadsOn (walk.callFor chain file text) (walk.named file text)) →
          ∀ specifier, bundler.generate workspace source path options ≠
            .failed [(WalkFailure.moduleNotFound specifier).diagnostic])) := by
  intro walk first Fails
  have hcompile {file : Path} {text : Text} {error : Diagnostic} (h : Fails text file error) :
      walk.compile text file = .failed file (UnitKind.ofPath file) error := h.compileDependency_eq
  have hscript {file : Path} {text : Text} {error : Diagnostic} (h : Fails text file error) :
      (walk.compile text file).script = some [] := by rw [hcompile h]; rfl
  constructor
  · intro chain file text error hvisit hfails
    refine ⟨hvisit.mem_units, fun crumb => ?_, hfails.isError, ?_⟩
    · rw [hcompile hfails]
      rfl
    · rw [Walk.specifiers_treeOf, Walk.imports_callFor_of_script_eq (hscript hfails)]
  · intro hquiet
    have hdone (chain : Chain) (file : Path) (text : Text) (hvisit : walk.Visits first chain file text)
        (h : (walk.compile text file).script = some []) :
        walk.imports (walk.callFor chain file text) = [] := by
      rw [Walk.imports_callFor_of_script_eq h, hquiet chain file text hvisit h]
    constructor
    · intro chain file text error hvisit hfails
      exact Walk.treeOf_eq_done (hdone chain file text hvisit (hscript hfails))
    · intro hfirst hnamed
      apply generate_ne_moduleNotFound
      rw [importTree_eq_treeOf, Walk.missing?_treeOf_eq_none_iff]
      intro call hcall
      rcases Walk.reaches_iff.mp hcall with rfl | ⟨chain, file, text, hvisit, rfl⟩
      · exact hfirst
      by_cases hempty : (walk.compile text file).script = some []
      · intro specifier hspecifier
        have hnone := hdone chain file text hvisit hempty
        rw [hnone] at hspecifier
        cases hspecifier
      · rw [Walk.imports_callFor_of_script_ne hempty]
        exact hnamed chain file text hvisit fun error hfails => hempty (hscript hfails)

/-- A bundler that takes components as they are and refuses all typed scripts. -/
def refusing : Bundler where
  compiler :=
    { pipeline := []
      markup := fun code file => .ok ⟨code, file.text, []⟩
      script := fun _ => .error ⟨"refused".toList, none⟩ }

/-- A typed script with the given source, and a script. -/
def brokenFiles (source : Text) : Workspace where
  files :=
    { workingDirectory := .ofString "/"
      entries :=
        [(["after.js".toList], .file (some "export const after = 1".toList)),
          (["broken.ts".toList], .file (some source))] }
  buffers := []

def brokenEntry : Text := "import './broken.ts'\nimport './after.js'".toList

def brokenWalk (source : Text) : Walk :=
  refusing.walkOf (brokenFiles source) (.ofString "/e.svelte") {}

def brokenCalls (source : Text) : List Walk.Call :=
  let first := refusing.firstCall (brokenFiles source) brokenEntry (.ofString "/e.svelte") {}
  [first, (brokenWalk source).callFor first.chain (.ofString "/broken.ts") source,
    (brokenWalk source).callFor first.chain (.ofString "/after.js")
      "export const after = 1".toList]

theorem failures_stay_local_refused :
    let workspace := brokenFiles "let = ;".toList
    let bundle := refusing.generate workspace brokenEntry (.ofString "/e.svelte") {}
    (refusing.compiledEntry workspace brokenEntry (.ofString "/e.svelte") {}).hasErrors = false ∧
      (∀ specifier, bundle ≠ .failed [(WalkFailure.moduleNotFound specifier).diagnostic]) ∧
      bundle.script? ">./broken.ts".toList = some [] ∧
      bundle.script? ">./after.js".toList = some "export const after = 1".toList ∧
      bundle.diagnostics =
        [(Diagnostic.error .zero "refused".toList).inFile (.ofString "/broken.ts")] := by
  intro workspace bundle
  have hentry : (refusing.compiledEntry workspace brokenEntry (.ofString "/e.svelte")
      {}).hasErrors = false := by decide +kernel
  have hfirst : (brokenWalk "let = ;".toList).LeadsOn
      (refusing.firstCall workspace brokenEntry (.ofString "/e.svelte") {})
      ["./broken.ts".toList, "./after.js".toList] := by
    unfold Walk.LeadsOn
    decide +kernel
  have hvisits := ((brokenWalk "let = ;".toList).forall_visits_of_closed
    (brokenCalls "let = ;".toList)
    (fun file text => (brokenWalk "let = ;".toList).named file text = [] ∧
      (brokenWalk "let = ;".toList).asked (Import.specifiers text) = [])
    List.mem_cons_self (by decide +kernel)).2
  obtain ⟨-, hlocal⟩ := failures_stay_local refusing workspace brokenEntry
    (.ofString "/e.svelte") {}
  obtain ⟨-, hfound⟩ := hlocal fun chain file text hvisit _ => (hvisits chain file text hvisit).2
  refine ⟨hentry, hfound hfirst ?_, by decide +kernel, by decide +kernel, by decide +kernel⟩
  exact fun chain file text hvisit _ => Walk.leadsOn_of_eq_nil (hvisits chain file text hvisit).1

/-- All that the entry and the units that do not fail import leads somewhere. Nevertheless the bundle
is lost, for the source of a unit that fails names a file that does not exist. -/
theorem failure_takes_bundle :
    let workspace := brokenFiles "import './gone.js'\nlet = ;".toList
    let walk := brokenWalk "import './gone.js'\nlet = ;".toList
    let first := refusing.firstCall workspace brokenEntry (.ofString "/e.svelte") {}
    let Fails := refusing.compiler.Fails (.ofTree workspace.files)
    let bundle := refusing.generate workspace brokenEntry (.ofString "/e.svelte") {}
    (refusing.compiledEntry workspace brokenEntry (.ofString "/e.svelte") {}).hasErrors = false ∧
      walk.LeadsOn first (walk.imports first) ∧
      (∀ chain file text, walk.Visits first chain file text → (∀ error, ¬Fails text file error) →
        walk.LeadsOn (walk.callFor chain file text) (walk.named file text)) ∧
      bundle.scripts = [] ∧ bundle.paths = [] ∧
      bundle.diagnostics = [(WalkFailure.moduleNotFound "./gone.js".toList).diagnostic] := by
  intro workspace walk first Fails bundle
  have hfirst : walk.LeadsOn first (walk.imports first) := by
    unfold Walk.LeadsOn
    decide +kernel
  have hvisits := (walk.forall_visits_of_closed (brokenCalls "import './gone.js'\nlet = ;".toList)
    (fun file text => walk.named file text = []) List.mem_cons_self (by decide +kernel)).2
  refine ⟨by decide +kernel, hfirst, ?_, by decide +kernel, by decide +kernel, by decide +kernel⟩
  exact fun chain file text hvisit _ => Walk.leadsOn_of_eq_nil (hvisits chain file text hvisit)

end Bundler

end ComponentBundle
