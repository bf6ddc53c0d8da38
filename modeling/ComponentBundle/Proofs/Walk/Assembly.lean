import ComponentBundle.Proofs.Walk.Refinement

/-!
# What a bundle is made of

A bundle is the entry, the runtime script and the units of the tree of imports, put together in this
order. The tree is that of the whole walk: it has no part in how the bundle is kept meanwhile.
-/
namespace ComponentBundle

namespace Bundler

/-- The entry of a bundle, compiled under its absolute path. -/
def compiledEntry (bundler : Bundler) (workspace : Workspace) (source : Text) (path : Path)
    (options : GenerateOptions) : CompiledUnit :=
  bundler.entry workspace source (path.absolute workspace.files.workingDirectory) options

/-- The entry of a bundle as it is recorded. -/
def recordedEntry (bundler : Bundler) (workspace : Workspace) (source : Text) (path : Path)
    (options : GenerateOptions) : CompiledUnit :=
  recorded (bundler.compiledEntry workspace source path options) options

/-- The tree of imports of an entry. They are those of its script before it is stripped, and the way
to them begins with the entry as it is recorded. -/
def importTree (bundler : Bundler) (workspace : Workspace) (source : Text) (path : Path)
    (options : GenerateOptions) : ImportTree :=
  let file := path.absolute workspace.files.workingDirectory
  let walk := bundler.walk workspace file options
  walk.importTree [(file, (bundler.recordedEntry workspace source path options).script)] file
    (walk.asked (Import.specifiers
      ((bundler.compiledEntry workspace source path options).script.getD [])))

def runtimeRecord? (bundler : Bundler) : Option Record :=
  bundler.runtime.map fun runtime =>
    { crumb := .child .entry runtimeSpecifier, path := runtimeSpecifier, script := some runtime }

/-- The records of an entry and of all that it imports. -/
def records (bundler : Bundler) (workspace : Workspace) (source : Text) (path : Path)
    (options : GenerateOptions) : List Record :=
  (bundler.recordedEntry workspace source path options).toRecord .entry ::
    (bundler.runtimeRecord?.toList ++
      (bundler.importTree workspace source path options).records .entry)

variable {bundler : Bundler} {workspace : Workspace} {source : Text} {path : Path}
  {options : GenerateOptions}

theorem bundle_start (bundler : Bundler) (entry : CompiledUnit) (file : Path) :
    (bundler.start entry file).bundle =
      .ofRecords (entry.toRecord .entry :: bundler.runtimeRecord?.toList) := by
  cases hruntime : bundler.runtime with
  | none => simp [start, recordRuntime, runtimeRecord?, hruntime, Bundle.ofRecords,
      Bundle.record_eq_add]
  | some runtime => simp [start, recordRuntime, runtimeRecord?, hruntime, Bundle.ofRecords,
      Bundle.record_eq_add, Bundle.place_eq_add]

/-- An entry with errors leaves nothing but its diagnostics. -/
theorem generate_of_hasErrors
    (h : (bundler.compiledEntry workspace source path options).hasErrors = true) :
    bundler.generate workspace source path options =
      .failed (bundler.compiledEntry workspace source path options).diagnostics :=
  if_pos h

/-- The bundle of any other entry is what the replay of its tree of imports leaves. -/
theorem generate_eq_replay
    (h : (bundler.compiledEntry workspace source path options).hasErrors = false) :
    bundler.generate workspace source path options =
      match (bundler.importTree workspace source path options).replay .entry
          (bundler.start (bundler.recordedEntry workspace source path options)
            (path.absolute workspace.files.workingDirectory)).bundle with
      | (.ok (), bundle) => bundle
      | (.error failure, _) => .failed [failure.diagnostic] := by
  rw [compiledEntry] at h
  rw [generate, if_neg (by simp [h]), Walk.visit_eq_outcome]
  simp only [Walk.outcome, importTree, recordedEntry, compiledEntry, start, Chain.insert,
    Chain.remove, List.filter_nil]
  rcases ImportTree.replay _ _ _ with ⟨_ | _, bundle⟩ <;> rfl

/-- If all imports lead somewhere, it is the bundle of their records. -/
theorem generate_of_complete
    (hentry : (bundler.compiledEntry workspace source path options).hasErrors = false)
    (htree : (bundler.importTree workspace source path options).missing? = none) :
    bundler.generate workspace source path options =
      .ofRecords (bundler.records workspace source path options) := by
  rw [generate_eq_replay hentry]
  simp only [ImportTree.replay_of_complete htree, bundle_start, records, Bundle.ofRecords,
    List.foldl_append, List.foldl_cons]

/-- If an import leads nowhere, the bundle holds nothing but the first failure. -/
theorem generate_of_missing {specifier : Text}
    (hentry : (bundler.compiledEntry workspace source path options).hasErrors = false)
    (htree : (bundler.importTree workspace source path options).missing? = some specifier) :
    bundler.generate workspace source path options =
      .failed [(WalkFailure.moduleNotFound specifier).diagnostic] := by
  have hfailure := ImportTree.replay_of_missing htree .entry
    (bundler.start (bundler.recordedEntry workspace source path options)
      (path.absolute workspace.files.workingDirectory)).bundle
  rw [generate_eq_replay hentry]
  generalize ImportTree.replay _ _ _ = replayed at hfailure ⊢
  obtain ⟨result, bundle⟩ := replayed
  obtain rfl : result = _ := hfailure
  rfl

theorem missing?_eq_none_of_paths_ne_nil
    (hentry : (bundler.compiledEntry workspace source path options).hasErrors = false)
    (hpaths : (bundler.generate workspace source path options).paths ≠ []) :
    (bundler.importTree workspace source path options).missing? = none := by
  rw [Option.eq_none_iff_forall_ne_some]
  intro specifier hmissing
  rw [generate_of_missing hentry hmissing] at hpaths
  exact hpaths rfl

/-- Nothing below the entry is recorded under its chain or under that of the runtime script. -/
theorem crumb_ne_of_mem_importTree {record : Record}
    (h : record ∈ (bundler.importTree workspace source path options).records .entry) :
    record.crumb ≠ .entry ∧
      (bundler.runtime.isSome → record.crumb ≠ .child .entry runtimeSpecifier) := by
  obtain ⟨specifier, hspecifier, hcrumb⟩ := ImportTree.crumb_of_mem_records h
  rw [importTree, Walk.specifiers_importTree] at hspecifier
  constructor
  · rintro hentry
    rcases hcrumb with hcrumb | hcrumb
    · simp [hentry, Breadcrumb.child, Breadcrumb.entry] at hcrumb
    · simp [hentry, Breadcrumb.child, Breadcrumb.entry] at hcrumb
  · intro hruntime hchild
    rcases hcrumb with hcrumb | ⟨rest, hcrumb⟩
    · have hname : specifier = runtimeSpecifier := by
        simpa [hchild, Breadcrumb.child, Breadcrumb.entry] using hcrumb.symm
      simp [Walk.asked, walk, hruntime, hname] at hspecifier
    · have hname : specifier ++ Breadcrumb.separator :: rest = runtimeSpecifier := by
        simpa [hchild, Breadcrumb.child, Breadcrumb.entry] using hcrumb
      have hseparator : Breadcrumb.separator ∈ runtimeSpecifier := by simp [← hname]
      exact absurd hseparator (by decide)

theorem of_mem_runtimeRecord? {record : Record} (h : record ∈ bundler.runtimeRecord?.toList) :
    bundler.runtime.isSome ∧ record.crumb = .child .entry runtimeSpecifier := by
  obtain ⟨runtime, hruntime, rfl⟩ := Option.map_eq_some_iff.mp (Option.mem_toList.mp h)
  exact ⟨by simp [hruntime], rfl⟩

/-- Only the entry is recorded under its chain. -/
theorem eq_recordedEntry {record : Record}
    (h : record ∈ bundler.records workspace source path options) (hcrumb : record.crumb = .entry) :
    record = (bundler.recordedEntry workspace source path options).toRecord .entry := by
  rcases List.mem_cons.mp h with rfl | h
  · rfl
  rcases List.mem_append.mp h with h | h
  · rw [(of_mem_runtimeRecord? h).2] at hcrumb
    exact absurd hcrumb (by decide)
  · exact absurd hcrumb (crumb_ne_of_mem_importTree h).1

theorem mem_records_of_runtimeRecord? {runtime : Record}
    (h : bundler.runtimeRecord? = some runtime) :
    runtime ∈ bundler.records workspace source path options :=
  List.mem_cons_of_mem _ (List.mem_append_left _ (Option.mem_toList.mpr h))

/-- Only the runtime script is recorded under its chain. -/
theorem eq_runtimeRecord {record runtime : Record} (hruntime : bundler.runtimeRecord? = some runtime)
    (h : record ∈ bundler.records workspace source path options)
    (hcrumb : record.crumb = .child .entry runtimeSpecifier) : record = runtime := by
  rcases List.mem_cons.mp h with rfl | h
  · exact absurd hcrumb (by simp [CompiledUnit.toRecord, Breadcrumb.child, Breadcrumb.entry])
  rcases List.mem_append.mp h with h | h
  · simpa [hruntime] using h
  · have hmem : runtime ∈ bundler.runtimeRecord?.toList := by simp [hruntime]
    exact absurd hcrumb ((crumb_ne_of_mem_importTree h).2 (of_mem_runtimeRecord? hmem).1)

/-- The bundle of an entry whose imports all lead somewhere is put together from its tree of imports.
Styles and diagnostics are those of the units, each before what it imports. Under each chain of
specifiers stand the path and the script recorded last for it, and the runtime script keeps its
place. -/
theorem generate_refines_importTree
    (hentry : (bundler.compiledEntry workspace source path options).hasErrors = false)
    (htree : (bundler.importTree workspace source path options).missing? = none) :
    let records := bundler.records workspace source path options
    let units := bundler.recordedEntry workspace source path options ::
      (bundler.importTree workspace source path options).units
    let bundle := bundler.generate workspace source path options
    bundle = .ofRecords records ∧
      bundle.style = units.flatMap (·.style) ∧
      bundle.diagnostics = units.flatMap (·.diagnostics) ∧
      (∀ crumb, bundle.paths.get? crumb = Record.lastPath? records crumb ∧
        bundle.script? crumb = Record.lastScript? records crumb) ∧
      ∀ runtime, bundler.runtime = some runtime →
        bundle.paths.get? (Breadcrumb.entry.child runtimeSpecifier) = some runtimeSpecifier ∧
          bundle.script? (Breadcrumb.entry.child runtimeSpecifier) = some runtime := by
  intro records units bundle
  have hbundle : bundle = .ofRecords records := generate_of_complete hentry htree
  have hpath (crumb : Breadcrumb) := Bundle.paths_ofRecords records crumb
  have hscript (crumb : Breadcrumb) := Bundle.script?_ofRecords records crumb
  rw [← hbundle] at hpath hscript
  refine ⟨hbundle, ?style, ?diagnostics, fun crumb => ⟨hpath crumb, hscript crumb⟩, ?runtime⟩
  case style =>
    rw [hbundle, Bundle.style_ofRecords]
    cases hruntime : bundler.runtime <;>
      simp [records, units, Bundler.records, runtimeRecord?, hruntime, ImportTree.style_records,
        CompiledUnit.toRecord]
  case diagnostics =>
    rw [hbundle, Bundle.diagnostics_ofRecords]
    cases hruntime : bundler.runtime <;>
      simp [records, units, Bundler.records, runtimeRecord?, hruntime,
        ImportTree.diagnostics_records, CompiledUnit.toRecord]
  case runtime =>
    intro runtime hruntime
    have hrecord : bundler.runtimeRecord? = some
        { crumb := .child .entry runtimeSpecifier, path := runtimeSpecifier,
          script := some runtime } := by
      simp [runtimeRecord?, hruntime]
    have hmem : _ ∈ records := mem_records_of_runtimeRecord? hrecord
    rw [hpath, hscript]
    exact ⟨Record.lastPath?_eq_some hmem fun other hother => eq_runtimeRecord hrecord hother,
      Record.lastScript?_eq_some hmem (fun other hother => eq_runtimeRecord hrecord hother) rfl⟩

/-- A bundler whose components are their own scripts, with a runtime script. -/
def verbatim : Bundler where
  compiler :=
    { pipeline := []
      markup := fun code file => .ok ⟨code, file.text, []⟩
      script := .ok }
  runtime := some "runtime".toList

def entangledFiles : FileTree where
  workingDirectory := .ofString "/"
  entries :=
    [(["a.js".toList], .file (some "import './b.svelte'\nimport 'svelte/internal'".toList)),
      (["b.svelte".toList], .file (some "import './a.js'\nimport './c.txt'".toList)),
      (["c.txt".toList], .file (some "import './b.svelte'".toList))]

theorem generate_refines_importTree_entangled :
    let source := "import './a.js'\nimport './b.svelte'".toList
    let bundle := verbatim.generate ⟨entangledFiles, []⟩ source (.ofString "/e.svelte") {}
    (verbatim.compiledEntry ⟨entangledFiles, []⟩ source (.ofString "/e.svelte") {}).hasErrors =
        false ∧
      (verbatim.importTree ⟨entangledFiles, []⟩ source (.ofString "/e.svelte") {}).missing? = none ∧
      bundle = .ofRecords
        (verbatim.records ⟨entangledFiles, []⟩ source (.ofString "/e.svelte") {}) ∧
      bundle.paths.length = 12 ∧
      bundle.script? ">./a.js>./b.svelte>./c.txt>./b.svelte".toList =
        some "import './a.js'\nimport './c.txt'".toList := by
  intro source bundle
  have hentry : (verbatim.compiledEntry ⟨entangledFiles, []⟩ source (.ofString "/e.svelte")
      {}).hasErrors = false := by decide +kernel
  have hpaths : bundle.paths.length = 12 := by decide +kernel
  have htree := missing?_eq_none_of_paths_ne_nil hentry (List.ne_nil_of_length_eq_add_one hpaths)
  exact ⟨hentry, htree, (generate_refines_importTree hentry htree).1, hpaths, by decide +kernel⟩

end Bundler

end ComponentBundle
