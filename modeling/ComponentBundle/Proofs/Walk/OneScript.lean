import ComponentBundle.Proofs.Walk.Cycle
import ComponentBundle.Proofs.Walk.Key

/-!
# One script for each path

A script is recorded for the entry, for a unit that an import asks for, or once more for a unit on the
way. All of them are the script of a path: that of the entry as it is recorded for its own path, and
for any other path that of the unit which its text is compiled to. So the same path is never placed
with two scripts. A file can have two paths if an alias leads to a relative one.
-/
namespace ComponentBundle

/-- Two paths are the same, or they lead to the same place and begin alike. -/
def FileTree.SameFile (tree : FileTree) (p q : Path) : Prop :=
  p = q ∨ tree.SamePlace p q ∧ FileTree.BeginAlike p q

theorem FileTree.SameFile.eq {tree : FileTree} {p q : Path} (h : tree.SameFile p q)
    (hp : p.IsNormal) (hq : q.IsNormal) : p = q :=
  h.elim id fun ⟨hplace, hbegin⟩ => hplace.eq_of_beginAlike hp hq hbegin

namespace Walk

variable {walk : Walk} {entry : Path × Option Text} {first call : Call} {path : Path}
  {specifier source : Text} {placement : Placement}

/-- The script of a path: the recorded one for the path of the entry, else that of its text. -/
def scriptOf (walk : Walk) (entry : Path × Option Text) (path : Path) : Option (Option Text) :=
  if path = entry.1 then some entry.2
  else (walk.workspace.load? path).map fun source => (walk.compile source path).script

/-- On the way to a call the entry stays, and each unit has the script of its path. -/
structure Settled (walk : Walk) (entry : Path × Option Text) (call : Call) : Prop where
  isNormal : ∀ unit ∈ call.chain, unit.1.IsNormal
  scriptOf_eq : ∀ unit ∈ call.chain, walk.scriptOf entry unit.1 = some unit.2
  entry_mem : entry ∈ call.chain

/-- A new unit has not the path of the entry. -/
theorem Settled.ne_entry (h : walk.Settled entry call)
    (hlead : walk.lead call.chain call.file specifier = .unit path source) : path ≠ entry.1 := by
  obtain ⟨-, -, -, hnone, -⟩ := exists_of_lead_eq_unit hlead
  rintro rfl
  exact Chain.script?_eq_none_iff.mp hnone entry h.entry_mem rfl

theorem Settled.scriptOf_unit (h : walk.Settled entry call)
    (hlead : walk.lead call.chain call.file specifier = .unit path source) :
    walk.scriptOf entry path = some (walk.compile source path).script := by
  obtain ⟨-, -, -, -, hload⟩ := exists_of_lead_eq_unit hlead
  rw [scriptOf, if_neg (h.ne_entry hlead), hload, Option.map_some]

/-- An import that leads back gets the script of its path: paths on the way are in normal form, so the
one that it means is there with the same spelling. -/
theorem Settled.scriptOf_ancestor {script : Option Text} (h : walk.Settled entry call)
    (hlead : walk.lead call.chain call.file specifier = .ancestor path script) :
    walk.scriptOf entry path = some script := by
  obtain ⟨resolved, hresolve, rfl, hscript⟩ := exists_of_lead_eq_ancestor hlead
  obtain ⟨unit, hunit, hcomponents, rfl⟩ := Chain.exists_of_script?_eq_some hscript
  have hpath : unit.1 = resolved.path :=
    (h.isNormal unit hunit).eq_of_components (Resolver.isNormal_of_resolve? hresolve) hcomponents
  rw [← hpath]
  exact h.scriptOf_eq unit hunit

theorem Settled.callFor (h : walk.Settled entry call)
    (hlead : walk.lead call.chain call.file specifier = .unit path source) :
    walk.Settled entry (walk.callFor call.chain path source) := by
  obtain ⟨resolved, hresolve, hpath, -⟩ := exists_of_lead_eq_unit hlead
  exact
    { isNormal := List.forall_mem_cons.mpr
        ⟨hpath ▸ Resolver.isNormal_of_resolve? hresolve, h.isNormal⟩
      scriptOf_eq := List.forall_mem_cons.mpr ⟨h.scriptOf_unit hlead, h.scriptOf_eq⟩
      entry_mem := List.mem_cons_of_mem _ h.entry_mem }

theorem Settled.of_reaches (hfirst : walk.Settled entry first) (h : walk.Reaches first call) :
    walk.Settled entry call :=
  h.induction hfirst fun _ _ hsettled _ _ _ _ hlead => hsettled.callFor hlead

/-- Everything below a call is placed with the script of its path. -/
theorem Settled.scriptOf_placement (h : walk.Settled entry call)
    (hplacement : placement ∈ (walk.treeOf call).placements) :
    walk.scriptOf entry placement.path = some placement.script := by
  revert h
  refine placements_induction ?ancestor ?unit ?below hplacement
  case ancestor =>
    intro call specifier _ path script hlead h
    exact h.scriptOf_ancestor hlead
  case unit =>
    intro call specifier _ path source hlead h
    exact (congrArg (walk.scriptOf entry) (path_compile source path)).trans (h.scriptOf_unit hlead)
  case below =>
    intro call specifier _ path source hlead below _ ih h
    exact ih (h.callFor hlead)

/-- The path of what is placed below a call is one that a specifier means. -/
theorem candidate_of_mem_placements (hplacement : placement ∈ (walk.treeOf call).placements) :
    Resolver.Candidate walk.workspace.files walk.resolver placement.path := by
  refine placements_induction ?ancestor ?unit ?below hplacement
  case ancestor =>
    intro call specifier _ path script hlead
    obtain ⟨resolved, hresolve, rfl, -⟩ := exists_of_lead_eq_ancestor hlead
    exact Resolver.candidate_of_resolve? hresolve
  case unit =>
    intro call specifier _ path source hlead
    obtain ⟨resolved, hresolve, rfl, -⟩ := exists_of_lead_eq_unit hlead
    simp only [Placement.behind, CompiledUnit.toPlacement, path_compile]
    exact Resolver.candidate_of_resolve? hresolve
  case below => exact fun _ _ _ _ _ _ _ _ ih => ih

end Walk

namespace Bundler

variable {bundler : Bundler} {workspace : Workspace} {source : Text} {path : Path}
  {options : GenerateOptions} {placement other : Placement}

def entryUnit (bundler : Bundler) (workspace : Workspace) (source : Text) (path : Path)
    (options : GenerateOptions) : Path × Option Text :=
  (path.absolute workspace.files.workingDirectory,
    (bundler.recordedEntry workspace source path options).script)

theorem settled_firstCall : (bundler.walkOf workspace path options).Settled
    (bundler.entryUnit workspace source path options)
    (bundler.firstCall workspace source path options) where
  isNormal := List.forall_mem_singleton.mpr (Path.isNormal_absolute _ _)
  scriptOf_eq := List.forall_mem_singleton.mpr (if_pos rfl)
  entry_mem := List.mem_cons_self

theorem path_entry_placement :
    (bundler.recordedEntry workspace source path options).toPlacement.path =
      path.absolute workspace.files.workingDirectory :=
  path_recordedEntry ..

theorem scriptOf_placement
    (h : placement ∈ bundler.placements workspace source path options) :
    (bundler.walkOf workspace path options).scriptOf
      (bundler.entryUnit workspace source path options) placement.path = some placement.script := by
  rcases mem_placements_iff.mp h with rfl | hbelow
  · exact if_pos path_entry_placement
  · exact settled_firstCall.scriptOf_placement hbelow

theorem isNormal_placement
    (h : placement ∈ bundler.placements workspace source path options) :
    placement.path.IsNormal := by
  rcases mem_placements_iff.mp h with rfl | hbelow
  · rw [path_entry_placement]
    exact Path.isNormal_absolute _ _
  · exact (Walk.candidate_of_mem_placements hbelow).isNormal

/-- What is placed under one path, in whatever places, has one script. -/
theorem script_eq_of_path_eq
    (h : placement ∈ bundler.placements workspace source path options)
    (hother : other ∈ bundler.placements workspace source path options)
    (hpath : placement.path = other.path) : placement.script = other.script := by
  have hscript := scriptOf_placement h
  rw [hpath, scriptOf_placement hother] at hscript
  exact (Option.some.inj hscript).symm

/-- In a bundle whose imports all lead somewhere a file that is placed more than once has the same script
each time, or none, as far as its paths begin alike. What leads back to the entry has the script that is
recorded for the entry, and the entry is never compiled as a unit that an import asks for. If there are
no aliases or the directory of packages is not given by a relative path, all paths begin at the root.
Chains under which a single path is placed have the same script if they have the same path. -/
theorem one_script_per_file
    (hentry : (bundler.compiledEntry workspace source path options).hasErrors = false)
    (htree : (bundler.importTree workspace source path options).missing? = none) :
    let tree := workspace.files
    let file := path.absolute tree.workingDirectory
    let walk := bundler.walkOf workspace path options
    let first := bundler.firstCall workspace source path options
    let placements := bundler.placements workspace source path options
    let bundle := bundler.generate workspace source path options
    (∀ placement ∈ placements, ∀ other ∈ placements, tree.SameFile placement.path other.path →
      placement.script = other.script) ∧
    (∀ placement ∈ placements, tree.SameFile placement.path file →
      placement.script = (bundler.recordedEntry workspace source path options).script) ∧
    (∀ chain target text, walk.Visits first chain target text → ¬tree.SameFile target file) ∧
    (tree.workingDirectory.isAbsolute = true →
      (walk.resolver.aliases = none ∨
        ∀ directory ∈ options.moduleDirectory, directory.isAbsolute = true) →
      ∀ placement ∈ placements, placement.path.isAbsolute = true) ∧
    ∀ placement ∈ placements, ∀ other ∈ placements,
      (∀ same ∈ placements, same.key = placement.key → same.path = placement.path) →
      (∀ same ∈ placements, same.key = other.key → same.path = other.path) →
      bundle.paths.get? placement.key = bundle.paths.get? other.key →
        bundle.script? placement.key = bundle.script? other.key := by
  intro tree file walk first placements bundle
  have hfile : file.IsNormal := Path.isNormal_absolute _ _
  refine ⟨?same, ?entry, ?visits, ?absolute, ?keys⟩
  case same =>
    intro placement hplacement other hother hsame
    exact script_eq_of_path_eq hplacement hother
      (hsame.eq (isNormal_placement hplacement) (isNormal_placement hother))
  case entry =>
    intro placement hplacement hsame
    have hmem : (bundler.recordedEntry workspace source path options).toPlacement ∈ placements :=
      List.mem_cons_self
    refine script_eq_of_path_eq hplacement hmem ?_
    exact (hsame.eq (isNormal_placement hplacement) hfile).trans path_entry_placement.symm
  case visits =>
    rintro chain target text ⟨call, hcall, rfl, specifier, -, hlead⟩ hsame
    have hsettled := settled_firstCall.of_reaches hcall
    obtain ⟨resolved, hresolve, rfl, -⟩ := Walk.exists_of_lead_eq_unit hlead
    exact hsettled.ne_entry hlead (hsame.eq (Resolver.isNormal_of_resolve? hresolve) hfile)
  case absolute =>
    intro htree hoptions placement hplacement
    rcases mem_placements_iff.mp hplacement with rfl | hbelow
    · rw [path_entry_placement]
      exact Path.isAbsolute_absolute (.inr htree)
    · exact (Walk.candidate_of_mem_placements hbelow).isAbsolute (isAbsolute_resolver htree hoptions)
  case keys =>
    intro placement hplacement other hother halone halone' hpaths
    rw [paths_key hentry htree hplacement halone, paths_key hentry htree hother halone'] at hpaths
    have hpath : placement.path = other.path := congrArg Path.mk (Option.some.inj hpaths)
    rw [script?_key hentry htree hplacement fun same hsame hkey =>
        script_eq_of_path_eq hsame hplacement (halone same hsame hkey),
      script?_key hentry htree hother fun same hsame hkey =>
        script_eq_of_path_eq hsame hother (halone' same hsame hkey)]
    exact script_eq_of_path_eq hplacement hother hpath

theorem one_script_per_file_diamond :
    let bundle := verbatim.generate diamondFiles diamondEntry (.ofString "/e.svelte") {}
    (verbatim.compiledEntry diamondFiles diamondEntry (.ofString "/e.svelte") {}).hasErrors =
        false ∧
      (verbatim.importTree diamondFiles diamondEntry (.ofString "/e.svelte") {}).missing? = none ∧
      (∀ placement ∈ verbatim.placements diamondFiles diamondEntry (.ofString "/e.svelte") {},
        placement.path = .ofString "/e.svelte" → placement.script = some diamondEntry) ∧
      bundle.script? ">./a.svelte>./c.js>./e.svelte".toList = some diamondEntry ∧
      bundle.script? ">./b.js>./c.js>./e.svelte".toList = some diamondEntry := by
  intro bundle
  obtain ⟨-, hback, -⟩ := one_script_per_file hasErrors_diamond missing?_diamond
  have hfile : (Path.ofString "/e.svelte").absolute diamondFiles.files.workingDirectory =
      .ofString "/e.svelte" := by
    decide
  have hrecorded : (verbatim.recordedEntry diamondFiles diamondEntry (.ofString "/e.svelte")
      {}).script = some diamondEntry := by
    decide +kernel
  refine ⟨hasErrors_diamond, missing?_diamond, fun placement hplacement hpath => ?_,
    by decide +kernel, by decide +kernel⟩
  rw [hback placement hplacement (.inl (hpath.trans hfile.symm)), hrecorded]

/-- A component that imports itself through an alias that leads to a relative path, and that is to lose
its imports, keeps them where it is found again: there it is compiled like any other unit. -/
theorem entry_keeps_imports_behind_alias :
    let options : GenerateOptions :=
      { moduleDirectory := some (.ofString "node_modules"), stripImports := true }
    let source := "import '$src/e.svelte'".toList
    let walk := verbatim.walkOf aliasedFiles (.ofString "/src/e.svelte") options
    let bundle := verbatim.generate aliasedFiles source (.ofString "/src/e.svelte") options
    bundle.paths.get? Breadcrumb.entry = some "/src/e.svelte".toList ∧
      bundle.paths.get? ">$src/e.svelte".toList = some "src/e.svelte".toList ∧
      aliasedFiles.files.SamePlace (.ofString "/src/e.svelte") (.ofString "src/e.svelte") ∧
      bundle.script? Breadcrumb.entry = some [] ∧
      bundle.script? ">$src/e.svelte".toList =
        (walk.compile source (.ofString "src/e.svelte")).script ∧
      (walk.compile source (.ofString "src/e.svelte")).script = some source := by
  intro options source walk bundle
  refine ⟨by decide +kernel, by decide +kernel,
    ⟨["src".toList, "e.svelte".toList], by decide +kernel, by decide +kernel⟩, by decide +kernel,
    by decide +kernel, by decide +kernel⟩

def raisedFiles : Workspace where
  files :=
    { workingDirectory := .ofString "/"
      entries :=
        [(["src".toList], .directory),
          (["src".toList, "a.js".toList], .file (some "import './../t.txt'".toList)),
          (["t.txt".toList], .file (some "text".toList))] }
  buffers := []

/-- If two files are placed under one chain and the last one has no script, the chain has the path of
that one and the script of the other. So it differs from a chain under which the last one is alone. -/
theorem shared_chain_mixes_files :
    let source := "import './a.js>./../t.txt'\nimport './a.js'\nimport './../t.txt'".toList
    let bundle := verbatim.generate raisedFiles source (.ofString "/src/t.txt") {}
    bundle.paths.get? ">./a.js>./../t.txt".toList = some "/t.txt".toList ∧
      bundle.paths.get? ">./../t.txt".toList = some "/t.txt".toList ∧
      bundle.script? ">./a.js>./../t.txt".toList = some source ∧
      bundle.script? ">./../t.txt".toList = none := by
  decide +kernel

end Bundler

end ComponentBundle
