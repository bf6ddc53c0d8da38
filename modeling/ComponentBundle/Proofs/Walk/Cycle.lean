import ComponentBundle.Proofs.Alias.Discovery
import ComponentBundle.Proofs.Walk.Reach
import Mathlib.Data.List.Perm.Subperm

/-!
# How cycles are cut

Whether a file is on the way already is told by its path. On the way to any unit no path stands twice,
and a place of the file tree has only four paths in normal form, so no file is on the way more than
four times. If there are no aliases, or none that start from a relative path, all paths are absolute,
and two of them that lead to the same place differ only in a step above the root.
-/
namespace ComponentBundle

open FileTree

namespace Chain

variable {chain : Chain} {path : Path} {unit : Path × Option Text}

/-- Each path on the way begins at the root. -/
def IsAbsolute (chain : Chain) : Prop := ∀ unit ∈ chain, unit.1.isAbsolute = true

/-- If no path stands twice on the way, a path that does has the script of its unit. -/
theorem script?_eq_some_of_mem
    (hdistinct : chain.Pairwise fun unit other => unit.1.components ≠ other.1.components)
    (hunit : unit ∈ chain) (hpath : unit.1.components = path.components) :
    chain.script? path = some unit.2 := by
  induction chain with
  | nil => cases hunit
  | cons other chain ih =>
    obtain ⟨hother, hdistinct⟩ := List.pairwise_cons.mp hdistinct
    rcases List.mem_cons.mp hunit with rfl | hunit
    · simp [script?, hpath]
    · have hne : other.1.components ≠ path.components := hpath ▸ hother unit hunit
      simpa [script?, hne] using ih hdistinct hunit

end Chain

namespace Walk

variable {walk : Walk} {first call : Call} {file path : Path} {specifier source : Text}

/-- What a specifier means is an ancestor if its path is on the way. -/
theorem lead_eq_ancestor {resolved : Resolved} {unit : Path × Option Text}
    (hway : WayFrom first call)
    (hresolve : walk.resolver.resolve? walk.workspace.files specifier file = some resolved)
    (hunit : unit ∈ call.chain) (hpath : unit.1.components = resolved.path.components) :
    walk.lead call.chain file specifier = .ancestor resolved.path unit.2 := by
  have hscript := Chain.script?_eq_some_of_mem hway.distinct hunit hpath
  simp only [lead, hresolve, hscript]

/-- No place is on the way more than four times. -/
theorem WayFrom.length_filter_le (hway : WayFrom first call) (tree : FileTree) (names : List Text) :
    (call.chain.filter fun unit => tree.locate? unit.1 = some names).length ≤ 4 := by
  have hnodup : ((call.chain.filter fun unit => tree.locate? unit.1 = some names).map
      (·.1.components)).Nodup :=
    List.pairwise_map.mpr (hway.distinct.sublist List.filter_sublist)
  have hsubset : (call.chain.filter fun unit => tree.locate? unit.1 = some names).map
      (·.1.components) ⊆ tree.spellings names := by
    intro spelling hspelling
    obtain ⟨unit, hunit, rfl⟩ := List.mem_map.mp hspelling
    obtain ⟨hmem, hlocate⟩ := List.mem_filter.mp hunit
    exact components_mem_spellings (hway.isNormal unit hmem) (by simpa using hlocate)
  simpa [spellings] using (List.subperm_of_subset hnodup hsubset).length_le

/-- If the resolver finds absolute paths only, the way to each call consists of such paths. -/
theorem isAbsolute_chain (hresolver : walk.resolver.IsAbsolute walk.workspace.files)
    (hfirst : first.chain.IsAbsolute) (h : walk.Reaches first call) : call.chain.IsAbsolute := by
  apply h.induction
  case hfirst => exact hfirst
  case hstep =>
    intro before _ hbefore specifier _ path source hlead
    obtain ⟨resolved, hresolve, rfl, -⟩ := exists_of_lead_eq_unit hlead
    have hpath := (Resolver.candidate_of_resolve? hresolve).isAbsolute hresolver
    exact List.forall_mem_cons.mpr ⟨hpath, hbefore⟩

end Walk

namespace Bundler

variable {bundler : Bundler} {workspace : Workspace} {path : Path} {options : GenerateOptions}

/-- The resolver of a walk finds absolute paths only, if there are no aliases or the directory of
packages is not given by a relative path. -/
theorem isAbsolute_resolver (htree : workspace.files.workingDirectory.isAbsolute = true)
    (hoptions : (bundler.walkOf workspace path options).resolver.aliases = none ∨
      ∀ directory ∈ options.moduleDirectory, directory.isAbsolute = true) :
    (bundler.walkOf workspace path options).resolver.IsAbsolute workspace.files := by
  have hfile := @Path.isAbsolute_absolute path _ (.inr htree)
  refine ⟨htree, fun directory h => ?modules, fun table h => ?aliases⟩
  case modules =>
    obtain ⟨given, -, rfl⟩ := Option.map_eq_some_iff.mp h
    exact Path.isAbsolute_absolute (.inr htree)
  case aliases =>
    have hgiven := hoptions.resolve_left (Option.ne_none_iff_exists'.mpr ⟨table, h⟩)
    obtain ⟨start, hstart, htable⟩ := Option.bind_eq_some_iff.mp h
    refine Alias.Table.isAbsolute_of_discover? ?_ htable
    rcases Option.or_eq_some_iff.mp hstart with hmodules | ⟨-, hparent⟩
    · obtain ⟨directory, hdirectory, hparent⟩ := Option.bind_eq_some_iff.mp hmodules
      refine (Path.isAbsolute_of_parent? ?_ hparent).1
      rcases Option.or_eq_some_iff.mp hdirectory with hoption | ⟨-, hfound⟩
      · exact hgiven directory hoption
      · exact isAbsolute_of_moduleDirectory? hfile hfound
    · exact (Path.isAbsolute_of_parent? hfile hparent).1

/-- On the way to every call of a walk the entry stays, no path stands twice, and no place of the file
tree more than four times. If there are no aliases or the directory of packages is not given by a
relative path, no two units of the way lead to the same place, but for paths of which one steps above
the root and the other one does not. With the same exception an import that leads to a place on the way
gets the script recorded there, and is not walked again. -/
theorem cycles_are_cut (bundler : Bundler) (workspace : Workspace) (source : Text) (path : Path)
    (options : GenerateOptions) (call : Walk.Call)
    (hcall : (bundler.walkOf workspace path options).Reaches
      (bundler.firstCall workspace source path options) call) :
    let tree := workspace.files
    let walk := bundler.walkOf workspace path options
    (bundler.firstCall workspace source path options).chain <:+ call.chain ∧
      (call.chain.Pairwise fun unit other => unit.1.components ≠ other.1.components) ∧
      (∀ names, (call.chain.filter fun unit => tree.locate? unit.1 = some names).length ≤ 4) ∧
      (tree.workingDirectory.isAbsolute = true →
        (walk.resolver.aliases = none ∨
          ∀ directory ∈ options.moduleDirectory, directory.isAbsolute = true) →
        (call.chain.Pairwise fun unit other =>
          (.parent ∈ unit.1.components ↔ .parent ∈ other.1.components) →
            ¬tree.SamePlace unit.1 other.1) ∧
        ∀ specifier ∈ walk.imports call, ∀ resolved,
          walk.resolver.resolve? tree specifier call.file = some resolved →
          ∀ unit ∈ call.chain, tree.SamePlace resolved.path unit.1 →
            (.parent ∈ resolved.path.components ↔ .parent ∈ unit.1.components) →
              walk.lead call.chain call.file specifier = .ancestor resolved.path unit.2) := by
  intro tree walk
  have hway := wayFrom_firstCall hcall
  refine ⟨hway.isSuffix, hway.distinct, hway.length_filter_le tree, fun htree hoptions => ?_⟩
  have hresolver := @isAbsolute_resolver bundler workspace path options htree hoptions
  have habsolute : call.chain.IsAbsolute := by
    refine Walk.isAbsolute_chain hresolver ?_ hcall
    exact List.forall_mem_singleton.mpr (Path.isAbsolute_absolute (.inr htree))
  have hroot {p q : Path} (hp : p.isAbsolute = true) (hq : q.isAbsolute = true)
      (hparent : .parent ∈ p.components ↔ .parent ∈ q.components) : BeginAlike p q := by
    rw [Path.isAbsolute_iff_root_mem] at hp hq
    exact ⟨iff_of_true hp hq, hparent⟩
  constructor
  · refine hway.distinct.imp_of_mem fun {unit other} hunit hother hne hparent hsame => hne ?_
    rw [hsame.eq_of_beginAlike (hway.isNormal unit hunit) (hway.isNormal other hother)
      (hroot (habsolute unit hunit) (habsolute other hother) hparent)]
  · intro specifier _ resolved hresolve unit hunit hsame hparent
    refine Walk.lead_eq_ancestor hway hresolve hunit ?_
    have hpath := Resolver.candidate_of_resolve? hresolve
    rw [hsame.eq_of_beginAlike hpath.isNormal (hway.isNormal unit hunit)
      (hroot (hpath.isAbsolute hresolver) (habsolute unit hunit) hparent)]

/-- A component and a script in another directory that import each other. -/
def ringFiles : Workspace where
  files :=
    { workingDirectory := .ofString "/"
      entries :=
        [(["pages".toList], .directory),
          (["e.svelte".toList], .file (some "import './pages/a.js'".toList)),
          (["pages".toList, "a.js".toList],
            .file (some "import '../pages/./../e.svelte'".toList))] }
  buffers := []

theorem cycles_are_cut_ring :
    let options : GenerateOptions := { moduleDirectory := some (.ofString "/node_modules") }
    let walk := verbatim.walkOf ringFiles (.ofString "e.svelte") options
    let first := verbatim.firstCall ringFiles "import './pages/a.js'".toList (.ofString "e.svelte")
      options
    let call := walk.callFor first.chain (.ofString "/pages/a.js")
      "import '../pages/./../e.svelte'".toList
    walk.Reaches first call ∧ first.chain <:+ call.chain ∧
      walk.lead call.chain call.file "../pages/./../e.svelte".toList =
        .ancestor (.ofString "/e.svelte") (some "import './pages/a.js'".toList) := by
  intro options walk first call
  have hcall : walk.Reaches first call := by
    refine .single ⟨"./pages/a.js".toList, by decide +kernel, .ofString "/pages/a.js", _, ?_, rfl⟩
    decide +kernel
  obtain ⟨hsuffix, -, -, hcut⟩ := cycles_are_cut verbatim ringFiles "import './pages/a.js'".toList
    (.ofString "e.svelte") options call hcall
  obtain ⟨-, hancestor⟩ := hcut (by decide) (.inr (by decide))
  refine ⟨hcall, hsuffix, ?_⟩
  exact hancestor "../pages/./../e.svelte".toList (by decide +kernel)
    ⟨.ofString "/e.svelte", false⟩ (by decide +kernel)
    (.ofString "/e.svelte", some "import './pages/a.js'".toList) (by decide +kernel)
    ⟨["e.svelte".toList], by decide +kernel, by decide +kernel⟩ Iff.rfl

def sourceAlias : Text :=
  "\x7b\"compilerOptions\": \x7b\"paths\": \x7b\"$src/*\": [\"src/*\"]\x7d\x7d\x7d".toList

def aliasedFiles : Workspace where
  files :=
    { workingDirectory := .ofString "/"
      entries :=
        [(["tsconfig.json".toList], .file (some sourceAlias)),
          (["src".toList], .directory),
          (["src".toList, "e.svelte".toList], .file (some "import '$src/e.svelte'".toList))] }
  buffers := []

/-- If the directory of packages is given by a relative path, an alias leads to such a path too. Under
it the entry is not known to be on the way, and is compiled and walked once more. -/
theorem entry_is_walked_again :
    let options : GenerateOptions := { moduleDirectory := some (.ofString "node_modules") }
    let source := "import '$src/e.svelte'".toList
    let walk := verbatim.walkOf aliasedFiles (.ofString "/src/e.svelte") options
    let first := verbatim.firstCall aliasedFiles source (.ofString "/src/e.svelte") options
    let again := walk.callFor first.chain (.ofString "src/e.svelte") source
    walk.Reaches first again ∧
      again.chain =
        [(.ofString "src/e.svelte", some source), (.ofString "/src/e.svelte", some source)] ∧
      aliasedFiles.files.SamePlace (.ofString "src/e.svelte") (.ofString "/src/e.svelte") := by
  intro options source walk first again
  refine ⟨?_, by decide +kernel, ["src".toList, "e.svelte".toList], by decide +kernel,
    by decide +kernel⟩
  refine .single ⟨"$src/e.svelte".toList, by decide +kernel, .ofString "src/e.svelte", _, ?_, rfl⟩
  decide +kernel

end Bundler

end ComponentBundle
