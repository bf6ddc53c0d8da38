import ComponentBundle.Proofs.Import.Line
import ComponentBundle.Proofs.Walk.Placement

/-!
# What is kept under a chain

A bundle keeps the path and the script of a placement under the chain of its trail. Trails with the
same pieces have one chain, so the last of their placements takes the place of the others. If no
specifier that is looked for holds a separator, each trail has a chain of its own, and under it stand
the path and the script placed at its end.
-/
namespace ComponentBundle

/-- The chain under which a placement below the entry is recorded. -/
def Placement.key (placement : Placement) : Breadcrumb := Breadcrumb.entry.extend placement.trail

theorem Placement.key_eq_key_iff {placement other : Placement} :
    placement.key = other.key ↔
      Breadcrumb.pieces placement.trail = Breadcrumb.pieces other.trail :=
  Breadcrumb.extend_eq_extend_iff

namespace Walk

variable {walk : Walk} {call : Call}

/-- What holds of all specifiers that are looked for below a call holds of those in the trails. -/
theorem forall_mem_trail {Holds : Text → Prop}
    (h : ∀ reached, walk.Reaches call reached → ∀ specifier ∈ walk.imports reached, Holds specifier)
    {placement : Placement} (hplacement : placement ∈ (walk.treeOf call).placements) :
    ∀ specifier ∈ placement.trail, Holds specifier := by
  revert h
  refine placements_induction ?ancestor ?unit ?below hplacement
  case ancestor =>
    intro call specifier hspecifier path script _ h
    exact List.forall_mem_singleton.mpr (h call .refl specifier hspecifier)
  case unit =>
    intro call specifier hspecifier path source _ h
    exact List.forall_mem_singleton.mpr (h call .refl specifier hspecifier)
  case below =>
    intro call specifier hspecifier path source hlead below _ ih h
    refine List.forall_mem_cons.mpr ⟨h call .refl specifier hspecifier, ih fun reached hreached => ?_⟩
    exact h reached (.head (calls_of_lead hspecifier hlead) hreached)

end Walk

namespace Bundler

variable {bundler : Bundler} {workspace : Workspace} {source : Text} {path : Path}
  {options : GenerateOptions} {placement : Placement}

/-- Under the chain of a placement stands a record of some placement. -/
theorem exists_of_record_crumb_eq {record : Record}
    (hplacement : placement ∈ bundler.placements workspace source path options)
    (hrecord : record ∈ bundler.records workspace source path options)
    (hcrumb : record.crumb = placement.key) :
    ∃ other ∈ bundler.placements workspace source path options, other.key = placement.key ∧
      other.toRecord .entry = record := by
  rcases mem_records_iff.mp hrecord with hruntime | ⟨other, hother, rfl⟩
  · obtain ⟨hsome, hchild⟩ := of_mem_runtimeRecord? hruntime
    exact absurd (hcrumb.symm.trans hchild) (crumb_ne_of_mem_placements hplacement hsome)
  · exact ⟨other, hother, hcrumb, rfl⟩

/-- If only one path is placed at the end of the trails with some chain, it stands under the chain. -/
theorem paths_key (hentry : (bundler.compiledEntry workspace source path options).hasErrors = false)
    (htree : (bundler.importTree workspace source path options).missing? = none)
    (hplacement : placement ∈ bundler.placements workspace source path options)
    (h : ∀ other ∈ bundler.placements workspace source path options,
      other.key = placement.key → other.path = placement.path) :
    (bundler.generate workspace source path options).paths.get? placement.key =
      some placement.path.text := by
  rw [generate_of_complete hentry htree, Bundle.paths_ofRecords]
  refine Record.lastPath?_eq (mem_records_iff.mpr (.inr ⟨placement, hplacement, rfl⟩)) ?_
  intro record hrecord hcrumb
  obtain ⟨other, hother, hkey, rfl⟩ := exists_of_record_crumb_eq hplacement hrecord hcrumb
  exact congrArg Path.text (h other hother hkey)

/-- If only one script is placed there, or none at all, the chain has it. -/
theorem script?_key (hentry : (bundler.compiledEntry workspace source path options).hasErrors = false)
    (htree : (bundler.importTree workspace source path options).missing? = none)
    (hplacement : placement ∈ bundler.placements workspace source path options)
    (h : ∀ other ∈ bundler.placements workspace source path options,
      other.key = placement.key → other.script = placement.script) :
    (bundler.generate workspace source path options).script? placement.key = placement.script := by
  rw [generate_of_complete hentry htree, Bundle.script?_ofRecords]
  refine Record.lastScript?_eq (mem_records_iff.mpr (.inr ⟨placement, hplacement, rfl⟩)) ?_
  intro record hrecord hcrumb
  obtain ⟨other, hother, hkey, rfl⟩ := exists_of_record_crumb_eq hplacement hrecord hcrumb
  exact h other hother hkey

/-- If no specifier that is looked for holds a separator, no two trails have the same chain. -/
theorem eq_of_key_eq {other : Placement}
    (h : ∀ call, (bundler.walkOf workspace path options).Reaches
        (bundler.firstCall workspace source path options) call →
      ∀ specifier ∈ (bundler.walkOf workspace path options).imports call,
        Breadcrumb.separator ∉ specifier)
    (hplacement : placement ∈ bundler.placements workspace source path options)
    (hother : other ∈ bundler.placements workspace source path options)
    (hkey : placement.key = other.key) : placement = other := by
  have htrail {placement : Placement}
      (hplacement : placement ∈ bundler.placements workspace source path options) :
      ∀ specifier ∈ placement.trail, Breadcrumb.separator ∉ specifier := by
    rcases mem_placements_iff.mp hplacement with rfl | hbelow
    · exact fun specifier hspecifier => absurd hspecifier List.not_mem_nil
    · exact Walk.forall_mem_trail h hbelow
  exact placement_eq_of_trail_eq hplacement hother
    (Breadcrumb.eq_of_extend_eq (htrail hplacement) (htrail hother) hkey)

/-- A script can name every text that is not empty and fits in a line. The chain of such specifiers
tells the pieces that separators cut them into, and it tells the specifiers, and is as deep as they are
many, if they hold no separators. So in a bundle whose imports all lead somewhere each placement has its
path and script under its chain if all trails with the same pieces are the same; and if no specifier
that is looked for holds a separator, no two placements have the same chain. -/
theorem chains_tell_trails
    (hentry : (bundler.compiledEntry workspace source path options).hasErrors = false)
    (htree : (bundler.importTree workspace source path options).missing? = none) :
    let walk := bundler.walkOf workspace path options
    let first := bundler.firstCall workspace source path options
    let placements := bundler.placements workspace source path options
    let bundle := bundler.generate workspace source path options
    (∀ specifier, (∃ script, specifier ∈ Import.specifiers script) ↔
      specifier ≠ [] ∧ '\n' ∉ specifier) ∧
    (∀ trail other, (Breadcrumb.entry.extend trail = Breadcrumb.entry.extend other ↔
        Breadcrumb.pieces trail = Breadcrumb.pieces other) ∧
      ((∀ specifier ∈ trail ++ other, Breadcrumb.separator ∉ specifier) →
        Breadcrumb.entry.extend trail = Breadcrumb.entry.extend other → trail = other)) ∧
    (∀ trail, (Breadcrumb.entry.extend trail).depth =
        trail.length + trail.flatten.count Breadcrumb.separator ∧
      ((Breadcrumb.entry.extend trail).depth = trail.length ↔
        ∀ specifier ∈ trail, Breadcrumb.separator ∉ specifier)) ∧
    (∀ placement ∈ placements,
      (∀ other ∈ placements, Breadcrumb.pieces other.trail = Breadcrumb.pieces placement.trail →
        other.trail = placement.trail) →
      bundle.paths.get? placement.key = some placement.path.text ∧
        bundle.script? placement.key = placement.script) ∧
    ((∀ call, walk.Reaches first call → ∀ specifier ∈ walk.imports call,
        Breadcrumb.separator ∉ specifier) →
      ∀ placement ∈ placements,
        (∀ other ∈ placements, other.key = placement.key → other = placement) ∧
        bundle.paths.get? placement.key = some placement.path.text ∧
        bundle.script? placement.key = placement.script) := by
  intro walk first placements bundle
  have hown (placement : Placement) (hplacement : placement ∈ placements)
      (h : ∀ other ∈ placements, other.key = placement.key → other = placement) :
      bundle.paths.get? placement.key = some placement.path.text ∧
        bundle.script? placement.key = placement.script :=
    ⟨paths_key hentry htree hplacement fun other hother hkey => by rw [h other hother hkey],
      script?_key hentry htree hplacement fun other hother hkey => by rw [h other hother hkey]⟩
  refine ⟨fun specifier => Import.exists_mem_specifiers_iff, ?trails, ?depth, ?apart, ?free⟩
  case trails =>
    intro trail other
    refine ⟨Breadcrumb.extend_eq_extend_iff, fun h => ?_⟩
    obtain ⟨htrail, hother⟩ := List.forall_mem_append.mp h
    exact Breadcrumb.eq_of_extend_eq htrail hother
  case depth =>
    intro trail
    refine ⟨?_, Breadcrumb.depth_entry_extend_eq_length_iff⟩
    rw [Breadcrumb.depth_extend, show Breadcrumb.depth .entry = 0 from rfl, Nat.zero_add]
  case apart =>
    intro placement hplacement h
    refine hown placement hplacement fun other hother hkey => ?_
    exact placement_eq_of_trail_eq hother hplacement
      (h other hother (Placement.key_eq_key_iff.mp hkey))
  case free =>
    intro h placement hplacement
    have halone : ∀ other ∈ placements, other.key = placement.key → other = placement :=
      fun other hother hkey => eq_of_key_eq h hother hplacement hkey
    exact ⟨halone, hown placement hplacement halone⟩

/-- Two files that import a third one, which imports a component back. -/
def diamondFiles : Workspace where
  files :=
    { workingDirectory := .ofString "/"
      entries :=
        [(["a.svelte".toList], .file (some "import './c.js'".toList)),
          (["b.js".toList], .file (some "import './c.js'".toList)),
          (["c.js".toList], .file (some "import './e.svelte'".toList))] }
  buffers := []

def diamondEntry : Text := "import './a.svelte'\nimport './b.js'".toList

def diamondCalls : List Walk.Call :=
  let walk := verbatim.walkOf diamondFiles (.ofString "/e.svelte") {}
  let first := verbatim.firstCall diamondFiles diamondEntry (.ofString "/e.svelte") {}
  let left := walk.callFor first.chain (.ofString "/a.svelte") "import './c.js'".toList
  let right := walk.callFor first.chain (.ofString "/b.js") "import './c.js'".toList
  [first, left, right,
    walk.callFor left.chain (.ofString "/c.js") "import './e.svelte'".toList,
    walk.callFor right.chain (.ofString "/c.js") "import './e.svelte'".toList]

/-- The walk of the component makes no other calls. -/
theorem mem_diamondCalls {call : Walk.Call}
    (h : (verbatim.walkOf diamondFiles (.ofString "/e.svelte") {}).Reaches
      (verbatim.firstCall diamondFiles diamondEntry (.ofString "/e.svelte") {}) call) :
    call ∈ diamondCalls :=
  ((verbatim.walkOf diamondFiles (.ofString "/e.svelte") {}).forall_visits_of_closed diamondCalls
    (fun _ _ => True) List.mem_cons_self (by decide +kernel)).1 call h

theorem hasErrors_diamond :
    (verbatim.compiledEntry diamondFiles diamondEntry (.ofString "/e.svelte") {}).hasErrors =
      false := by
  decide +kernel

theorem missing?_diamond :
    (verbatim.importTree diamondFiles diamondEntry (.ofString "/e.svelte") {}).missing? = none := by
  refine missing?_eq_none_of_paths_ne_nil hasErrors_diamond ?_
  decide +kernel

theorem chains_tell_trails_diamond :
    let bundle := verbatim.generate diamondFiles diamondEntry (.ofString "/e.svelte") {}
    (verbatim.compiledEntry diamondFiles diamondEntry (.ofString "/e.svelte") {}).hasErrors =
        false ∧
      (verbatim.importTree diamondFiles diamondEntry (.ofString "/e.svelte") {}).missing? = none ∧
      (∀ placement ∈ verbatim.placements diamondFiles diamondEntry (.ofString "/e.svelte") {},
        bundle.paths.get? placement.key = some placement.path.text ∧
          bundle.script? placement.key = placement.script) ∧
      bundle.paths.get? ">./a.svelte>./c.js".toList = some "/c.js".toList ∧
      bundle.paths.get? ">./b.js>./c.js".toList = some "/c.js".toList := by
  intro bundle
  obtain ⟨-, -, -, -, hown⟩ := chains_tell_trails hasErrors_diamond missing?_diamond
  have hfree : ∀ call ∈ diamondCalls, ∀ specifier ∈
      (verbatim.walkOf diamondFiles (.ofString "/e.svelte") {}).imports call,
        Breadcrumb.separator ∉ specifier := by
    decide +kernel
  refine ⟨hasErrors_diamond, missing?_diamond, fun placement hplacement => ?_, by decide +kernel,
    by decide +kernel⟩
  exact (hown (fun call hcall => hfree call (mem_diamondCalls hcall)) placement hplacement).2

/-- A script in a directory that imports a file above it, and a file of the same name beside it. -/
def spelledOutFiles : Workspace where
  files :=
    { workingDirectory := .ofString "/"
      entries :=
        [(["src".toList], .directory),
          (["src".toList, "a.js".toList], .file (some "import './../b.js'".toList)),
          (["src".toList, "b.js".toList], .file (some "inner".toList)),
          (["b.js".toList], .file (some "outer".toList))] }
  buffers := []

/-- A specifier can be spelled like two of them, and is as deep as both. An entry that names it, and a
script that imports the other way, have the two files placed at the ends of two trails with one chain.
Under it the file that comes last takes the place of the other one. -/
theorem trails_share_chain :
    let trail := ["./a.js>./../b.js".toList]
    let other := ["./a.js".toList, "./../b.js".toList]
    let source := "import './a.js>./../b.js'\nimport './a.js'".toList
    let walk := verbatim.walkOf spelledOutFiles (.ofString "/src/e.svelte") {}
    let first := verbatim.firstCall spelledOutFiles source (.ofString "/src/e.svelte") {}
    let next := walk.callFor first.chain (.ofString "/src/a.js") "import './../b.js'".toList
    let bundle := verbatim.generate spelledOutFiles source (.ofString "/src/e.svelte") {}
    (∀ specifier ∈ trail ++ other, ∃ script, specifier ∈ Import.specifiers script) ∧
      trail ≠ other ∧ Breadcrumb.entry.extend trail = Breadcrumb.entry.extend other ∧
      (Breadcrumb.entry.extend trail).depth ≠ trail.length ∧
      walk.imports first = ["./a.js>./../b.js".toList, "./a.js".toList] ∧
      walk.lead first.chain first.file "./a.js>./../b.js".toList =
        .unit (.ofString "/src/b.js") "inner".toList ∧
      walk.Calls first next ∧ walk.imports next = ["./../b.js".toList] ∧
      walk.lead next.chain next.file "./../b.js".toList =
        .unit (.ofString "/b.js") "outer".toList ∧
      bundle.paths.get? (Breadcrumb.entry.extend trail) = some "/b.js".toList ∧
      bundle.script? (Breadcrumb.entry.extend trail) = some "outer".toList := by
  intro trail other source walk first next bundle
  refine ⟨?names, by decide, by decide, by decide, by decide +kernel, by decide +kernel, ?calls,
    by decide +kernel, by decide +kernel, by decide +kernel, by decide +kernel⟩
  case names =>
    have htexts : ∀ specifier ∈ trail ++ other, specifier ≠ [] ∧ '\n' ∉ specifier := by decide
    exact fun specifier hspecifier => Import.exists_mem_specifiers_iff.mpr (htexts _ hspecifier)
  case calls =>
    refine ⟨"./a.js".toList, by decide +kernel, .ofString "/src/a.js", _, ?_, rfl⟩
    decide +kernel

end Bundler

end ComponentBundle
