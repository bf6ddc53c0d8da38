import ComponentBundle.Proofs.Bundle.Breadcrumb
import ComponentBundle.Proofs.Walk.Failure
import ComponentBundle.Proofs.Walk.Reach

/-!
# What a walk places

The walk places units, and ancestors of them once more, at the end of trails: the specifiers that lead
from the unit that is walked to them, one after another. A placement says what is recorded under the
chain that its trail makes. What is placed below a unit is put together from what each of its
specifiers adds, and this is told by the path that the specifier means and by the way.
-/
namespace ComponentBundle

/-- What is recorded at the end of a trail. -/
structure Placement where
  trail : List Text
  path : Path
  script : Option Text
  style : Text := []
  diagnostics : List Diagnostic := []
  deriving DecidableEq

namespace Placement

/-- The placement seen from a unit that names the specifier which its trail begins behind. -/
def behind (specifier : Text) (placement : Placement) : Placement :=
  { placement with trail := specifier :: placement.trail }

/-- The record of a placement that is seen from a chain. -/
def toRecord (crumb : Breadcrumb) (placement : Placement) : Record :=
  ⟨crumb.extend placement.trail, placement.path.text, placement.script, placement.style,
    placement.diagnostics⟩

end Placement

def CompiledUnit.toPlacement (unit : CompiledUnit) : Placement :=
  ⟨[], unit.path, unit.script, unit.style, unit.diagnostics⟩

namespace ImportTree

/-- The placements of a tree, seen from the unit whose imports it holds, in the order of the walk. -/
def placements : ImportTree → List Placement
  | .done => []
  | .missing _ later => later.placements
  | .ancestor specifier path script later =>
    { trail := [specifier], path, script } :: later.placements
  | .unit specifier compiled imports later =>
    (compiled.toPlacement :: imports.placements).map (.behind specifier) ++ later.placements

theorem records_eq (tree : ImportTree) (crumb : Breadcrumb) :
    tree.records crumb = tree.placements.map (·.toRecord crumb) := by
  induction tree generalizing crumb with
  | done => rfl
  | missing specifier later ih => exact ih crumb
  | ancestor specifier path script later ih =>
    rw [records, placements, List.map_cons, ih]
    rfl
  | unit specifier compiled imports later ihImports ihLater =>
    rw [records, placements, List.map_append, List.map_map, ihImports, ihLater]
    rfl

end ImportTree

namespace Walk

variable {walk : Walk} {call : Call} {chain : Chain} {file path : Path} {specifier source : Text}

theorem path_compile (source : Text) (path : Path) : (walk.compile source path).path = path :=
  UnitCompiler.path_compileDependency ..

/-- The path that a specifier means to a file. -/
def target? (walk : Walk) (file : Path) (specifier : Text) : Option Path :=
  (walk.resolver.resolve? walk.workspace.files specifier file).map (·.path)

/-- What is placed for an import of a path on a way, seen from there: an ancestor that the path is of
once more, or else its unit with all that is below it. -/
def found (walk : Walk) (chain : Chain) (path : Path) : List Placement :=
  match chain.script? path with
  | some script => [{ trail := [], path, script }]
  | none =>
    match walk.workspace.load? path with
    | some source =>
      (walk.compile source path).toPlacement ::
        (walk.treeOf (walk.callFor chain path source)).placements
    | none => []

/-- What a specifier adds to the placements of the unit that names it. -/
def added (walk : Walk) (chain : Chain) (file : Path) (specifier : Text) : List Placement :=
  (((walk.target? file specifier).map (walk.found chain)).getD []).map (.behind specifier)

theorem added_eq (walk : Walk) (chain : Chain) (file : Path) (specifier : Text) :
    walk.added chain file specifier =
      match walk.lead chain file specifier with
      | .nowhere => []
      | .ancestor path script => [{ trail := [specifier], path, script }]
      | .unit path source =>
        ((walk.compile source path).toPlacement ::
          (walk.treeOf (walk.callFor chain path source)).placements).map (.behind specifier) := by
  rw [added, target?, lead]
  cases walk.resolver.resolve? walk.workspace.files specifier file with
  | none => rfl
  | some resolved =>
    simp only [Option.map_some, Option.getD_some, found]
    cases chain.script? resolved.path with
    | some script => rfl
    | none => cases walk.workspace.load? resolved.path <;> rfl

/-- The placements below a unit are what its specifiers add, one after another. -/
theorem placements_importTree (specifiers : List Text) :
    (walk.importTree chain file specifiers).placements =
      specifiers.flatMap (walk.added chain file) := by
  induction specifiers with
  | nil => simp [importTree, ImportTree.placements]
  | cons specifier specifiers ih =>
    rw [importTree_cons, List.flatMap_cons, ← ih, added_eq]
    cases walk.lead chain file specifier <;> rfl

theorem placements_treeOf (call : Call) :
    (walk.treeOf call).placements = (walk.imports call).flatMap (walk.added call.chain call.file) :=
  placements_importTree _

theorem mem_placements_treeOf_iff {placement : Placement} :
    placement ∈ (walk.treeOf call).placements ↔ ∃ specifier ∈ walk.imports call,
      placement ∈ walk.added call.chain call.file specifier := by
  rw [placements_treeOf, List.mem_flatMap]

/-- A specifier adds an ancestor, or a unit and what is below it. -/
theorem mem_added_iff {placement : Placement} :
    placement ∈ walk.added chain file specifier ↔
      (∃ path script, walk.lead chain file specifier = .ancestor path script ∧
        placement = { trail := [specifier], path, script }) ∨
      ∃ path source, walk.lead chain file specifier = .unit path source ∧
        (placement = (walk.compile source path).toPlacement.behind specifier ∨
          ∃ below ∈ (walk.treeOf (walk.callFor chain path source)).placements,
            placement = below.behind specifier) := by
  rw [added_eq]
  cases walk.lead chain file specifier with
  | nowhere => simp
  | ancestor path script => simp
  | unit path source => simp [eq_comm]

theorem mem_placements_of_ancestor {script : Option Text} (hspecifier : specifier ∈ walk.imports call)
    (hlead : walk.lead call.chain call.file specifier = .ancestor path script) :
    { trail := [specifier], path, script : Placement } ∈ (walk.treeOf call).placements :=
  mem_placements_treeOf_iff.mpr
    ⟨specifier, hspecifier, mem_added_iff.mpr (.inl ⟨path, script, hlead, rfl⟩)⟩

theorem mem_placements_of_below {below : Placement} (hspecifier : specifier ∈ walk.imports call)
    (hlead : walk.lead call.chain call.file specifier = .unit path source)
    (hbelow : below ∈ (walk.treeOf (walk.callFor call.chain path source)).placements) :
    below.behind specifier ∈ (walk.treeOf call).placements :=
  mem_placements_treeOf_iff.mpr ⟨specifier, hspecifier,
    mem_added_iff.mpr (.inr ⟨path, source, hlead, .inr ⟨below, hbelow, rfl⟩⟩)⟩

/-- The trail of what a specifier adds begins with it. -/
theorem exists_trail_of_mem_added {placement : Placement}
    (h : placement ∈ walk.added chain file specifier) :
    ∃ trail, placement.trail = specifier :: trail := by
  obtain ⟨before, -, rfl⟩ := List.mem_map.mp h
  exact ⟨before.trail, rfl⟩

/-- No trail below a unit is empty. -/
theorem trail_ne_nil {placement : Placement} (h : placement ∈ (walk.treeOf call).placements) :
    placement.trail ≠ [] := by
  obtain ⟨specifier, -, hadded⟩ := mem_placements_treeOf_iff.mp h
  obtain ⟨trail, htrail⟩ := exists_trail_of_mem_added hadded
  simp [htrail]

/-- What holds of the placements that a call itself makes, and of one below a unit when it holds seen
from that unit, holds of all placements below the call. -/
@[elab_as_elim]
theorem placements_induction {Holds : Call → Placement → Prop}
    (hancestor : ∀ call, ∀ specifier ∈ walk.imports call, ∀ path script,
      walk.lead call.chain call.file specifier = .ancestor path script →
        Holds call { trail := [specifier], path, script })
    (hunit : ∀ call, ∀ specifier ∈ walk.imports call, ∀ path source,
      walk.lead call.chain call.file specifier = .unit path source →
        Holds call ((walk.compile source path).toPlacement.behind specifier))
    (hbelow : ∀ call, ∀ specifier ∈ walk.imports call, ∀ path source,
      walk.lead call.chain call.file specifier = .unit path source →
        ∀ below ∈ (walk.treeOf (walk.callFor call.chain path source)).placements,
          Holds (walk.callFor call.chain path source) below → Holds call (below.behind specifier))
    {placement : Placement} (h : placement ∈ (walk.treeOf call).placements) :
    Holds call placement := by
  induction call using walk.wellFounded_calls.induction generalizing placement with
  | h call ih =>
    obtain ⟨specifier, hspecifier, hadded⟩ := mem_placements_treeOf_iff.mp h
    rcases mem_added_iff.mp hadded with ⟨path, script, hlead, rfl⟩ |
      ⟨path, source, hlead, rfl | ⟨below, hmem, rfl⟩⟩
    · exact hancestor call specifier hspecifier path script hlead
    · exact hunit call specifier hspecifier path source hlead
    · exact hbelow call specifier hspecifier path source hlead below hmem
        (ih _ (calls_of_lead hspecifier hlead) hmem)

/-- A trail tells what is placed at its end. -/
theorem eq_of_trail_eq {placement other : Placement}
    (h : placement ∈ (walk.treeOf call).placements) (hother : other ∈ (walk.treeOf call).placements)
    (htrail : placement.trail = other.trail) : placement = other := by
  induction call using walk.wellFounded_calls.induction generalizing placement other with
  | h call ih =>
    obtain ⟨specifier, hspecifier, hadded⟩ := mem_placements_treeOf_iff.mp h
    obtain ⟨specifier', -, hadded'⟩ := mem_placements_treeOf_iff.mp hother
    -- Both begin with one specifier, so the way and the file decide what it leads to.
    obtain rfl : specifier = specifier' := by
      obtain ⟨trail, htrail₁⟩ := exists_trail_of_mem_added hadded
      obtain ⟨trail', htrail₂⟩ := exists_trail_of_mem_added hadded'
      rw [htrail₁, htrail₂] at htrail
      exact (List.cons.inj htrail).1
    rcases mem_added_iff.mp hadded with ⟨path, script, hlead, rfl⟩ | ⟨path, source, hlead, hunit⟩
    · rcases mem_added_iff.mp hadded' with ⟨path', script', hlead', rfl⟩ | ⟨_, _, hlead', -⟩
      · obtain ⟨rfl, rfl⟩ := Lead.ancestor.inj (hlead.symm.trans hlead')
        rfl
      · cases hlead.symm.trans hlead'
    · rcases mem_added_iff.mp hadded' with ⟨_, _, hlead', -⟩ | ⟨path', source', hlead', hunit'⟩
      · cases hlead.symm.trans hlead'
      obtain ⟨rfl, rfl⟩ := Lead.unit.inj (hlead.symm.trans hlead')
      rcases hunit with rfl | ⟨below, hmem, rfl⟩ <;> rcases hunit' with rfl | ⟨below', hmem', rfl⟩
      · rfl
      · exact absurd (List.cons.inj htrail).2.symm (trail_ne_nil hmem')
      · exact absurd (List.cons.inj htrail).2 (trail_ne_nil hmem)
      · rw [ih _ (calls_of_lead hspecifier hlead) hmem hmem' (List.cons.inj htrail).2]

end Walk

namespace Bundler

variable {bundler : Bundler} {workspace : Workspace} {source : Text} {path : Path}
  {options : GenerateOptions}

/-- The placements of an entry and of all that it imports, seen from the entry. -/
def placements (bundler : Bundler) (workspace : Workspace) (source : Text) (path : Path)
    (options : GenerateOptions) : List Placement :=
  (bundler.recordedEntry workspace source path options).toPlacement ::
    (bundler.importTree workspace source path options).placements

theorem mem_placements_iff {placement : Placement} :
    placement ∈ bundler.placements workspace source path options ↔
      placement = (bundler.recordedEntry workspace source path options).toPlacement ∨
        placement ∈ ((bundler.walkOf workspace path options).treeOf
          (bundler.firstCall workspace source path options)).placements :=
  List.mem_cons

/-- What is recorded is placed, but for the runtime script. -/
theorem mem_records_iff {record : Record} :
    record ∈ bundler.records workspace source path options ↔
      record ∈ bundler.runtimeRecord?.toList ∨
        ∃ placement ∈ bundler.placements workspace source path options,
          placement.toRecord .entry = record := by
  rw [records, placements, ImportTree.records_eq, List.mem_cons, List.mem_append, List.mem_map,
    List.exists_mem_cons_iff, or_left_comm]
  exact or_congr_right (or_congr_left eq_comm)

/-- Nothing that is placed is recorded under the chain of the runtime script. -/
theorem crumb_ne_of_mem_placements {placement : Placement}
    (h : placement ∈ bundler.placements workspace source path options)
    (hruntime : bundler.runtime.isSome) :
    (placement.toRecord .entry).crumb ≠ .child .entry runtimeSpecifier := by
  rcases mem_placements_iff.mp h with rfl | hbelow
  · simp [Placement.toRecord, CompiledUnit.toPlacement, Breadcrumb.extend, Breadcrumb.child,
      Breadcrumb.entry]
  · have hrecord : placement.toRecord .entry ∈
        (bundler.importTree workspace source path options).records .entry := by
      rw [ImportTree.records_eq]
      exact List.mem_map_of_mem hbelow
    exact (crumb_ne_of_mem_importTree hrecord).2 hruntime

/-- A trail tells what is placed at its end, the empty one included. -/
theorem placement_eq_of_trail_eq {placement other : Placement}
    (h : placement ∈ bundler.placements workspace source path options)
    (hother : other ∈ bundler.placements workspace source path options)
    (htrail : placement.trail = other.trail) : placement = other := by
  rcases mem_placements_iff.mp h with rfl | h <;>
    rcases mem_placements_iff.mp hother with rfl | hother
  · rfl
  · exact absurd htrail.symm (Walk.trail_ne_nil hother)
  · exact absurd htrail (Walk.trail_ne_nil h)
  · exact Walk.eq_of_trail_eq h hother htrail

end Bundler

end ComponentBundle
