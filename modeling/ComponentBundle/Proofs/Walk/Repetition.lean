import ComponentBundle.Proofs.Walk.Key
import Mathlib.Data.List.Count
import Mathlib.Data.List.Nodup

/-!
# How often something is recorded

The walk goes where a specifier leads each time that a unit names it. So what stands at the end of a
trail is recorded once for every way to read the trail off the scripts: styles and diagnostics are there
as many times. Each chain is recorded only once if no unit that the walk reaches names a specifier
twice and no two trails have the same chain, and not otherwise.
-/
namespace ComponentBundle

namespace Walk

variable {walk : Walk} {call : Call} {chain : Chain} {file : Path} {specifier : Text}
  {trail : List Text}

/-- The number of ways to read a trail off the scripts below a call: as many as there are places where
the call names the first specifier, for each way to read the rest where that leads. -/
def repetitions (walk : Walk) : Call → List Text → Nat
  | _, [] => 1
  | call, specifier :: trail =>
    (walk.imports call).count specifier *
      match walk.lead call.chain call.file specifier with
      | .nowhere => 0
      | .ancestor _ _ => if trail = [] then 1 else 0
      | .unit path source => walk.repetitions (walk.callFor call.chain path source) trail

def trails (walk : Walk) (call : Call) : List (List Text) :=
  (walk.treeOf call).placements.map (·.trail)

theorem nil_notMem_trails : [] ∉ walk.trails call := by
  intro h
  obtain ⟨placement, hplacement, htrail⟩ := List.mem_map.mp h
  exact trail_ne_nil hplacement htrail

/-- How often a trail is read off what its first specifier adds. -/
theorem count_trails_added :
    ((walk.added chain file specifier).map (·.trail)).count (specifier :: trail) =
      match walk.lead chain file specifier with
      | .nowhere => 0
      | .ancestor _ _ => if trail = [] then 1 else 0
      | .unit path source =>
        ([] :: walk.trails (walk.callFor chain path source)).count trail := by
  have hinjective : Function.Injective (specifier :: · : List Text → List Text) :=
    fun _ _ h => (List.cons.inj h).2
  rw [added_eq]
  cases walk.lead chain file specifier with
  | nowhere => rfl
  | ancestor path script => by_cases h : trail = [] <;> simp [h, eq_comm]
  | unit path source =>
    have hbehind : (((walk.compile source path).toPlacement ::
          (walk.treeOf (walk.callFor chain path source)).placements).map
            (Placement.behind specifier)).map (·.trail) =
        ([] :: walk.trails (walk.callFor chain path source)).map (specifier :: ·) := by
      simp [trails, Placement.behind, CompiledUnit.toPlacement]
    simp only [hbehind]
    exact List.count_map_of_injective _ _ hinjective _

/-- What another specifier adds has no trail in common with it. -/
theorem count_trails_added_of_ne {other : Text} (h : other ≠ specifier) :
    ((walk.added chain file other).map (·.trail)).count (specifier :: trail) = 0 := by
  rw [List.count_eq_zero]
  intro hmem
  obtain ⟨placement, hplacement, htrail⟩ := List.mem_map.mp hmem
  obtain ⟨rest, hrest⟩ := exists_trail_of_mem_added hplacement
  rw [hrest] at htrail
  exact h (List.cons.inj htrail).1

/-- A trail is read as often as its first specifier is named, each time as often as below it. -/
theorem count_trails_cons :
    (walk.trails call).count (specifier :: trail) = (walk.imports call).count specifier *
      ((walk.added call.chain call.file specifier).map (·.trail)).count (specifier :: trail) := by
  rw [trails, placements_treeOf]
  -- Only the places where the call names the first specifier count, and all of them alike.
  induction walk.imports call with
  | nil => simp
  | cons other specifiers ih =>
    rw [List.flatMap_cons, List.map_append, List.count_append, ih]
    by_cases h : other = specifier
    · rw [h, List.count_cons_self, Nat.add_mul, Nat.one_mul, Nat.add_comm]
    · rw [count_trails_added_of_ne h, List.count_cons_of_ne h, Nat.zero_add]

/-- The walk records what is at the end of a trail as often as the trail can be read. -/
theorem count_trails (h : trail ≠ []) :
    (walk.trails call).count trail = walk.repetitions call trail := by
  induction trail generalizing call with
  | nil => exact absurd rfl h
  | cons specifier trail ih =>
    rw [count_trails_cons, count_trails_added, repetitions]
    cases walk.lead call.chain call.file specifier with
    | nowhere => rfl
    | ancestor path script => rfl
    | unit path source =>
      cases trail with
      | nil => simp [repetitions, List.count_eq_zero.mpr nil_notMem_trails]
      | cons next trail => simp [ih]

/-- If no unit names a specifier twice, there is at most one way to read a trail. -/
theorem repetitions_le_one
    (h : ∀ reached, walk.Reaches call reached → (walk.imports reached).Nodup) :
    walk.repetitions call trail ≤ 1 := by
  induction trail generalizing call with
  | nil => exact Nat.le_refl 1
  | cons specifier trail ih =>
    rw [repetitions]
    by_cases hspecifier : specifier ∈ walk.imports call
    · rw [List.count_eq_one_of_mem (h call .refl) hspecifier, Nat.one_mul]
      cases hlead : walk.lead call.chain call.file specifier with
      | nowhere => exact Nat.zero_le 1
      | ancestor path script => simp only; split <;> omega
      | unit path source =>
        exact ih fun reached hreached =>
          h reached (.head (calls_of_lead hspecifier hlead) hreached)
    · simp [List.count_eq_zero.mpr hspecifier]

/-- If no trail is read twice below a call that leads on, it names no specifier twice, and below the
units that it leads to no trail is read twice either. -/
theorem nodup_of_nodup_trails (hlead : walk.LeadsOn call (walk.imports call))
    (h : (walk.trails call).Nodup) :
    (walk.imports call).Nodup ∧ ∀ specifier ∈ walk.imports call, ∀ path source,
      walk.lead call.chain call.file specifier = .unit path source →
        (walk.trails (walk.callFor call.chain path source)).Nodup := by
  rw [List.nodup_iff_count_le_one] at h
  constructor
  · rw [List.nodup_iff_count_le_one]
    intro specifier
    by_cases hspecifier : specifier ∈ walk.imports call
    -- A specifier that leads somewhere is a trail by itself, as often as it is named.
    · have hadded : 1 ≤ ((walk.added call.chain call.file specifier).map (·.trail)).count
          [specifier] := by
        rw [count_trails_added]
        cases hnext : walk.lead call.chain call.file specifier with
        | nowhere => exact absurd hnext (hlead specifier hspecifier)
        | ancestor path script => exact Nat.le_refl 1
        | unit path source => simp
      calc (walk.imports call).count specifier
        _ = (walk.imports call).count specifier * 1 := (Nat.mul_one _).symm
        _ ≤ (walk.trails call).count [specifier] := by
          rw [count_trails_cons]
          exact Nat.mul_le_mul_left _ hadded
        _ ≤ 1 := h _
    · rw [List.count_eq_zero.mpr hspecifier]
      exact Nat.zero_le 1
  · intro specifier hspecifier path source hunit
    rw [List.nodup_iff_count_le_one]
    intro trail
    calc (walk.trails (walk.callFor call.chain path source)).count trail
      _ ≤ ((walk.added call.chain call.file specifier).map (·.trail)).count
          (specifier :: trail) := by
        rw [count_trails_added, hunit]
        exact List.count_le_count_cons
      _ ≤ (walk.trails call).count (specifier :: trail) := by
        rw [count_trails_cons]
        exact Nat.le_mul_of_pos_left _ (List.count_pos_iff.mpr hspecifier)
      _ ≤ 1 := h _

/-- No trail is read twice below a call whose imports all lead somewhere exactly if no unit that the
walk reaches from there names a specifier twice. -/
theorem nodup_trails_iff (hcomplete : (walk.treeOf call).missing? = none) :
    (walk.trails call).Nodup ↔
      ∀ reached, walk.Reaches call reached → (walk.imports reached).Nodup := by
  have hleads := missing?_treeOf_eq_none_iff.mp hcomplete
  constructor
  -- Downwards from the call: each unit that it reaches has trails of its own behind some specifier.
  · intro h reached hreached
    have hnodup : (walk.trails reached).Nodup := by
      apply hreached.induction
      case hfirst => exact h
      case hstep =>
        intro before hbefore hnodup specifier hspecifier path source hlead
        exact (nodup_of_nodup_trails (hleads before hbefore) hnodup).2 specifier hspecifier path
          source hlead
    exact (nodup_of_nodup_trails (hleads reached hreached) hnodup).1
  · intro h
    rw [List.nodup_iff_count_le_one]
    intro trail
    by_cases htrail : trail = []
    · rw [htrail, List.count_eq_zero.mpr nil_notMem_trails]
      exact Nat.zero_le 1
    · rw [count_trails htrail]
      exact repetitions_le_one h

end Walk

namespace Bundler

variable {bundler : Bundler} {workspace : Workspace} {source : Text} {path : Path}
  {options : GenerateOptions}

/-- The chain of the runtime script is recorded once, and apart from those of the placements. -/
theorem nodup_crumbs_iff :
    ((bundler.records workspace source path options).map (·.crumb)).Nodup ↔
      ((bundler.placements workspace source path options).map (·.key)).Nodup := by
  have hcrumbs : ((bundler.records workspace source path options).map (·.crumb)).Perm
      (bundler.runtimeRecord?.toList.map (·.crumb) ++
        (bundler.placements workspace source path options).map (·.key)) := by
    rw [records, placements, ImportTree.records_eq, List.map_cons, List.map_cons, List.map_append,
      List.map_map]
    exact List.perm_middle.symm
  have hruntime : (bundler.runtimeRecord?.toList.map (·.crumb)).Nodup := by
    cases bundler.runtimeRecord? <;> simp
  have hapart : (bundler.runtimeRecord?.toList.map (·.crumb)).Disjoint
      ((bundler.placements workspace source path options).map (·.key)) := by
    intro crumb hcrumb hkey
    obtain ⟨record, hrecord, rfl⟩ := List.mem_map.mp hcrumb
    obtain ⟨placement, hplacement, hplace⟩ := List.mem_map.mp hkey
    obtain ⟨hsome, hchild⟩ := of_mem_runtimeRecord? hrecord
    exact crumb_ne_of_mem_placements hplacement hsome (hplace.trans hchild)
  rw [hcrumbs.nodup_iff, List.nodup_append']
  exact ⟨fun h => h.2.1, fun h => ⟨hruntime, h, hapart⟩⟩

theorem map_trail_placements :
    (bundler.placements workspace source path options).map (·.trail) =
      [] :: (bundler.walkOf workspace path options).trails
        (bundler.firstCall workspace source path options) := rfl

/-- Each placement has a chain of its own exactly if each has a trail of its own and no two trails have
the same chain. -/
theorem nodup_keys_iff :
    ((bundler.placements workspace source path options).map (·.key)).Nodup ↔
      ((bundler.walkOf workspace path options).trails
          (bundler.firstCall workspace source path options)).Nodup ∧
        ∀ placement ∈ bundler.placements workspace source path options,
          ∀ other ∈ bundler.placements workspace source path options,
            Breadcrumb.pieces placement.trail = Breadcrumb.pieces other.trail →
              placement.trail = other.trail := by
  have hnil : ((bundler.placements workspace source path options).map (·.trail)).Nodup ↔
      ((bundler.walkOf workspace path options).trails
        (bundler.firstCall workspace source path options)).Nodup := by
    rw [map_trail_placements, List.nodup_cons]
    exact and_iff_right Walk.nil_notMem_trails
  have hkeys : (bundler.placements workspace source path options).map (·.key) =
      ((bundler.placements workspace source path options).map (·.trail)).map
        Breadcrumb.entry.extend := by
    rw [List.map_map]
    rfl
  rw [hkeys, ← hnil]
  constructor
  · intro h
    have hnodup := List.Nodup.of_map _ h
    refine ⟨hnodup, fun placement hplacement other hother hpieces => ?_⟩
    exact (List.nodup_map_iff_inj_on hnodup).mp h _ (List.mem_map_of_mem hplacement) _
      (List.mem_map_of_mem hother) (Breadcrumb.extend_eq_extend_iff.mpr hpieces)
  · rintro ⟨hnodup, hapart⟩
    rw [List.nodup_map_iff_inj_on hnodup, List.forall_mem_map]
    intro placement hplacement
    rw [List.forall_mem_map]
    intro other hother hkey
    exact hapart placement hplacement other hother (Breadcrumb.extend_eq_extend_iff.mp hkey)

/-- A placement is there as often as its trail can be read. -/
theorem count_placements {placement : Placement}
    (h : placement ∈ bundler.placements workspace source path options) :
    (bundler.placements workspace source path options).count placement =
      (bundler.walkOf workspace path options).repetitions
        (bundler.firstCall workspace source path options) placement.trail := by
  have htrail : (bundler.placements workspace source path options).count placement =
      ((bundler.placements workspace source path options).map (·.trail)).count placement.trail := by
    rw [List.count, List.count, List.countP_map]
    refine List.countP_congr fun other hother => ?_
    simp only [Function.comp_apply, beq_iff_eq]
    exact ⟨congrArg Placement.trail, placement_eq_of_trail_eq hother h⟩
  rw [htrail, map_trail_placements]
  by_cases hnil : placement.trail = []
  · rw [hnil, List.count_cons_self, List.count_eq_zero.mpr Walk.nil_notMem_trails]
    rfl
  · rw [List.count_cons_of_ne (Ne.symm hnil), Walk.count_trails hnil]

/-- The bundle of an entry whose imports all lead somewhere takes in a placement as often as its trail
can be read off the scripts, and the styles and diagnostics of all of them are put one after another.
No chain is recorded twice exactly if no unit that the walk reaches names a specifier twice and no two
trails have the same pieces. Then there is one path in the bundle for each record, and one style. -/
theorem recorded_once_iff
    (hentry : (bundler.compiledEntry workspace source path options).hasErrors = false)
    (htree : (bundler.importTree workspace source path options).missing? = none) :
    let walk := bundler.walkOf workspace path options
    let first := bundler.firstCall workspace source path options
    let placements := bundler.placements workspace source path options
    let records := bundler.records workspace source path options
    let bundle := bundler.generate workspace source path options
    bundle = .ofRecords records ∧
      bundle.style = records.flatMap (·.style) ∧
      bundle.diagnostics = records.flatMap (·.diagnostics) ∧
      (∀ placement ∈ placements,
        placements.count placement = walk.repetitions first placement.trail) ∧
      ((records.map (·.crumb)).Nodup ↔
        (∀ call, walk.Reaches first call → (walk.imports call).Nodup) ∧
          ∀ placement ∈ placements, ∀ other ∈ placements,
            Breadcrumb.pieces placement.trail = Breadcrumb.pieces other.trail →
              placement.trail = other.trail) ∧
      ((records.map (·.crumb)).Nodup →
        (bundle.paths.map (·.1)).Perm (records.map (·.crumb))) := by
  intro walk first placements records bundle
  have hbundle : bundle = .ofRecords records := generate_of_complete hentry htree
  refine ⟨hbundle, ?style, ?diagnostics, fun _ => count_placements, ?once, ?paths⟩
  case style => rw [hbundle, Bundle.style_ofRecords]
  case diagnostics => rw [hbundle, Bundle.diagnostics_ofRecords]
  case once =>
    have hcomplete : (walk.treeOf first).missing? = none := htree
    rw [nodup_crumbs_iff, nodup_keys_iff, Walk.nodup_trails_iff hcomplete]
  case paths =>
    rw [hbundle]
    exact Bundle.keys_ofRecords

theorem recorded_once_iff_diamond :
    let records := verbatim.records diamondFiles diamondEntry (.ofString "/e.svelte") {}
    let bundle := verbatim.generate diamondFiles diamondEntry (.ofString "/e.svelte") {}
    (verbatim.compiledEntry diamondFiles diamondEntry (.ofString "/e.svelte") {}).hasErrors =
        false ∧
      (verbatim.importTree diamondFiles diamondEntry (.ofString "/e.svelte") {}).missing? = none ∧
      (records.map (·.crumb)).Nodup ∧
      (bundle.paths.map (·.1)).Perm (records.map (·.crumb)) ∧ bundle.paths.length = 8 := by
  intro records bundle
  obtain ⟨-, -, -, -, honce, hpaths⟩ := recorded_once_iff hasErrors_diamond missing?_diamond
  have himports : ∀ call ∈ diamondCalls,
      ((verbatim.walkOf diamondFiles (.ofString "/e.svelte") {}).imports call).Nodup ∧
        ∀ specifier ∈ (verbatim.walkOf diamondFiles (.ofString "/e.svelte") {}).imports call,
          Breadcrumb.separator ∉ specifier := by
    decide +kernel
  have hnodup : (records.map (·.crumb)).Nodup := by
    refine honce.mpr ⟨fun call hcall => (himports call (mem_diamondCalls hcall)).1, ?_⟩
    intro placement hplacement other hother hpieces
    have hsame := eq_of_key_eq (fun call hcall => (himports call (mem_diamondCalls hcall)).2)
      hplacement hother (Placement.key_eq_key_iff.mpr hpieces)
    rw [hsame]
  exact ⟨hasErrors_diamond, missing?_diamond, hnodup, hpaths hnodup, by decide +kernel⟩

/-- A bundler that puts a warning with each component. -/
def remarking : Bundler where
  compiler :=
    { pipeline := []
      markup := fun code file => .ok ⟨code, file.text, [.warning .zero "remark".toList]⟩
      script := .ok }

def leafFiles : Workspace where
  files :=
    { workingDirectory := .ofString "/"
      entries := [(["b.svelte".toList], .file (some "leaf".toList))] }
  buffers := []

/-- An entry that names a component in two declarations has two paths, but three styles and three
warnings: what is recorded for the component is there twice. -/
theorem named_twice_is_recorded_twice :
    let source := "import B from './b.svelte'\nimport \x7b b \x7d from './b.svelte'".toList
    let walk := remarking.walkOf leafFiles (.ofString "/e.svelte") {}
    let first := remarking.firstCall leafFiles source (.ofString "/e.svelte") {}
    let bundle := remarking.generate leafFiles source (.ofString "/e.svelte") {}
    let warning (path : Text) : Diagnostic := ⟨.zero, "remark".toList, .warning, some path⟩
    walk.imports first = ["./b.svelte".toList, "./b.svelte".toList] ∧
      bundle.paths = [([], "/e.svelte".toList), (">./b.svelte".toList, "/b.svelte".toList)] ∧
      bundle.style = "/e.svelte/b.svelte/b.svelte".toList ∧
      bundle.diagnostics =
        ["/e.svelte".toList, "/b.svelte".toList, "/b.svelte".toList].map warning := by
  decide +kernel

end Bundler

end ComponentBundle
