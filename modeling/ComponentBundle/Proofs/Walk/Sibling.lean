import ComponentBundle.Proofs.Walk.Key
import Mathlib.Data.List.Perm.Basic

/-!
# Imports beside each other

What an import adds to a bundle is told by the path that it means and by the scripts of the files on the
way. It has no part in what is recorded before it, nor in where it stands among the imports of its unit.
So a unit whose imports are put in another order has the same placements below it, in another order: as
long as none of them leads back to the unit, which has another script then.
-/
namespace ComponentBundle

namespace Chain

/-- At the paths of some placements a way has the scripts of another one, changed. -/
def Agrees (change : Path → Option Text → Option Text) (chain way : Chain)
    (placements : List Placement) : Prop :=
  ∀ placement ∈ placements,
    way.script? placement.path = (chain.script? placement.path).map (change placement.path)

/-- A change leaves the scripts alone that paths which are not on the way have. -/
def Keeps (change : Path → Option Text → Option Text) (chain : Chain) : Prop :=
  ∀ path, chain.script? path = none → ∀ script, change path script = script

variable {chain way : Chain} {path : Path} {script : Option Text} {placements : List Placement}
  {change : Path → Option Text → Option Text}

theorem Keeps.cons (h : Keeps change chain) : Keeps change ((path, script) :: chain) := by
  intro other hother
  refine h other ?_
  rw [script?_cons] at hother
  split at hother
  · cases hother
  · exact hother

/-- A unit that is put on both ways does not part them. -/
theorem Agrees.cons (h : Agrees change chain way placements) (hkeeps : Keeps change chain)
    (hnone : chain.script? path = none) :
    Agrees change ((path, script) :: chain) ((path, script) :: way) placements := by
  intro placement hplacement
  rw [script?_cons, script?_cons]
  by_cases hpath : path.components = placement.path.components
  · have hplace : chain.script? placement.path = none := by
      rw [script?_eq_none_iff] at hnone ⊢
      exact hpath ▸ hnone
    simp [hpath, hkeeps _ hplace]
  · simpa only [hpath, if_false] using h placement hplacement

def keep (_ : Path) (script : Option Text) : Option Text := script

theorem keeps_keep : Keeps keep chain := fun _ _ _ => rfl

theorem agrees_keep (h : ∀ placement ∈ placements,
    way.script? placement.path = chain.script? placement.path) :
    Agrees keep chain way placements := by
  intro placement hplacement
  rw [h placement hplacement]
  exact Option.map_id'.symm

def replace (file : Path) (script : Option Text) (path : Path) (before : Option Text) :
    Option Text :=
  if path.components = file.components then script else before

theorem keeps_replace (recorded : Option Text) :
    Keeps (replace path script) ((path, recorded) :: chain) := by
  intro other hnone before
  rw [script?_eq_none_iff] at hnone
  exact if_neg (Ne.symm (hnone _ List.mem_cons_self))

theorem agrees_replace (recorded : Option Text) :
    Agrees (replace path script) ((path, recorded) :: chain) ((path, script) :: chain)
      placements := by
  intro placement _
  rw [script?_cons, script?_cons]
  by_cases hpath : path.components = placement.path.components
  · simp [hpath, replace]
  · rw [if_neg hpath, if_neg hpath]
    cases chain.script? placement.path <;> simp [replace, Ne.symm hpath]

end Chain

namespace Placement

/-- The placement with another script, made from the one that it has and from its path. -/
def rescript (change : Path → Option Text → Option Text) (placement : Placement) : Placement :=
  { placement with script := change placement.path placement.script }

/-- The placement with a script of its own if it leads to a file. -/
def withScript (file : Path) (script : Option Text) : Placement → Placement :=
  rescript (Chain.replace file script)

theorem rescript_keep : rescript Chain.keep = id := rfl

end Placement

namespace Walk

variable {walk : Walk} {first call other : Call} {chain way : Chain} {file path : Path}
  {specifier source : Text} {change : Path → Option Text → Option Text}

/-- A call has the imports of another one in some order, and they mean the same paths to it. -/
structure Reorders (walk : Walk) (call other : Call) : Prop where
  perm : (walk.imports other).Perm (walk.imports call)
  target?_eq : ∀ specifier ∈ walk.imports call,
    walk.target? other.file specifier = walk.target? call.file specifier

/-- What is found at a path on a way that agrees, if what is below it is the same but for the change. -/
theorem found_eq_map_of_below (hkeeps : Chain.Keeps change chain)
    (hagrees : Chain.Agrees change chain way (walk.found chain path))
    (hfound : walk.found chain path ≠ [])
    (hbelow : ∀ source, chain.script? path = none → walk.workspace.load? path = some source →
      (walk.treeOf (walk.callFor way path source)).placements =
        (walk.treeOf (walk.callFor chain path source)).placements.map (.rescript change)) :
    walk.found way path = (walk.found chain path).map (.rescript change) := by
  cases hscript : chain.script? path with
  | some script =>
    have hway : way.script? path = some (change path script) := by
      have hmem : { trail := [], path, script : Placement } ∈ walk.found chain path := by
        simp [found, hscript]
      simpa [hscript] using hagrees _ hmem
    simp only [found, hscript, hway]
    rfl
  | none =>
    cases hload : walk.workspace.load? path with
    | none => simp [found, hscript, hload] at hfound
    | some source =>
      have hway : way.script? path = none := by
        have hmem : (walk.compile source path).toPlacement ∈ walk.found chain path := by
          simp [found, hscript, hload]
        simpa [CompiledUnit.toPlacement, path_compile, hscript] using hagrees _ hmem
      have hunit : (walk.compile source path).toPlacement.rescript change =
          (walk.compile source path).toPlacement := by
        simp [Placement.rescript, CompiledUnit.toPlacement, path_compile, hkeeps path hscript]
      simp only [found, hscript, hway, hload, List.map_cons, hunit,
        hbelow source hscript hload]

/-- What a specifier of a call adds is placed below the call. -/
theorem added_subset (hspecifier : specifier ∈ walk.imports call) :
    walk.added call.chain call.file specifier ⊆ (walk.treeOf call).placements := by
  intro placement hplacement
  exact mem_placements_treeOf_iff.mpr ⟨specifier, hspecifier, hplacement⟩

theorem added_eq_of_target? (h : walk.target? file specifier = some path) :
    walk.added chain file specifier = (walk.found chain path).map (.behind specifier) := by
  rw [added, h]
  rfl

theorem lead_eq_unit (htarget : walk.target? file specifier = some path)
    (hscript : chain.script? path = none) (hload : walk.workspace.load? path = some source) :
    walk.lead chain file specifier = .unit path source := by
  obtain ⟨resolved, hresolve, rfl⟩ := Option.map_eq_some_iff.mp htarget
  simp only [lead, hresolve, hscript, hload]

/-- Something is found where a specifier leads. -/
theorem exists_of_lead_ne_nowhere (h : walk.lead chain file specifier ≠ .nowhere) :
    ∃ path, walk.target? file specifier = some path ∧ walk.found chain path ≠ [] := by
  rw [lead] at h
  cases hresolve : walk.resolver.resolve? walk.workspace.files specifier file with
  | none => simp [hresolve] at h
  | some resolved =>
    refine ⟨resolved.path, by rw [target?, hresolve, Option.map_some], ?_⟩
    cases hscript : chain.script? resolved.path with
    | some script => simp [found, hscript]
    | none =>
      cases hload : walk.workspace.load? resolved.path with
      | none => simp [hresolve, hscript, hload] at h
      | some source => simp [found, hscript, hload]

/-- What a specifier adds on another way and to another file, told by what is found there. -/
theorem added_eq_map {importer : Path}
    (htarget : walk.target? importer specifier = walk.target? file specifier)
    (h : ∀ path, walk.target? file specifier = some path →
      walk.found way path = (walk.found chain path).map (.rescript change)) :
    walk.added way importer specifier =
      (walk.added chain file specifier).map (.rescript change) := by
  rw [added, added, htarget]
  cases hpath : walk.target? file specifier with
  | none => rfl
  | some path =>
    rw [Option.map_some, Option.map_some, Option.getD_some, Option.getD_some, h path hpath,
      List.map_map, List.map_map]
    rfl

theorem missing?_eq_none_of_reaches (hcomplete : (walk.treeOf first).missing? = none)
    (hcall : walk.Reaches first call) : (walk.treeOf call).missing? = none :=
  missing?_treeOf_eq_none_iff.mpr fun reached hreached =>
    missing?_treeOf_eq_none_iff.mp hcomplete reached (hcall.trans hreached)

/-- On a way that agrees with that of a call about all that is placed below it, the same is found
where its imports lead, but for the change. -/
theorem found_eq_map (hcomplete : (walk.treeOf call).missing? = none)
    (hkeeps : Chain.Keeps change call.chain)
    (hagrees : Chain.Agrees change call.chain way (walk.treeOf call).placements)
    (hspecifier : specifier ∈ walk.imports call)
    (htarget : walk.target? call.file specifier = some path) :
    walk.found way path = (walk.found call.chain path).map (.rescript change) := by
  -- Below a new unit both ways have gone on by it, and they still agree.
  induction call using walk.wellFounded_calls.induction generalizing way specifier path with
  | h call ih =>
    have hthere : Chain.Agrees change call.chain way (walk.found call.chain path) := by
      intro placement hplacement
      refine hagrees (placement.behind specifier) (added_subset hspecifier ?_)
      rw [added_eq_of_target? htarget]
      exact List.mem_map_of_mem hplacement
    refine found_eq_map_of_below hkeeps hthere ?found fun source hnone hload => ?below
    case found =>
      have hlead := missing?_treeOf_eq_none_iff.mp hcomplete call .refl specifier hspecifier
      obtain ⟨path', htarget', hfound⟩ := exists_of_lead_ne_nowhere hlead
      obtain rfl := Option.some.inj (htarget.symm.trans htarget')
      exact hfound
    case below =>
      have hlead := lead_eq_unit htarget hnone hload
      have hnext := calls_of_lead hspecifier hlead
      have hbelow : Chain.Agrees change call.chain way
          (walk.treeOf (walk.callFor call.chain path source)).placements := by
        intro placement hplacement
        refine hthere placement ?_
        simp only [found, hnone, hload]
        exact List.mem_cons_of_mem _ hplacement
      rw [placements_treeOf, placements_treeOf, List.map_flatMap]
      refine List.flatMap_congr fun next hspecifier => added_eq_map rfl fun target htarget => ?_
      exact ih _ hnext (missing?_eq_none_of_reaches hcomplete (.single hnext)) hkeeps.cons
        (hbelow.cons hkeeps hnone) hspecifier htarget

/-- A call with the same imports in another order adds what each of them adds, in that order. -/
theorem placements_eq_flatMap (hcomplete : (walk.treeOf call).missing? = none)
    (hkeeps : Chain.Keeps change call.chain)
    (hagrees : Chain.Agrees change call.chain other.chain (walk.treeOf call).placements)
    (horder : walk.Reorders call other) :
    (walk.treeOf other).placements = (walk.imports other).flatMap fun specifier =>
      (walk.added call.chain call.file specifier).map (.rescript change) := by
  rw [placements_treeOf]
  refine List.flatMap_congr fun specifier hspecifier => ?_
  have hmem := horder.perm.subset hspecifier
  exact added_eq_map (horder.target?_eq specifier hmem) fun path htarget =>
    found_eq_map hcomplete hkeeps hagrees hmem htarget

theorem placements_perm_map (hcomplete : (walk.treeOf call).missing? = none)
    (hkeeps : Chain.Keeps change call.chain)
    (hagrees : Chain.Agrees change call.chain other.chain (walk.treeOf call).placements)
    (horder : walk.Reorders call other) :
    (walk.treeOf other).placements.Perm ((walk.treeOf call).placements.map (.rescript change)) := by
  rw [placements_eq_flatMap hcomplete hkeeps hagrees horder, placements_treeOf, List.map_flatMap]
  exact horder.perm.flatMap_right _

variable {crumb : Breadcrumb} {bundle : Bundle}

theorem missing?_eq_none_of_visit
    (h : (walk.visit call.script call.file crumb ⟨bundle, call.chain⟩).1 = .ok ()) :
    (walk.treeOf call).missing? = none := by
  rw [Option.eq_none_iff_forall_ne_some]
  intro specifier hmissing
  have hend : ((walk.treeOf call).replay crumb bundle).1 = .ok () := by
    rw [visit_eq_outcome] at h
    exact h
  rw [ImportTree.replay_of_missing hmissing] at hend
  cases hend

/-- The walk of a call takes up what is placed below it, whatever the bundle is. -/
theorem visit_of_complete (h : (walk.treeOf call).missing? = none) :
    walk.visit call.script call.file crumb ⟨bundle, call.chain⟩ =
      (.ok (), ⟨((walk.treeOf call).placements.map (·.toRecord crumb)).foldl Bundle.add bundle,
        call.chain⟩) := by
  have hreplay := ImportTree.replay_of_complete h crumb bundle
  rw [ImportTree.records_eq] at hreplay
  rw [visit_eq_outcome]
  exact congrArg (fun replayed => (replayed.1, State.mk replayed.2 call.chain)) hreplay

/-- If a walk comes to a good end, each unit adds to any bundle what its specifiers add one after
another. What a specifier adds is told by the path that it means and by the scripts of the files on the
way. So a unit with the same imports in another order has the same placements below it in that order, if
the files that are placed there are on both ways with the same scripts or on none. Another version of the
same unit, on the same way, has them too, but with its own script where they lead back to it; the styles
and the diagnostics differ in their order only. -/
theorem siblings_are_independent
    (hend : (walk.visit first.script first.file crumb ⟨bundle, first.chain⟩).1 = .ok ())
    (hcall : walk.Reaches first call) :
    let placements := (walk.treeOf call).placements
    let added := walk.added call.chain call.file
    (∀ crumb bundle, walk.visit call.script call.file crumb ⟨bundle, call.chain⟩ =
      (.ok (), ⟨(((walk.imports call).flatMap added).map (·.toRecord crumb)).foldl Bundle.add
        bundle, call.chain⟩)) ∧
    (∀ specifier ∈ walk.imports call, ∃ path, walk.target? call.file specifier = some path ∧
      ∀ (way : Chain) importer name, (∀ path, way.script? path = call.chain.script? path) →
        walk.target? importer name = some path →
          walk.added way importer name = (walk.found call.chain path).map (.behind name)) ∧
    (∀ other, walk.Reorders call other →
      (∀ placement ∈ placements,
        other.chain.script? placement.path = call.chain.script? placement.path) →
      (walk.treeOf other).placements = (walk.imports other).flatMap added ∧
        (walk.treeOf other).placements.Perm placements) ∧
    ∀ other above recorded script, walk.Reorders call other →
      call.chain = (call.file, recorded) :: above → other.chain = (call.file, script) :: above →
      (walk.treeOf other).placements = ((walk.imports other).flatMap fun specifier =>
          (added specifier).map (.withScript call.file script)) ∧
        (walk.treeOf other).placements.Perm (placements.map (.withScript call.file script)) ∧
        (walk.treeOf other).placements.flatMap (·.style) =
          ((walk.imports other).flatMap fun specifier => (added specifier).flatMap (·.style)) ∧
        (walk.treeOf other).placements.flatMap (·.diagnostics) =
          (walk.imports other).flatMap fun specifier => (added specifier).flatMap (·.diagnostics) := by
  intro placements added
  have hcomplete : (walk.treeOf call).missing? = none :=
    missing?_eq_none_of_reaches (missing?_eq_none_of_visit hend) hcall
  refine ⟨?visit, ?found, ?way, ?version⟩
  case visit =>
    intro crumb bundle
    rw [visit_of_complete hcomplete, placements_treeOf]
  case found =>
    intro specifier hspecifier
    have hlead := missing?_treeOf_eq_none_iff.mp hcomplete call .refl specifier hspecifier
    obtain ⟨path, htarget, -⟩ := exists_of_lead_ne_nowhere hlead
    refine ⟨path, htarget, fun way importer name hway hname => ?_⟩
    have hfound := found_eq_map hcomplete Chain.keeps_keep
      (Chain.agrees_keep fun placement _ => hway placement.path) hspecifier htarget
    rw [added_eq_of_target? hname, hfound, Placement.rescript_keep, List.map_id]
  case way =>
    intro other horder hway
    have hagrees := Chain.agrees_keep hway
    have hflat := placements_eq_flatMap hcomplete Chain.keeps_keep hagrees horder
    have hperm := placements_perm_map hcomplete Chain.keeps_keep hagrees horder
    simp only [Placement.rescript_keep, List.map_id] at hflat hperm
    exact ⟨hflat, hperm⟩
  case version =>
    intro other above recorded script horder hchain hother
    have hkeeps : Chain.Keeps (Chain.replace call.file script) call.chain :=
      hchain ▸ Chain.keeps_replace recorded
    have hagrees : Chain.Agrees (Chain.replace call.file script) call.chain other.chain
        placements := by
      rw [hchain, hother]
      exact Chain.agrees_replace recorded
    have hflat := placements_eq_flatMap hcomplete hkeeps hagrees horder
    refine ⟨hflat, placements_perm_map hcomplete hkeeps hagrees horder, ?_, ?_⟩
    · rw [hflat, List.flatMap_assoc]
      exact List.flatMap_congr fun specifier _ => List.flatMap_map ..
    · rw [hflat, List.flatMap_assoc]
      exact List.flatMap_congr fun specifier _ => List.flatMap_map ..

end Walk

namespace Bundler

def turnedEntry : Text := "import './b.js'\nimport './a.svelte'".toList

theorem siblings_are_independent_diamond :
    let walk := verbatim.walkOf diamondFiles (.ofString "/e.svelte") {}
    let first := verbatim.firstCall diamondFiles diamondEntry (.ofString "/e.svelte") {}
    let other := verbatim.firstCall diamondFiles turnedEntry (.ofString "/e.svelte") {}
    (walk.visit first.script first.file .entry ⟨{}, first.chain⟩).1 = .ok () ∧
      walk.Reaches first first ∧ walk.Reorders first other ∧
      (walk.treeOf other).placements.Perm ((walk.treeOf first).placements.map
        (.withScript (.ofString "/e.svelte") (some turnedEntry))) := by
  intro walk first other
  have hend : (walk.visit first.script first.file .entry ⟨{}, first.chain⟩).1 = .ok () := by
    decide +kernel
  have horder : walk.Reorders first other := ⟨by decide +kernel, by decide +kernel⟩
  obtain ⟨-, -, -, hversion⟩ := Walk.siblings_are_independent hend .refl
  obtain ⟨-, hperm, -⟩ := hversion other [] (some diamondEntry) (some turnedEntry) horder
    (by decide +kernel) (by decide +kernel)
  exact ⟨hend, .refl, horder, hperm⟩

/-- Where an import leads back to the entry, it has the script of the entry. So if the imports of an
entry are put in another order, not all placements below it are the same. -/
theorem turned_entry_leads_back_to_itself :
    let source := "import './b.js'\nimport './c.js'".toList
    let turned := "import './c.js'\nimport './b.js'".toList
    let walk := verbatim.walkOf diamondFiles (.ofString "/e.svelte") {}
    let first := verbatim.firstCall diamondFiles source (.ofString "/e.svelte") {}
    let other := verbatim.firstCall diamondFiles turned (.ofString "/e.svelte") {}
    (walk.visit first.script first.file .entry ⟨{}, first.chain⟩).1 = .ok () ∧
      (walk.visit other.script other.file .entry ⟨{}, other.chain⟩).1 = .ok () ∧
      walk.Reorders first other ∧
      ¬(walk.treeOf other).placements.Perm (walk.treeOf first).placements := by
  intro source turned walk first other
  have hleads : ∀ entry ∈ [source, turned],
      let start := verbatim.firstCall diamondFiles entry (.ofString "/e.svelte") {}
      let next := walk.callFor start.chain (.ofString "/c.js") "import './e.svelte'".toList
      "./c.js".toList ∈ walk.imports start ∧
        walk.lead start.chain start.file "./c.js".toList =
          .unit (.ofString "/c.js") "import './e.svelte'".toList ∧
        "./e.svelte".toList ∈ walk.imports next ∧
        walk.lead next.chain next.file "./e.svelte".toList =
          .ancestor (.ofString "/e.svelte") (some entry) := by
    decide +kernel
  have hback (entry : Text) (hentry : entry ∈ [source, turned]) :
      (⟨["./c.js".toList, "./e.svelte".toList], .ofString "/e.svelte", some entry, [], []⟩ :
        Placement) ∈
      (walk.treeOf (verbatim.firstCall diamondFiles entry (.ofString "/e.svelte") {})).placements := by
    obtain ⟨himport, hunit, hagain, hancestor⟩ := hleads entry hentry
    exact Walk.mem_placements_of_below himport hunit
      (Walk.mem_placements_of_ancestor hagain hancestor)
  refine ⟨by decide +kernel, by decide +kernel, ⟨by decide +kernel, by decide +kernel⟩,
    fun hperm => ?_⟩
  have hsame := Walk.eq_of_trail_eq (hback source (by decide))
    (hperm.subset (hback turned (by decide))) rfl
  have hscript : some source = some turned := congrArg Placement.script hsame
  exact absurd hscript (by decide)

end Bundler

end ComponentBundle
