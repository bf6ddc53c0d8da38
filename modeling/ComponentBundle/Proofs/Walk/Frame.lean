import ComponentBundle.Proofs.Import.Line
import ComponentBundle.Proofs.Walk.Assembly

/-!
# What a walk leaves as it was

All walks below an entry share one bundle and one way: each of them puts units on the way and takes
them off again, and records what it comes across. Whether a walk ends well or with an import that leads
nowhere, the way is then what it was before, and the bundle has only got records below the chain of the
walk. So styles and diagnostics have been put behind those that were there, no chain has lost its path
or its script, and only chains that go on behind that of the walk have others than before.
-/
namespace ComponentBundle

namespace Breadcrumb

variable {crumb key : Breadcrumb} {specifier : Text}

/-- Whether a key goes on behind a chain: with a separator and at least one character more. -/
def IsBelow (crumb key : Breadcrumb) : Prop := ∃ more : Text, more ≠ [] ∧ key = crumb.child more

theorem isBelow_child (h : specifier ≠ []) : crumb.IsBelow (crumb.child specifier) :=
  ⟨specifier, h, rfl⟩

theorem IsBelow.of_child (h : (crumb.child specifier).IsBelow key) : crumb.IsBelow key := by
  obtain ⟨more, -, rfl⟩ := h
  refine ⟨specifier ++ separator :: more, by simp, ?_⟩
  simp [child]

end Breadcrumb

namespace Bundle

variable {crumb key : Breadcrumb} {first second third : Bundle}

def GrowsBelow (crumb : Breadcrumb) (before after : Bundle) : Prop :=
  ∃ records : List Record, (∀ record ∈ records, crumb.IsBelow record.crumb) ∧
    after = records.foldl add before

theorem GrowsBelow.refl (crumb : Breadcrumb) (bundle : Bundle) : bundle.GrowsBelow crumb bundle :=
  ⟨[], by simp, rfl⟩

theorem GrowsBelow.trans (h : first.GrowsBelow crumb second) (h' : second.GrowsBelow crumb third) :
    first.GrowsBelow crumb third := by
  obtain ⟨records, hrecords, rfl⟩ := h
  obtain ⟨others, hothers, rfl⟩ := h'
  exact ⟨records ++ others, List.forall_mem_append.mpr ⟨hrecords, hothers⟩,
    List.foldl_append.symm⟩

theorem GrowsBelow.of_child {specifier : Text}
    (h : first.GrowsBelow (crumb.child specifier) second) : first.GrowsBelow crumb second := by
  obtain ⟨records, hrecords, hsecond⟩ := h
  exact ⟨records, fun record hrecord => (hrecords record hrecord).of_child, hsecond⟩

theorem growsBelow_add {record : Record} (h : crumb.IsBelow record.crumb) (bundle : Bundle) :
    bundle.GrowsBelow crumb (bundle.add record) :=
  ⟨[record], List.forall_mem_singleton.mpr h, rfl⟩

/-- What holds of the first bundle, and of every bundle with one more record below the chain, holds of
the second one. -/
theorem GrowsBelow.induction {motive : Bundle → Prop} (h : first.GrowsBelow crumb second)
    (hfirst : motive first)
    (hadd : ∀ bundle record, motive bundle → crumb.IsBelow record.crumb →
      motive (bundle.add record)) : motive second := by
  obtain ⟨records, hrecords, rfl⟩ := h
  exact List.foldlRecOn records add hfirst fun bundle hbundle record hrecord =>
    hadd bundle record hbundle (hrecords record hrecord)

theorem GrowsBelow.isPrefix (h : first.GrowsBelow crumb second) :
    first.style <+: second.style ∧ first.diagnostics <+: second.diagnostics := by
  apply h.induction
  · exact ⟨List.prefix_refl _, List.prefix_refl _⟩
  · intro bundle record hbundle _
    obtain ⟨hstyle, hdiagnostics⟩ := hbundle
    exact ⟨hstyle.trans (List.prefix_append _ _), hdiagnostics.trans (List.prefix_append _ _)⟩

theorem GrowsBelow.isSome_path (h : first.GrowsBelow crumb second)
    (hkey : (first.paths.get? key).isSome) : (second.paths.get? key).isSome := by
  apply h.induction
  · exact hkey
  · intro bundle record hbundle _
    rw [paths_add]
    split
    · rfl
    · exact hbundle

theorem GrowsBelow.isSome_script (h : first.GrowsBelow crumb second)
    (hkey : (first.script? key).isSome) : (second.script? key).isSome := by
  apply h.induction
  · exact hkey
  · intro bundle record hbundle _
    rw [script?_add]
    split
    · -- A record without a script leaves the one that stands under its chain.
      cases record.script with
      | none => exact hbundle
      | some script => rfl
    · exact hbundle

/-- A chain that is not below the other one keeps its path and its script. -/
theorem GrowsBelow.eq_of_not_isBelow (h : first.GrowsBelow crumb second) (hkey : ¬crumb.IsBelow key) :
    second.paths.get? key = first.paths.get? key ∧ second.script? key = first.script? key := by
  apply h.induction
  · exact ⟨rfl, rfl⟩
  · intro bundle record hbundle hrecord
    have hne : record.crumb ≠ key := fun heq => hkey (heq ▸ hrecord)
    rw [paths_add, script?_add, if_neg hne, if_neg hne]
    exact hbundle

theorem GrowsBelow.isBelow (h : first.GrowsBelow crumb second)
    (hkey : second.paths.get? key ≠ first.paths.get? key ∨ second.script? key ≠ first.script? key) :
    crumb.IsBelow key := by
  by_contra hbelow
  obtain ⟨hpath, hscript⟩ := h.eq_of_not_isBelow hbelow
  exact hkey.elim (· hpath) (· hscript)

end Bundle

namespace Walk

variable {walk : Walk} {crumb : Breadcrumb} {file path : Path} {script specifier : Text}
  {specifiers : List Text} {visit : Visit} {first second third : State}

/-- What a walk below a chain leaves as it was. -/
structure Frame (crumb : Breadcrumb) (before after : State) : Prop where
  inProgress : after.inProgress = before.inProgress
  bundle : before.bundle.GrowsBelow crumb after.bundle

theorem Frame.refl (crumb : Breadcrumb) (state : State) : Frame crumb state state :=
  ⟨rfl, .refl _ _⟩

theorem Frame.trans (h : Frame crumb first second) (h' : Frame crumb second third) :
    Frame crumb first third :=
  ⟨h'.inProgress.trans h.inProgress, h.bundle.trans h'.bundle⟩

theorem frame_reuse (hspecifier : specifier ≠ []) (state : State) (path : Path)
    (script : Option Text) :
    Frame crumb state (state.reuse (crumb.child specifier) path script) := by
  refine ⟨rfl, ?_⟩
  rw [State.reuse, Bundle.place_eq_add]
  exact Bundle.growsBelow_add (Breadcrumb.isBelow_child hspecifier) _

/-- A unit is put on the way, something is done below its chain, and it is taken off again. This gives
back the way as it was only because the unit was not on it before. -/
theorem Frame.leave {before after : State} {unit : CompiledUnit} (hspecifier : specifier ≠ [])
    (hscript : before.inProgress.script? path = none)
    (h : Frame (crumb.child specifier) (before.enter (crumb.child specifier) path unit) after) :
    Frame crumb before (after.leave path) := by
  have hrecord : before.bundle.GrowsBelow crumb
      (before.bundle.record (crumb.child specifier) unit) := by
    rw [Bundle.record_eq_add]
    exact Bundle.growsBelow_add (Breadcrumb.isBelow_child hspecifier) _
  refine ⟨?way, hrecord.trans h.bundle.of_child⟩
  case way =>
    have hafter : after.inProgress = before.inProgress.insert path unit.script := h.inProgress
    rw [State.leave, hafter, Chain.remove_insert hscript]

/-- A visit that keeps the frame from every state, whether it ends well or not. -/
def KeepsFrame (visit : Visit) : Prop :=
  ∀ script file crumb state, Frame crumb state (visit script file crumb state).2

/-- One import after another: each of them hands on a state within the frame, and so does the one that
ends the walk early. -/
theorem frame_visitAll (hvisit : KeepsFrame visit)
    (hspecifiers : ∀ specifier ∈ specifiers, specifier ≠ []) (state : State) :
    Frame crumb state (walk.visitAll visit file crumb specifiers state).2 := by
  induction specifiers generalizing state with
  | nil => exact .refl _ _
  | cons specifier specifiers ih =>
    obtain ⟨hspecifier, hlater⟩ := List.forall_mem_cons.mp hspecifiers
    by_cases hskip : walk.hasRuntime ∧ specifier = runtimeSpecifier
    · rw [visitAll, if_pos hskip]
      exact ih hlater state
    rw [visitAll_cons hskip]
    cases hlead : walk.lead state.inProgress file specifier with
    | nowhere => exact .refl _ _
    | ancestor path script => exact (frame_reuse hspecifier state path script).trans (ih hlater _)
    | unit path source =>
      obtain ⟨-, -, -, hscript, -⟩ := exists_of_lead_eq_unit hlead
      have hbelow := hvisit (scanned (walk.compile source path) source) path (crumb.child specifier)
        (state.enter (crumb.child specifier) path (walk.compile source path))
      have hstep := hbelow.leave hspecifier hscript
      simp only
      generalize visit _ _ _ _ = outcome at hstep ⊢
      obtain ⟨_ | _, after⟩ := outcome
      · exact hstep
      · exact hstep.trans (ih hlater _)

/-- However long the way may get, the walk keeps the frame. -/
theorem keepsFrame_visitWithin (walk : Walk) (n : Nat) : KeepsFrame (walk.visitWithin n) := by
  induction n with
  | zero => exact fun _ _ _ state => .refl _ state
  | succ n ih =>
    intro script file crumb state
    have hspecifiers : ∀ specifier ∈ Import.specifiers script, specifier ≠ [] :=
      fun specifier hmem => (Import.exists_mem_specifiers_iff.mp ⟨script, hmem⟩).1
    exact frame_visitAll ih hspecifiers state

/-- The walk of the imports in a script, from any state and however it ends, leaves the way as it was:
the same units with the same scripts. Styles and diagnostics are those from before with others behind
them, and no chain loses its path or its script. All that is put into the bundle are records under
chains that go on behind the chain of the walk, with a separator and at least one character, and no
other chain has another path or script than before. -/
theorem visit_changes_only_below (walk : Walk) (script : Text) (file : Path) (crumb : Breadcrumb)
    (state : State) :
    let after := (walk.visit script file crumb state).2
    after.inProgress = state.inProgress ∧
      state.bundle.style <+: after.bundle.style ∧
      state.bundle.diagnostics <+: after.bundle.diagnostics ∧
      (∀ key, ((state.bundle.paths.get? key).isSome → (after.bundle.paths.get? key).isSome) ∧
        ((state.bundle.script? key).isSome → (after.bundle.script? key).isSome)) ∧
      (∃ records : List Record, after.bundle = records.foldl Bundle.add state.bundle ∧
        ∀ record ∈ records, ∃ more : Text, more ≠ [] ∧
          record.crumb = crumb ++ Breadcrumb.separator :: more) ∧
      ∀ key, after.bundle.paths.get? key ≠ state.bundle.paths.get? key ∨
          after.bundle.script? key ≠ state.bundle.script? key →
        ∃ more : Text, more ≠ [] ∧ key = crumb ++ Breadcrumb.separator :: more := by
  intro after
  have hframe : Frame crumb state after := keepsFrame_visitWithin walk _ script file crumb state
  have hgrows : state.bundle.GrowsBelow crumb after.bundle := hframe.bundle
  obtain ⟨hstyle, hdiagnostics⟩ := hgrows.isPrefix
  obtain ⟨records, hrecords, hafter⟩ := hgrows
  exact ⟨hframe.inProgress, hstyle, hdiagnostics,
    fun key => ⟨hframe.bundle.isSome_path, hframe.bundle.isSome_script⟩,
    ⟨records, hafter, hrecords⟩, fun key hkey => hframe.bundle.isBelow hkey⟩

def brokenFiles : Workspace where
  files :=
    { workingDirectory := .ofString "/"
      entries := [(["a.js".toList], .file (some "import './gone.js'".toList))] }
  buffers := []

/-- What the walk of another script, which imports this one, comes to from within a bundle. -/
def brokenOutcome (state : State) : Outcome :=
  (Bundler.verbatim.walk brokenFiles (.ofString "/e.svelte") {}).visit "import './a.js'".toList
    (.ofString "/u.js") ">./u.js".toList state

def brokenStart : State := ⟨{ style := "p".toList }, [(.ofString "/e.svelte", none)]⟩

/-- The walk fails within a unit. The unit is recorded, and it is not on the way any more. -/
theorem visit_changes_only_below_missing :
    (brokenOutcome brokenStart).1 = .error (.moduleNotFound "./gone.js".toList) ∧
      (brokenOutcome brokenStart).2.bundle.paths.get? ">./u.js>./a.js".toList =
        some "/a.js".toList ∧
      (brokenOutcome brokenStart).2.inProgress = brokenStart.inProgress ∧
      brokenStart.bundle.style <+: (brokenOutcome brokenStart).2.bundle.style := by
  have hframe := visit_changes_only_below (Bundler.verbatim.walk brokenFiles (.ofString "/e.svelte") {})
    "import './a.js'".toList (.ofString "/u.js") ">./u.js".toList brokenStart
  exact ⟨by decide +kernel, by decide +kernel, hframe.1, hframe.2.1⟩

end Walk

end ComponentBundle
