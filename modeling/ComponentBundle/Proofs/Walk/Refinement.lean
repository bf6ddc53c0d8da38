import ComponentBundle.Proofs.Walk.ImportTree

/-!
# The walk replays the tree of imports

The walk keeps one bundle and one way for all units that it comes across. Whatever it does below one
of them, it leaves the way as it found it, so where an import leads is what the tree of imports says.
The walk of a script is then the replay of its tree. This needs the imports to come to an end, which
they do: a call of the walk is only made for a unit that takes up room on the way.
-/
namespace ComponentBundle.Walk

/-- A call of the walk: a script, its file and the way to it. -/
structure Call where
  script : Text
  file : Path
  chain : Chain

/-- The call for a unit, made on the way to it. -/
def callFor (walk : Walk) (chain : Chain) (path : Path) (source : Text) : Call :=
  let unit := walk.compile source path
  ⟨scanned unit source, path, (path, unit.script) :: chain⟩

/-- The calls that the walk of a script asks for: one for each import that leads to a new unit. -/
def Calls (walk : Walk) (call next : Call) : Prop :=
  ∃ specifier ∈ walk.asked (Import.specifiers call.script), ∃ path source,
    walk.lead call.chain call.file specifier = .unit path source ∧
      next = walk.callFor call.chain path source

variable {walk : Walk} {chain : Chain} {file path : Path} {crumb : Breadcrumb}
  {specifier source : Text} {specifiers : List Text} {state : State} {visit : Visit}

theorem room_lt_of_calls {call next : Call} (h : walk.Calls call next) :
    walk.room next.chain < walk.room call.chain := by
  obtain ⟨specifier, -, path, source, hlead, rfl⟩ := h
  exact room_lt_of_lead hlead _

theorem wellFounded_calls (walk : Walk) : WellFounded fun next call => walk.Calls call next :=
  Subrelation.wf room_lt_of_calls (measure fun call : Call => walk.room call.chain).wf

def outcome (walk : Walk) : Visit := fun script file crumb state =>
  let tree := walk.importTree state.inProgress file (walk.asked (Import.specifiers script))
  ((tree.replay crumb state.bundle).1, ⟨(tree.replay crumb state.bundle).2, state.inProgress⟩)

def Follows (walk : Walk) (visit : Visit) (call : Call) : Prop :=
  ∀ crumb bundle, visit call.script call.file crumb ⟨bundle, call.chain⟩ =
    walk.outcome call.script call.file crumb ⟨bundle, call.chain⟩

/-- The walk of the first import depends on the state only through what the import leads to. -/
theorem visitAll_cons (h : ¬(walk.hasRuntime ∧ specifier = runtimeSpecifier)) :
    walk.visitAll visit file crumb (specifier :: specifiers) state =
      match walk.lead state.inProgress file specifier with
      | .nowhere => (.error (.moduleNotFound specifier), state)
      | .ancestor path script =>
        walk.visitAll visit file crumb specifiers
          (state.reuse (crumb.child specifier) path script)
      | .unit path source =>
        let unit := walk.compile source path
        match visit (scanned unit source) path (crumb.child specifier)
            (state.enter (crumb.child specifier) path unit) with
        | (.ok (), state) => walk.visitAll visit file crumb specifiers (state.leave path)
        | (.error failure, state) => (.error failure, state.leave path) := by
  rw [visitAll, if_neg h, lead]
  cases walk.resolver.resolve? walk.workspace.files specifier file with
  | none => rfl
  | some resolved =>
    simp only
    cases state.inProgress.script? resolved.path with
    | some script => rfl
    | none =>
      simp only [Workspace.require]
      cases walk.workspace.load? resolved.path with
      | none => rfl
      | some source => rfl

/-- A new unit is put in front of the way. -/
theorem enter_of_lead (h : walk.lead chain file specifier = .unit path source) (bundle : Bundle) :
    (State.mk bundle chain).enter crumb path (walk.compile source path) =
      ⟨bundle.record crumb (walk.compile source path), (walk.callFor chain path source).chain⟩ := by
  obtain ⟨-, -, -, hscript, -⟩ := exists_of_lead_eq_unit h
  rw [State.enter, Chain.insert_of_script?_eq_none hscript, callFor]

/-- Taking it off again leaves the way as it was. -/
theorem leave_of_lead (h : walk.lead chain file specifier = .unit path source) (bundle : Bundle) :
    (State.mk bundle (walk.callFor chain path source).chain).leave path = ⟨bundle, chain⟩ := by
  obtain ⟨-, -, -, hscript, -⟩ := exists_of_lead_eq_unit h
  rw [State.leave, callFor, ← Chain.insert_of_script?_eq_none hscript, Chain.remove_insert hscript]

/-- If the calls for the units further down follow their trees, so does the walk of the imports. -/
theorem visitAll_eq_replay {specifiers : List Text}
    (hvisit : ∀ specifier ∈ walk.asked specifiers, ∀ path source,
      walk.lead chain file specifier = .unit path source →
        walk.Follows visit (walk.callFor chain path source)) (bundle : Bundle) :
    walk.visitAll visit file crumb specifiers ⟨bundle, chain⟩ =
      let tree := walk.importTree chain file (walk.asked specifiers)
      ((tree.replay crumb bundle).1, ⟨(tree.replay crumb bundle).2, chain⟩) := by
  -- Each import hands on the bundle that it has made. The way is the same for all of them.
  induction specifiers generalizing bundle with
  | nil => simp [visitAll, asked, importTree, ImportTree.replay]
  | cons specifier specifiers ih =>
    by_cases hskip : walk.hasRuntime ∧ specifier = runtimeSpecifier
    · have hasked : walk.asked (specifier :: specifiers) = walk.asked specifiers := by
        simp [asked, hskip]
      rw [hasked] at hvisit ⊢
      rw [visitAll, if_pos hskip, ih hvisit]
    have hasked : walk.asked (specifier :: specifiers) = specifier :: walk.asked specifiers :=
      List.filter_cons_of_pos (decide_eq_true hskip)
    rw [hasked] at hvisit ⊢
    obtain ⟨hfirst, hlater⟩ := List.forall_mem_cons.mp hvisit
    rw [visitAll_cons hskip, importTree]
    cases hlead : walk.lead chain file specifier with
    | nowhere => rfl
    | ancestor path script => exact ih hlater _
    | unit path source =>
      have hbelow := hfirst path source hlead (crumb.child specifier)
        (bundle.record (crumb.child specifier) (walk.compile source path))
      rw [callFor] at hbelow
      simp only [enter_of_lead hlead, callFor, hbelow, outcome, ImportTree.replay]
      rcases ImportTree.replay (crumb.child specifier) _ _ with ⟨_ | _, made⟩
      · exact congrArg (Prod.mk _) (leave_of_lead hlead made)
      · exact (congrArg _ (leave_of_lead hlead made)).trans (ih hlater made)

theorem visitAll_specifiers_eq_outcome {script : Text}
    (hvisit : ∀ next, walk.Calls ⟨script, file, state.inProgress⟩ next → walk.Follows visit next) :
    walk.visitAll visit file crumb (Import.specifiers script) state =
      walk.outcome script file crumb state :=
  visitAll_eq_replay (fun specifier hspecifier path source hlead =>
    hvisit _ ⟨specifier, hspecifier, path, source, hlead, rfl⟩) state.bundle

/-- A limit above the room on the way is never reached. -/
theorem visitWithin_eq_outcome {n : Nat} {call : Call} (h : walk.room call.chain < n) :
    walk.Follows (walk.visitWithin n) call := by
  induction n generalizing call with
  | zero => omega
  | succ n ih =>
    intro crumb bundle
    exact visitAll_specifiers_eq_outcome fun next hnext =>
      ih (Nat.lt_of_lt_of_le (room_lt_of_calls hnext) (Nat.lt_succ_iff.mp h))

/-- The walk of a script replays its tree of imports and leaves the way as it was. -/
theorem visit_eq_outcome (walk : Walk) : walk.visit = walk.outcome := by
  funext script file crumb state
  have hfollows : walk.Follows (walk.visitWithin (walk.room state.inProgress + 1))
      ⟨script, file, state.inProgress⟩ :=
    visitWithin_eq_outcome (Nat.lt_succ_self _)
  exact hfollows crumb state.bundle

/-- A visit that follows imports as far as they lead. -/
def Unlimited (walk : Walk) (visit : Visit) : Prop :=
  ∀ script file crumb state, visit script file crumb state =
    walk.visitAll visit file crumb (Import.specifiers script) state

/-- Whatever follows imports without a limit replays the tree of imports. -/
theorem eq_outcome_of_unlimited (h : walk.Unlimited visit) : visit = walk.outcome := by
  have hfollows (call : Call) : walk.Follows visit call := by
    induction call using walk.wellFounded_calls.induction with
    | h call ih =>
      intro crumb bundle
      rw [h]
      exact visitAll_specifiers_eq_outcome ih
  funext script file crumb state
  exact hfollows ⟨script, file, state.inProgress⟩ crumb state.bundle

/-- There is one visit without a limit, and it is the walk. -/
theorem unlimited_iff : walk.Unlimited visit ↔ visit = walk.visit := by
  constructor
  · intro h
    rw [eq_outcome_of_unlimited h, visit_eq_outcome]
  · rintro rfl script file crumb state
    rw [visit_eq_outcome]
    exact (visitAll_specifiers_eq_outcome fun _ _ _ _ => rfl).symm

end ComponentBundle.Walk
