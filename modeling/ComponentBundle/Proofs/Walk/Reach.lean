import ComponentBundle.Proofs.Walk.Assembly
import Mathlib.Logic.Relation

/-!
# What a walk reaches

The calls of a walk begin with that of the entry, and each of them asks for others. The walk comes to
a good end exactly if every import of every call that it reaches leads somewhere. On the way to a call
no file stands under the same path twice, and what was on the way to the first call stays on it.
-/
namespace ComponentBundle

namespace Walk

variable {walk : Walk} {first call next : Call} {chain : Chain} {file path : Path} {source : Text}

/-- The specifiers that a call looks for. -/
def imports (walk : Walk) (call : Call) : List Text := walk.asked (Import.specifiers call.script)

/-- The tree of the imports of a call. -/
def treeOf (walk : Walk) (call : Call) : ImportTree :=
  walk.importTree call.chain call.file (walk.imports call)

theorem calls_of_lead {specifier : Text} (hspecifier : specifier ∈ walk.imports call)
    (hlead : walk.lead call.chain call.file specifier = .unit path source) :
    walk.Calls call (walk.callFor call.chain path source) :=
  ⟨specifier, hspecifier, path, source, hlead, rfl⟩

/-- The walk that begins with one call comes to another one. -/
def Reaches (walk : Walk) : Call → Call → Prop := Relation.ReflTransGen walk.Calls

/-- The walk comes to a unit: an import of a call that it reaches leads there. What is on the way to
that call is on the way to the unit. -/
def Visits (walk : Walk) (first : Call) (chain : Chain) (path : Path) (source : Text) : Prop :=
  ∃ call, walk.Reaches first call ∧ call.chain = chain ∧
    ∃ specifier ∈ walk.imports call, walk.lead call.chain call.file specifier = .unit path source

/-- Each of the specifiers leads somewhere, seen from the file of a call. -/
def LeadsOn (walk : Walk) (call : Call) (specifiers : List Text) : Prop :=
  ∀ specifier ∈ specifiers, walk.lead call.chain call.file specifier ≠ .nowhere

theorem leadsOn_of_eq_nil {specifiers : List Text} (h : specifiers = []) :
    walk.LeadsOn call specifiers := by
  simp [LeadsOn, h]

theorem Visits.reaches (h : walk.Visits first chain path source) :
    walk.Reaches first (walk.callFor chain path source) := by
  obtain ⟨call, hcall, rfl, specifier, hspecifier, hlead⟩ := h
  exact hcall.tail ⟨specifier, hspecifier, path, source, hlead, rfl⟩

/-- The walk reaches the first call, and one call for each unit. -/
theorem reaches_iff : walk.Reaches first call ↔
    call = first ∨ ∃ chain path source, walk.Visits first chain path source ∧
      call = walk.callFor chain path source := by
  constructor
  · intro h
    rcases h.cases_tail with rfl | ⟨before, hbefore, specifier, hspecifier, path, source, hlead, rfl⟩
    · exact .inl rfl
    · exact .inr ⟨_, _, _, ⟨before, hbefore, rfl, specifier, hspecifier, hlead⟩, rfl⟩
  · rintro (rfl | ⟨chain, path, source, hvisit, rfl⟩)
    · exact .refl
    · exact hvisit.reaches

/-- What holds of the first call, and of the call for a unit when it holds of the one that leads
there, holds of all calls that are reached. -/
theorem Reaches.induction {Holds : Call → Prop} (hfirst : Holds first)
    (hstep : ∀ call, walk.Reaches first call → Holds call → ∀ specifier ∈ walk.imports call,
      ∀ path source, walk.lead call.chain call.file specifier = .unit path source →
        Holds (walk.callFor call.chain path source))
    (h : walk.Reaches first call) : Holds call := by
  induction h with
  | refl => exact hfirst
  | tail hbefore hcalls ih =>
    obtain ⟨specifier, hspecifier, path, source, hlead, rfl⟩ := hcalls
    exact hstep _ hbefore ih specifier hspecifier path source hlead

deriving instance DecidableEq for Lead
deriving instance DecidableEq for Call

def unit? (walk : Walk) (call : Call) (specifier : Text) : Option (Path × Text) :=
  match walk.lead call.chain call.file specifier with
  | .unit path source => some (path, source)
  | _ => none

theorem unit?_eq_some_iff {specifier : Text} : walk.unit? call specifier = some (path, source) ↔
    walk.lead call.chain call.file specifier = .unit path source := by
  rw [unit?]
  cases walk.lead call.chain call.file specifier <;> simp

/-- Calls among which are the first one and those for all units that they lead to are all that is
reached. What holds of these units holds of all that are visited. -/
theorem forall_visits_of_closed (walk : Walk) (calls : List Call) (Holds : Path → Text → Prop)
    (hfirst : first ∈ calls)
    (hclosed : ∀ call ∈ calls, ∀ specifier ∈ walk.imports call,
      ∀ unit ∈ walk.unit? call specifier,
        walk.callFor call.chain unit.1 unit.2 ∈ calls ∧ Holds unit.1 unit.2) :
    (∀ call, walk.Reaches first call → call ∈ calls) ∧
      ∀ chain path source, walk.Visits first chain path source → Holds path source := by
  have hcalls (call : Call) (h : walk.Reaches first call) : call ∈ calls := by
    refine h.induction hfirst fun call _ hcall specifier hspecifier path source hlead => ?_
    exact (hclosed call hcall specifier hspecifier (path, source) (unit?_eq_some_iff.mpr hlead)).1
  refine ⟨hcalls, fun chain path source hvisit => ?_⟩
  obtain ⟨call, hcall, rfl, specifier, hspecifier, hlead⟩ := hvisit
  exact (hclosed call (hcalls call hcall) specifier hspecifier (path, source)
    (unit?_eq_some_iff.mpr hlead)).2

/-- The tree of some imports, by what the first of them leads to. -/
theorem importTree_cons (specifier : Text) (specifiers : List Text) :
    walk.importTree chain file (specifier :: specifiers) =
      match walk.lead chain file specifier with
      | .nowhere => .missing specifier (walk.importTree chain file specifiers)
      | .ancestor path script =>
        .ancestor specifier path script (walk.importTree chain file specifiers)
      | .unit path source =>
        .unit specifier (walk.compile source path) (walk.treeOf (walk.callFor chain path source))
          (walk.importTree chain file specifiers) := by
  rw [importTree]
  split <;> simp [*, treeOf, imports, callFor]

/-- Nothing is missing below some imports if they all lead somewhere, and nothing is missing below the
units that they lead to. -/
theorem missing?_importTree_eq_none_iff {specifiers : List Text} :
    (walk.importTree chain file specifiers).missing? = none ↔
      ∀ specifier ∈ specifiers, walk.lead chain file specifier ≠ .nowhere ∧
        ∀ path source, walk.lead chain file specifier = .unit path source →
          (walk.treeOf (walk.callFor chain path source)).missing? = none := by
  induction specifiers with
  | nil => simp [importTree, ImportTree.missing?]
  | cons specifier specifiers ih =>
    rw [importTree_cons, List.forall_mem_cons, ← ih]
    cases hlead : walk.lead chain file specifier <;> simp [ImportTree.missing?]

/-- Nothing is missing below a call exactly if all imports of the calls that it reaches lead
somewhere. -/
theorem missing?_treeOf_eq_none_iff : (walk.treeOf call).missing? = none ↔
    ∀ reached, walk.Reaches call reached → walk.LeadsOn reached (walk.imports reached) := by
  induction call using walk.wellFounded_calls.induction with
  | h call ih =>
    rw [treeOf, missing?_importTree_eq_none_iff]
    constructor
    · intro h reached hreached specifier hspecifier
      rcases hreached.cases_head with rfl | ⟨next, hnext, hreached⟩
      · exact (h specifier hspecifier).1
      · have hmissing : (walk.treeOf next).missing? = none := by
          obtain ⟨specifier, hspecifier, path, source, hlead, rfl⟩ := hnext
          exact (h specifier hspecifier).2 path source hlead
        exact (ih next hnext).mp hmissing reached hreached specifier hspecifier
    · intro h specifier hspecifier
      refine ⟨h call .refl specifier hspecifier, fun path source hlead => ?_⟩
      have hnext : walk.Calls call (walk.callFor call.chain path source) :=
        ⟨specifier, hspecifier, path, source, hlead, rfl⟩
      exact (ih _ hnext).mpr fun reached hreached => h reached (.head hnext hreached)

/-- What is missing first is an import of a call that is reached, and it leads nowhere. -/
theorem exists_of_missing?_treeOf {missing : Text} (h : (walk.treeOf call).missing? = some missing) :
    ∃ reached, walk.Reaches call reached ∧ missing ∈ walk.imports reached ∧
      walk.lead reached.chain reached.file missing = .nowhere := by
  induction call using walk.wellFounded_calls.induction with
  | h call ih =>
    have hsome (specifiers : List Text) (hspecifiers : specifiers ⊆ walk.imports call)
        (hmissing : (walk.importTree call.chain call.file specifiers).missing? = some missing) :
        ∃ reached, walk.Reaches call reached ∧ missing ∈ walk.imports reached ∧
          walk.lead reached.chain reached.file missing = .nowhere := by
      induction specifiers with
      | nil => simp [importTree, ImportTree.missing?] at hmissing
      | cons specifier specifiers ihLater =>
        obtain ⟨hspecifier, hlater⟩ := List.cons_subset.mp hspecifiers
        rw [importTree_cons] at hmissing
        cases hlead : walk.lead call.chain call.file specifier with
        | nowhere =>
          rw [hlead] at hmissing
          obtain rfl : specifier = missing := Option.some.inj hmissing
          exact ⟨call, .refl, hspecifier, hlead⟩
        | ancestor path script =>
          rw [hlead] at hmissing
          exact ihLater hlater hmissing
        | unit path source =>
          rw [hlead] at hmissing
          rcases Option.or_eq_some_iff.mp hmissing with hbelow | ⟨-, hbehind⟩
          · have hcalls := calls_of_lead hspecifier hlead
            obtain ⟨reached, hreached, hfound⟩ := ih _ hcalls hbelow
            exact ⟨reached, .head hcalls hreached, hfound⟩
          · exact ihLater hlater hbehind
    exact hsome _ (List.Subset.refl _) h

/-- What is true of the way to every call that is reached from a first one. -/
structure WayFrom (first call : Call) : Prop where
  isNormal : ∀ unit ∈ call.chain, unit.1.IsNormal
  distinct : call.chain.Pairwise fun unit other => unit.1.components ≠ other.1.components
  isSuffix : first.chain <:+ call.chain

/-- A unit that an import leads to comes in front of the way. -/
theorem WayFrom.callFor (h : WayFrom first call) {specifier : Text}
    (hlead : walk.lead call.chain call.file specifier = .unit path source) :
    WayFrom first (walk.callFor call.chain path source) := by
  obtain ⟨resolved, hresolve, rfl, hscript, -⟩ := exists_of_lead_eq_unit hlead
  refine ⟨?isNormal, ?distinct, h.isSuffix.trans (List.suffix_cons _ _)⟩
  case isNormal =>
    exact List.forall_mem_cons.mpr ⟨Resolver.isNormal_of_resolve? hresolve, h.isNormal⟩
  case distinct =>
    refine List.pairwise_cons.mpr ⟨fun unit hunit => ?_, h.distinct⟩
    exact (Chain.script?_eq_none_iff.mp hscript unit hunit).symm

theorem WayFrom.of_reaches (hfirst : WayFrom first first) (h : walk.Reaches first call) :
    WayFrom first call :=
  h.induction hfirst fun _ _ hway _ _ _ _ hlead => hway.callFor hlead

end Walk

namespace Bundler

/-- The call that the walk of an entry begins with. -/
def firstCall (bundler : Bundler) (workspace : Workspace) (source : Text) (path : Path)
    (options : GenerateOptions) : Walk.Call :=
  let file := path.absolute workspace.files.workingDirectory
  ⟨(bundler.compiledEntry workspace source path options).script.getD [], file,
    [(file, (bundler.recordedEntry workspace source path options).script)]⟩

/-- The walk of an entry. -/
def walkOf (bundler : Bundler) (workspace : Workspace) (path : Path) (options : GenerateOptions) :
    Walk :=
  bundler.walk workspace (path.absolute workspace.files.workingDirectory) options

variable {bundler : Bundler} {workspace : Workspace} {source : Text} {path : Path}
  {options : GenerateOptions} {call : Walk.Call}

theorem importTree_eq_treeOf : bundler.importTree workspace source path options =
    (bundler.walkOf workspace path options).treeOf
      (bundler.firstCall workspace source path options) := rfl

/-- The entry is on the way to everything, and no path is on it twice. -/
theorem wayFrom_firstCall (h : (bundler.walkOf workspace path options).Reaches
      (bundler.firstCall workspace source path options) call) :
    Walk.WayFrom (bundler.firstCall workspace source path options) call := by
  refine .of_reaches ⟨?_, List.pairwise_singleton _ _, List.suffix_refl _⟩ h
  exact List.forall_mem_singleton.mpr (Path.isNormal_absolute _ _)

end Bundler

end ComponentBundle
