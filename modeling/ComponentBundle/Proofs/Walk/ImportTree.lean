import ComponentBundle.Proofs.Bundle.Records
import ComponentBundle.Proofs.Walk.Room

/-!
# The tree of imports

What a walk goes through is a tree without any state: each import of a script leads nowhere, back to a
unit on the way, or to a new unit with imports of its own. The way only grows downwards, so the tree
is finite. It is given here apart from the order of the walk, and from the bundle that the walk makes.
-/
namespace ComponentBundle

/-- What an import leads to. -/
inductive Lead where
  | nowhere
  /-- A unit that is on the way already, with the script recorded for it. -/
  | ancestor (path : Path) (script : Option Text)
  /-- Any other file or buffer, with its text. -/
  | unit (path : Path) (source : Text)

/-- The imports of a script, one after another. -/
inductive ImportTree where
  | done
  | missing (specifier : Text) (later : ImportTree)
  | ancestor (specifier : Text) (path : Path) (script : Option Text) (later : ImportTree)
  | unit (specifier : Text) (compiled : CompiledUnit) (imports later : ImportTree)

namespace ImportTree

/-- The specifiers of the imports, without what lies below them. -/
def specifiers : ImportTree → List Text
  | .done => []
  | .missing specifier later => specifier :: later.specifiers
  | .ancestor specifier _ _ later => specifier :: later.specifiers
  | .unit specifier _ _ later => specifier :: later.specifiers

/-- The units of a tree: each before what it imports. -/
def units : ImportTree → List CompiledUnit
  | .done => []
  | .missing _ later => later.units
  | .ancestor _ _ _ later => later.units
  | .unit _ compiled imports later => compiled :: imports.units ++ later.units

/-- The records of a tree under a chain of specifiers: in the same order. -/
def records (crumb : Breadcrumb) : ImportTree → List Record
  | .done => []
  | .missing _ later => later.records crumb
  | .ancestor specifier path script later =>
    { crumb := crumb.child specifier, path := path.text, script } :: later.records crumb
  | .unit specifier compiled imports later =>
    compiled.toRecord (crumb.child specifier) :: imports.records (crumb.child specifier) ++
      later.records crumb

/-- The first specifier that leads nowhere, in the same order. -/
def missing? : ImportTree → Option Text
  | .done => none
  | .missing specifier _ => some specifier
  | .ancestor _ _ _ later => later.missing?
  | .unit _ _ imports later => imports.missing?.or later.missing?

def replay (crumb : Breadcrumb) : ImportTree → Bundle → Except WalkFailure Unit × Bundle
  | .done, bundle => (.ok (), bundle)
  | .missing specifier _, bundle => (.error (.moduleNotFound specifier), bundle)
  | .ancestor specifier path script later, bundle =>
    later.replay crumb (bundle.place (crumb.child specifier) path.text script)
  | .unit specifier compiled imports later, bundle =>
    match imports.replay (crumb.child specifier)
        (bundle.record (crumb.child specifier) compiled) with
    | (.ok (), bundle) => later.replay crumb bundle
    | (.error failure, bundle) => (.error failure, bundle)

/-- What is read off the records is read off the units, if there is nothing of it at an ancestor. -/
theorem flatMap_records {α : Type} {ofRecord : Record → List α} {ofUnit : CompiledUnit → List α}
    (hunit : ∀ compiled crumb, ofRecord (CompiledUnit.toRecord compiled crumb) = ofUnit compiled)
    (hancestor : ∀ crumb path script, ofRecord { crumb, path, script } = [])
    (tree : ImportTree) (crumb : Breadcrumb) :
    (tree.records crumb).flatMap ofRecord = tree.units.flatMap ofUnit := by
  induction tree generalizing crumb with
  | done => rfl
  | missing specifier later ih => exact ih crumb
  | ancestor specifier path script later ih =>
    rw [records, List.flatMap_cons, hancestor, List.nil_append, ih, units]
  | unit specifier compiled imports later ihImports ihLater =>
    simp only [records, units, List.flatMap_append, List.flatMap_cons, hunit, ihImports, ihLater]

theorem style_records (tree : ImportTree) (crumb : Breadcrumb) :
    (tree.records crumb).flatMap (·.style) = tree.units.flatMap (·.style) :=
  flatMap_records (fun _ _ => rfl) (fun _ _ _ => rfl) tree crumb

theorem diagnostics_records (tree : ImportTree) (crumb : Breadcrumb) :
    (tree.records crumb).flatMap (·.diagnostics) = tree.units.flatMap (·.diagnostics) :=
  flatMap_records (fun _ _ => rfl) (fun _ _ _ => rfl) tree crumb

/-- A record stands under the chain of one of the imports, or further down. -/
theorem crumb_of_mem_records {tree : ImportTree} {crumb : Breadcrumb} {record : Record}
    (h : record ∈ tree.records crumb) :
    ∃ specifier ∈ tree.specifiers, record.crumb = crumb.child specifier ∨
      crumb.child specifier ++ [Breadcrumb.separator] <+: record.crumb := by
  induction tree generalizing crumb with
  | done => cases h
  | missing specifier later ih =>
    obtain ⟨below, hbelow, hcrumb⟩ := ih h
    exact ⟨below, List.mem_cons_of_mem _ hbelow, hcrumb⟩
  | ancestor specifier path script later ih =>
    rcases List.mem_cons.mp h with rfl | h
    · exact ⟨specifier, List.mem_cons_self, .inl rfl⟩
    · obtain ⟨below, hbelow, hcrumb⟩ := ih h
      exact ⟨below, List.mem_cons_of_mem _ hbelow, hcrumb⟩
  | unit specifier compiled imports later ihImports ihLater =>
    rcases List.mem_append.mp h with h | h
    · refine ⟨specifier, List.mem_cons_self, ?_⟩
      rcases List.mem_cons.mp h with rfl | h
      · exact .inl rfl
      · obtain ⟨below, -, hcrumb⟩ := ihImports h
        have hfront : crumb.child specifier ++ [Breadcrumb.separator] <+:
            (crumb.child specifier).child below := ⟨below, by simp [Breadcrumb.child]⟩
        rcases hcrumb with hcrumb | hcrumb
        · exact .inr (hcrumb ▸ hfront)
        · exact .inr (hfront.trans ((List.prefix_append _ _).trans hcrumb))
    · obtain ⟨below, hbelow, hcrumb⟩ := ihLater h
      exact ⟨below, List.mem_cons_of_mem _ hbelow, hcrumb⟩

/-- The replay of a tree in which nothing is missing takes up every record. -/
theorem replay_of_complete {tree : ImportTree} (h : tree.missing? = none) (crumb : Breadcrumb)
    (bundle : Bundle) :
    tree.replay crumb bundle = (.ok (), (tree.records crumb).foldl Bundle.add bundle) := by
  induction tree generalizing crumb bundle with
  | done => rfl
  | missing specifier later => simp [missing?] at h
  | ancestor specifier path script later ih =>
    rw [replay, ih h, records, List.foldl_cons, Bundle.place_eq_add]
  | unit specifier compiled imports later ihImports ihLater =>
    obtain ⟨hImports, hLater⟩ := Option.or_eq_none_iff.mp h
    simp only [replay, ihImports hImports, ihLater hLater, records, Bundle.record_eq_add,
      List.foldl_append, List.foldl_cons]

/-- The replay of any other tree ends with the first specifier that leads nowhere. -/
theorem replay_of_missing {tree : ImportTree} {specifier : Text}
    (h : tree.missing? = some specifier) (crumb : Breadcrumb) (bundle : Bundle) :
    (tree.replay crumb bundle).1 = .error (.moduleNotFound specifier) := by
  induction tree generalizing crumb bundle with
  | done => simp [missing?] at h
  | missing first later => simpa [missing?, replay] using h
  | ancestor first path script later ih => exact ih h _ _
  | unit first compiled imports later ihImports ihLater =>
    rw [replay]
    rcases Option.or_eq_some_iff.mp h with hImports | ⟨hImports, hLater⟩
    · have hfailure := ihImports hImports (crumb.child first)
        (bundle.record (crumb.child first) compiled)
      generalize imports.replay (crumb.child first) (bundle.record (crumb.child first) compiled) =
        replayed at hfailure
      obtain ⟨result, made⟩ := replayed
      obtain rfl : result = _ := hfailure
      rfl
    · rw [replay_of_complete hImports]
      exact ihLater hLater _ _

end ImportTree

namespace Walk

/-- What an import in a script of a file leads to. -/
def lead (walk : Walk) (chain : Chain) (file : Path) (specifier : Text) : Lead :=
  match walk.resolver.resolve? walk.workspace.files specifier file with
  | none => .nowhere
  | some ⟨path, _⟩ =>
    match chain.script? path with
    | some script => .ancestor path script
    | none =>
      match walk.workspace.load? path with
      | some source => .unit path source
      | none => .nowhere

/-- The specifiers that are looked for. -/
def asked (walk : Walk) (specifiers : List Text) : List Text :=
  specifiers.filter fun specifier => ¬(walk.hasRuntime ∧ specifier = runtimeSpecifier)

variable {walk : Walk} {chain : Chain} {file path : Path} {specifier source : Text}

/-- A new unit is what a specifier means, it is not on the way yet, and its text can be loaded. -/
theorem exists_of_lead_eq_unit (h : walk.lead chain file specifier = .unit path source) :
    ∃ resolved, walk.resolver.resolve? walk.workspace.files specifier file = some resolved ∧
      resolved.path = path ∧ chain.script? path = none ∧
      walk.workspace.load? path = some source := by
  unfold lead at h
  split at h
  · cases h
  · rename_i resolved isPackage hresolve
    split at h
    · cases h
    · rename_i hchain
      split at h
      · rename_i text hload
        obtain ⟨rfl, rfl⟩ := Lead.unit.inj h
        exact ⟨_, hresolve, rfl, hchain, hload⟩
      · cases h

/-- An ancestor is what a specifier means, and its path is on the way with the script. -/
theorem exists_of_lead_eq_ancestor {script : Option Text}
    (h : walk.lead chain file specifier = .ancestor path script) :
    ∃ resolved, walk.resolver.resolve? walk.workspace.files specifier file = some resolved ∧
      resolved.path = path ∧ chain.script? path = some script := by
  unfold lead at h
  split at h
  · cases h
  · rename_i resolved isPackage hresolve
    split at h
    · rename_i hchain
      obtain ⟨rfl, rfl⟩ := Lead.ancestor.inj h
      exact ⟨_, hresolve, rfl, hchain⟩
    · split at h <;> cases h

theorem room_lt_of_lead (h : walk.lead chain file specifier = .unit path source)
    (script : Option Text) : walk.room ((path, script) :: chain) < walk.room chain := by
  obtain ⟨resolved, hresolve, rfl, hchain, hload⟩ := exists_of_lead_eq_unit h
  exact room_lt_of_resolve? hresolve hchain hload script

/-- The tree of some imports of a file, under the units on the way to it. -/
def importTree (walk : Walk) (chain : Chain) (file : Path) : List Text → ImportTree
  | [] => .done
  | specifier :: specifiers =>
    let later := walk.importTree chain file specifiers
    match _hlead : walk.lead chain file specifier with
    | .nowhere => .missing specifier later
    | .ancestor path script => .ancestor specifier path script later
    | .unit path source =>
      let unit := walk.compile source path
      .unit specifier unit
        (walk.importTree ((path, unit.script) :: chain) path
          (walk.asked (Import.specifiers (scanned unit source))))
        later
termination_by specifiers => (walk.room chain, specifiers.length)
decreasing_by
  · exact Prod.Lex.right _ (Nat.lt_succ_self _)
  · exact Prod.Lex.left _ _ (room_lt_of_lead _hlead _)

theorem specifiers_importTree (specifiers : List Text) :
    (walk.importTree chain file specifiers).specifiers = specifiers := by
  induction specifiers with
  | nil => simp [importTree, ImportTree.specifiers]
  | cons specifier specifiers ih =>
    rw [importTree]
    split <;> simp [ImportTree.specifiers, ih]

end Walk

end ComponentBundle
