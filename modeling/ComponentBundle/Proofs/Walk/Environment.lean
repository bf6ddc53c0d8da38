import ComponentBundle.Proofs.Resolver.Tested
import ComponentBundle.Proofs.Walk.Cycle

/-!
# What a walk sees of its environment

A walk looks at its environment through the leads of the imports that it reaches, and through nothing
else: what specifiers mean, and what is loaded. So if two environments agree in this for every import
that one of the walks reaches, the other walk reaches the same, and the bundles are equal.
-/
namespace ComponentBundle

namespace Walk

variable {walk other : Walk}

/-- At a call two walks look for the same imports, and these lead to the same units and are compiled
to the same. -/
structure AgreeAt (walk other : Walk) (call : Call) : Prop where
  imports_eq : walk.imports call = other.imports call
  lead_eq : ∀ specifier ∈ other.imports call, walk.lead call.chain call.file specifier =
    other.lead call.chain call.file specifier
  compile_eq : ∀ specifier ∈ other.imports call, ∀ path source,
    other.lead call.chain call.file specifier = .unit path source →
      walk.compile source path = other.compile source path

/-- Two walks that agree at each call that one of them reaches go through the same tree. -/
theorem treeOf_eq (call : Call)
    (hagree : ∀ reached, other.Reaches call reached → walk.AgreeAt other reached) :
    walk.treeOf call = other.treeOf call := by
  induction call using other.wellFounded_calls.induction with
  | h call ih =>
    obtain ⟨himports, hlead, hcompile⟩ := hagree call .refl
    have hbelow : ∀ specifier ∈ other.imports call, ∀ path source,
        other.lead call.chain call.file specifier = .unit path source →
          walk.treeOf (walk.callFor call.chain path source) =
            other.treeOf (other.callFor call.chain path source) := by
      intro specifier hspecifier path source hunit
      have hnext : other.Calls call (other.callFor call.chain path source) :=
        ⟨specifier, hspecifier, path, source, hunit, rfl⟩
      have hcall : walk.callFor call.chain path source = other.callFor call.chain path source := by
        rw [callFor, callFor, hcompile specifier hspecifier path source hunit]
      rw [hcall]
      exact ih _ hnext fun reached hreached => hagree reached (.head hnext hreached)
    rw [treeOf, treeOf, himports]
    generalize other.imports call = specifiers at hlead hcompile hbelow
    induction specifiers with
    | nil => rw [importTree, importTree]
    | cons specifier specifiers ihLater =>
      obtain ⟨hhere, hlater⟩ := List.forall_mem_cons.mp hlead
      obtain ⟨hcompileHere, hcompileLater⟩ := List.forall_mem_cons.mp hcompile
      obtain ⟨hbelowHere, hbelowLater⟩ := List.forall_mem_cons.mp hbelow
      rw [importTree_cons, importTree_cons, hhere, ihLater hlater hcompileLater hbelowLater]
      cases hlead : other.lead call.chain call.file specifier with
      | nowhere => rfl
      | ancestor path script => rfl
      | unit path source =>
        simp only [hcompileHere path source hlead, hbelowHere path source hlead]

end Walk

namespace Bundler

variable {bundler : Bundler} {workspace other : Workspace} {source : Text} {path : Path}
  {options : GenerateOptions}

/-- Where the supporting files are the same, entries are compiled to the same. -/
theorem compiledEntry_eq_of_sameSupport (h : workspace.files.SameSupport other.files) :
    bundler.compiledEntry workspace source path options =
      bundler.compiledEntry other source path options := by
  rw [compiledEntry, compiledEntry, entry, entry, h.ofTree_eq, h.workingDirectory_eq]

/-- And specifiers are looked for in the same directories. -/
theorem resolver_walkOf_eq (h : workspace.files.SameProject other.files) :
    (bundler.walkOf workspace path options).resolver =
      (bundler.walkOf other path options).resolver := by
  have haliases (moduleDirectory : Option Path) (file : Path) :
      aliases? workspace.files moduleDirectory file = aliases? other.files moduleDirectory file := by
    simp only [aliases?, funext h.discover?_eq]
  simp only [walkOf, walk, Resolver.make, haliases, h.moduleDirectory?_eq, h.workingDirectory_eq]

/-- The bundle depends on the environment through the entry, and through what the walk looks for at the
calls that it reaches. -/
theorem generate_eq_of_agreeAt
    (hfile : path.absolute workspace.files.workingDirectory =
      path.absolute other.files.workingDirectory)
    (hentry : bundler.compiledEntry workspace source path options =
      bundler.compiledEntry other source path options)
    (hagree : ∀ call, (bundler.walkOf other path options).Reaches
        (bundler.firstCall other source path options) call →
      (bundler.walkOf workspace path options).AgreeAt (bundler.walkOf other path options) call) :
    bundler.generate workspace source path options =
      bundler.generate other source path options := by
  have hfirst : bundler.firstCall workspace source path options =
      bundler.firstCall other source path options := by
    rw [firstCall, firstCall, recordedEntry, recordedEntry, hentry, hfile]
  have htree : bundler.importTree workspace source path options =
      bundler.importTree other source path options := by
    rw [importTree_eq_treeOf, importTree_eq_treeOf, hfirst]
    exact Walk.treeOf_eq _ hagree
  cases herrors : (bundler.compiledEntry other source path options).hasErrors with
  | true =>
    rw [generate_of_hasErrors herrors, generate_of_hasErrors (hentry ▸ herrors), hentry]
  | false =>
    rw [generate_eq_replay herrors, generate_eq_replay (hentry ▸ herrors), htree, recordedEntry,
      recordedEntry, hentry, hfile]

/-- An import of a file means something to a walk that comes to it. -/
def Means (bundler : Bundler) (workspace : Workspace) (source : Text) (path : Path)
    (options : GenerateOptions) (file : Path) (specifier : Text) (resolved : Resolved) : Prop :=
  let walk := bundler.walkOf workspace path options
  ∃ call, walk.Reaches (bundler.firstCall workspace source path options) call ∧ call.file = file ∧
    specifier ∈ walk.imports call ∧
      walk.resolver.resolve? workspace.files specifier file = some resolved

/-- Among calls that are closed under the units that they lead to, what holds of all that their imports
mean holds of all that the imports of the bundle mean. -/
theorem forall_means_of_closed (bundler : Bundler) (workspace : Workspace) (source : Text)
    (path : Path) (options : GenerateOptions) (calls : List Walk.Call)
    (Holds : Path → Text → Resolved → Prop)
    (hfirst : bundler.firstCall workspace source path options ∈ calls)
    (hclosed : ∀ call ∈ calls, ∀ specifier ∈ (bundler.walkOf workspace path options).imports call,
      (∀ unit ∈ (bundler.walkOf workspace path options).unit? call specifier,
          (bundler.walkOf workspace path options).callFor call.chain unit.1 unit.2 ∈ calls) ∧
        ∀ resolved ∈ (bundler.walkOf workspace path options).resolver.resolve? workspace.files
          specifier call.file, Holds call.file specifier resolved)
    (file : Path) (specifier : Text) (resolved : Resolved)
    (h : bundler.Means workspace source path options file specifier resolved) :
    Holds file specifier resolved := by
  obtain ⟨call, hcall, rfl, hspecifier, hresolve⟩ := h
  obtain ⟨hcalls, -⟩ := (bundler.walkOf workspace path options).forall_visits_of_closed calls
    (fun _ _ => True) hfirst fun call hcall specifier hspecifier unit hunit =>
      ⟨(hclosed call hcall specifier hspecifier).1 unit hunit, trivial⟩
  exact (hclosed call (hcalls call hcall) specifier hspecifier).2 resolved hresolve

/-- Among more files a bundle is the same, if its units are compiled to the same, and if all that its
imports mean there can be loaded from the fewer files as well, and is one of them or was not found by
a test. -/
theorem generate_eq_of_sameProject (h : workspace.files.SameProject other.files)
    (hgrows : workspace.files.Grows other.files)
    (hentry : bundler.compiledEntry workspace source path options =
      bundler.compiledEntry other source path options)
    (hcompile : ∀ chain file text, (bundler.walkOf other path options).Visits
        (bundler.firstCall other source path options) chain file text →
      (bundler.walkOf workspace path options).compile text file =
        (bundler.walkOf other path options).compile text file)
    (hmeans : ∀ file specifier resolved,
      bundler.Means other source path options file specifier resolved →
        workspace.load? resolved.path = other.load? resolved.path ∧
          (resolved.path ∈ (bundler.walkOf other path options).resolver.tested other.files
              specifier file →
            other.files.isFile resolved.path = true →
              workspace.files.isFile resolved.path = true)) :
    bundler.generate workspace source path options =
      bundler.generate other source path options := by
  have hfile : path.absolute workspace.files.workingDirectory =
      path.absolute other.files.workingDirectory := by
    rw [h.workingDirectory_eq]
  refine generate_eq_of_agreeAt hfile hentry fun call hcall => ⟨rfl, ?lead, ?compile⟩
  case lead =>
    intro specifier hspecifier
    have hmeant (resolved : Resolved) (hresolved :
        (bundler.walkOf other path options).resolver.resolve? other.files specifier call.file =
          some resolved) :=
      hmeans call.file specifier resolved ⟨call, hcall, rfl, hspecifier, hresolved⟩
    have hresolve : (bundler.walkOf workspace path options).resolver.resolve? workspace.files
          specifier call.file =
        (bundler.walkOf other path options).resolver.resolve? other.files specifier
          call.file := by
      rw [resolver_walkOf_eq h]
      exact Resolver.resolve?_eq h hgrows fun resolved hresolved => (hmeant resolved hresolved).2
    have hfiles : (bundler.walkOf workspace path options).workspace = workspace := rfl
    have hfiles' : (bundler.walkOf other path options).workspace = other := rfl
    rw [Walk.lead, Walk.lead, hfiles, hfiles', hresolve]
    cases hother : (bundler.walkOf other path options).resolver.resolve? other.files specifier
        call.file with
    | none => rfl
    | some resolved => simp only [(hmeant resolved hother).1]
  case compile =>
    intro specifier hspecifier file text hlead
    exact hcompile call.chain file text ⟨call, hcall, rfl, specifier, hspecifier, hlead⟩

/-- Where the supporting files are the same, units are compiled to the same anyway. -/
theorem generate_eq_of_grows (h : workspace.files.SameSupport other.files)
    (hgrows : workspace.files.Grows other.files)
    (hmeans : ∀ file specifier resolved,
      bundler.Means other source path options file specifier resolved →
        workspace.load? resolved.path = other.load? resolved.path ∧
          (resolved.path ∈ (bundler.walkOf other path options).resolver.tested other.files
              specifier file →
            other.files.isFile resolved.path = true →
              workspace.files.isFile resolved.path = true)) :
    bundler.generate workspace source path options =
      bundler.generate other source path options := by
  have hcompile (text : Text) (file : Path) :
      (bundler.walkOf workspace path options).compile text file =
        (bundler.walkOf other path options).compile text file := by
    simp only [Walk.compile, walkOf, walk, h.ofTree_eq]
  exact generate_eq_of_sameProject h.sameProject hgrows (compiledEntry_eq_of_sameSupport h)
    (fun _ file text _ => hcompile text file) hmeans

end Bundler

end ComponentBundle
