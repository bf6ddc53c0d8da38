import ComponentBundle.Proofs.Resolver.Resolved
import ComponentBundle.Proofs.Workspace.Spelling
import ComponentBundle.Walk

/-!
# Room on the way

The way from the entry to a unit holds each file once, so a unit that is put on it takes up one of the
finitely many spellings of what can be loaded. This bounds how long the way gets.
-/
namespace ComponentBundle

namespace Chain

variable {chain : Chain} {path : Path}

theorem script?_eq_none_iff :
    chain.script? path = none ↔ ∀ unit ∈ chain, unit.1.components ≠ path.components := by
  simp [script?]

/-- A path on the way has the script of a unit with its components. -/
theorem exists_of_script?_eq_some {script : Option Text} (h : chain.script? path = some script) :
    ∃ unit ∈ chain, unit.1.components = path.components ∧ unit.2 = script := by
  obtain ⟨unit, hunit, rfl⟩ := Option.map_eq_some_iff.mp h
  exact ⟨unit, List.mem_of_find?_eq_some hunit, by simpa using List.find?_some hunit, rfl⟩

theorem script?_cons (unit : Path × Option Text) (chain : Chain) (path : Path) :
    script? (unit :: chain) path =
      if unit.1.components = path.components then some unit.2 else chain.script? path := by
  by_cases h : unit.1.components = path.components <;> simp [script?, h]

theorem remove_of_script?_eq_none (h : chain.script? path = none) : chain.remove path = chain := by
  rw [remove, List.filter_eq_self]
  simpa using script?_eq_none_iff.mp h

/-- A file that is not on the way is put in front of it. -/
theorem insert_of_script?_eq_none (h : chain.script? path = none) (script : Option Text) :
    chain.insert path script = (path, script) :: chain := by
  rw [insert, remove_of_script?_eq_none h]

/-- Taking the file off again gives back the way as it was. -/
theorem remove_insert (h : chain.script? path = none) (script : Option Text) :
    (chain.insert path script).remove path = chain := by
  rw [insert_of_script?_eq_none h]
  simpa [remove] using remove_of_script?_eq_none h

end Chain

namespace Walk

variable {walk : Walk} {chain : Chain} {path : Path}

/-- A spelling that is not on the way yet takes up room. -/
theorem room_cons_lt (hspelling : path.components ∈ walk.workspace.spellings)
    (h : chain.script? path = none) (script : Option Text) :
    walk.room ((path, script) :: chain) < walk.room chain := by
  have hfree : path.components ∈ walk.workspace.spellings.filter
      fun spelling => chain.all fun unit => unit.1.components ≠ spelling := by
    simpa [hspelling] using Chain.script?_eq_none_iff.mp h
  have hsplit : (walk.workspace.spellings.filter fun spelling =>
      ((path, script) :: chain).all fun unit => unit.1.components ≠ spelling) =
      (walk.workspace.spellings.filter fun spelling =>
        chain.all fun unit => unit.1.components ≠ spelling).filter (path.components ≠ ·) := by
    simp [List.filter_filter]
  rw [room, room, hsplit]
  refine List.length_filter_lt_length_iff_exists.mpr ⟨_, hfree, by simp⟩

/-- A unit that an import leads to, and that is not on the way yet, takes up room. -/
theorem room_lt_of_resolve? {specifier source : Text} {file : Path} {resolved : Resolved}
    (hresolve : walk.resolver.resolve? walk.workspace.files specifier file = some resolved)
    (h : chain.script? resolved.path = none)
    (hload : walk.workspace.load? resolved.path = some source) (script : Option Text) :
    walk.room ((resolved.path, script) :: chain) < walk.room chain :=
  room_cons_lt (Workspace.components_mem_spellings (Resolver.isNormal_of_resolve? hresolve) hload) h
    script

/-- However long the way is, there is no more room on it than there are spellings. -/
theorem room_le (walk : Walk) (chain : Chain) :
    walk.room chain ≤ walk.workspace.buffers.length + 4 * walk.workspace.files.entries.length := by
  rw [← Workspace.length_spellings]
  exact List.length_filter_le _ _

end Walk

end ComponentBundle
