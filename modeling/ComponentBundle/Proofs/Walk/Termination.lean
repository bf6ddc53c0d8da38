import ComponentBundle.Proofs.Walk.Refinement
import Mathlib.Data.List.Chain

/-!
# The walk ends

A call of the walk leads only to calls with less room on the way, however the imports lead back to the
entry, to each other or to themselves. So calls cannot be nested deeper than there are spellings of
what can be loaded, and following imports without a limit has one result, which is the walk.
-/
namespace ComponentBundle

namespace Walk

variable {walk : Walk}

/-- Nested calls are no more than the room on the way to the first of them. -/
theorem length_le_room_of_isChain {call : Call} {calls : List Call}
    (h : (call :: calls).IsChain walk.Calls) : calls.length ≤ walk.room call.chain := by
  induction calls generalizing call with
  | nil => exact Nat.zero_le _
  | cons next calls ih =>
    obtain ⟨hnext, hcalls⟩ := List.isChain_cons_cons.mp h
    have hroom := room_lt_of_calls hnext
    have hlength := ih hcalls
    rw [List.length_cons]
    omega

/-- A walk ends well or with a specifier that leads nowhere. -/
theorem visit_ne_endless (script : Text) (file : Path) (crumb : Breadcrumb) (state : State) :
    (walk.visit script file crumb state).1 ≠ .error .endless := by
  rw [visit_eq_outcome]
  simp only [outcome]
  generalize walk.importTree _ _ _ = tree
  cases hmissing : tree.missing? with
  | none => simp [ImportTree.replay_of_complete hmissing]
  | some specifier => simp [ImportTree.replay_of_missing hmissing]

end Walk

/-- Walks end. The calls of a walk are well founded, whatever its files, buffers, aliases and
compilers are, and a limit on their nesting that depends only on the number of files and buffers is
never reached. So following imports without a limit determines a result, and bundles are made from
that result. -/
theorem walk_terminates :
    (∀ walk : Walk,
      (WellFounded fun next call => walk.Calls call next) ∧
      (∀ call calls, (call :: calls).IsChain walk.Calls →
        calls.length ≤ walk.workspace.buffers.length + 4 * walk.workspace.files.entries.length) ∧
      (∀ visit, walk.Unlimited visit ↔ visit = walk.visit) ∧
      ∀ script file crumb state, (walk.visit script file crumb state).1 ≠ .error .endless) ∧
    ∀ (bundler : Bundler) workspace source path options,
      let file := path.absolute workspace.files.workingDirectory
      let entry := bundler.entry workspace source file options
      let walk := bundler.walk workspace file options
      let start := bundler.start (Bundler.recorded entry options) file
      ∃ visit, walk.Unlimited visit ∧
        bundler.generate workspace source path options =
          if entry.hasErrors then .failed entry.diagnostics
          else
            match visit (entry.script.getD []) file .entry start with
            | (.ok (), state) => state.bundle
            | (.error failure, _) => .failed [failure.diagnostic] := by
  refine ⟨fun walk => ⟨walk.wellFounded_calls, fun call calls hcalls => ?_,
    fun visit => Walk.unlimited_iff, Walk.visit_ne_endless⟩, ?_⟩
  · exact (Walk.length_le_room_of_isChain hcalls).trans (walk.room_le call.chain)
  · intro bundler workspace source path options file entry walk start
    exact ⟨walk.visit, Walk.unlimited_iff.mpr rfl, rfl⟩

end ComponentBundle
