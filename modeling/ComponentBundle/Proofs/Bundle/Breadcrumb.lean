import ComponentBundle.Bundle
import ComponentBundle.Proofs.Text.Pieces
import Mathlib.Data.List.Basic

/-!
# What a chain tells about its specifiers

A chain puts its specifiers one behind the other, each with a separator in front of it. A specifier may
hold separators itself, so what can be read off a chain are the pieces between its separators. They are
the specifiers if none of them holds a separator, and only then the depth of the chain is their number.
-/
namespace ComponentBundle.Breadcrumb

/-- The chain of what some specifiers lead to from a unit, one after another. -/
def extend (crumb : Breadcrumb) (trail : List Text) : Breadcrumb := trail.foldl child crumb

/-- What separators cut the specifiers into. -/
def pieces (trail : List Text) : List Text := trail.flatMap (Text.splitOnChar separator)

variable {crumb : Breadcrumb} {trail other : List Text}

theorem extend_cons (crumb : Breadcrumb) (specifier : Text) (trail : List Text) :
    crumb.extend (specifier :: trail) = (crumb.child specifier).extend trail := rfl

theorem extend_eq (crumb : Breadcrumb) (trail : List Text) :
    crumb.extend trail = crumb ++ trail.flatMap (separator :: ·) := by
  induction trail generalizing crumb with
  | nil => simp [extend]
  | cons specifier trail ih => simp [extend_cons, ih, child]

/-- The pieces of the specifiers come out of the chain behind those that it begins with. -/
theorem splitOnChar_extend (crumb : Breadcrumb) (trail : List Text) :
    Text.splitOnChar separator (crumb.extend trail) =
      Text.splitOnChar separator crumb ++ pieces trail := by
  induction trail generalizing crumb with
  | nil => simp [extend, pieces]
  | cons specifier trail ih =>
    rw [extend_cons, ih, child, Text.splitOnChar_append_separator, pieces, pieces, List.flatMap_cons,
      List.append_assoc]

theorem flatMap_pieces (trail : List Text) :
    (pieces trail).flatMap (separator :: ·) = trail.flatMap (separator :: ·) := by
  rw [pieces, List.flatMap_assoc]
  exact List.flatMap_congr fun specifier _ => Text.flatMap_splitOnChar specifier

/-- Two ways to go on from a chain lead to the same one exactly if they have the same pieces. -/
theorem extend_eq_extend_iff : crumb.extend trail = crumb.extend other ↔ pieces trail = pieces other := by
  constructor
  · intro h
    have hsplit := congrArg (Text.splitOnChar separator) h
    rw [splitOnChar_extend, splitOnChar_extend] at hsplit
    exact List.append_cancel_left hsplit
  · intro h
    rw [extend_eq, extend_eq, ← flatMap_pieces trail, ← flatMap_pieces other, h]

theorem pieces_eq_self (h : ∀ specifier ∈ trail, separator ∉ specifier) : pieces trail = trail := by
  induction trail with
  | nil => rfl
  | cons specifier trail ih =>
    obtain ⟨hspecifier, htrail⟩ := List.forall_mem_cons.mp h
    have hrest := ih htrail
    rw [pieces] at hrest
    rw [pieces, List.flatMap_cons, hrest, Text.splitOnChar_of_notMem hspecifier, List.singleton_append]

/-- Specifiers without separators are told by their chain. -/
theorem eq_of_extend_eq (htrail : ∀ specifier ∈ trail, separator ∉ specifier)
    (hother : ∀ specifier ∈ other, separator ∉ specifier)
    (h : crumb.extend trail = crumb.extend other) : trail = other := by
  rw [extend_eq_extend_iff, pieces_eq_self htrail, pieces_eq_self hother] at h
  exact h

/-- A chain is as deep as it has specifiers, and separators in them. -/
theorem depth_extend (crumb : Breadcrumb) (trail : List Text) :
    depth (crumb.extend trail) =
      depth crumb + trail.length + trail.flatten.count separator := by
  induction trail generalizing crumb with
  | nil => simp [extend]
  | cons specifier trail ih =>
    have hchild : depth (crumb.child specifier) =
        depth crumb + 1 + specifier.count separator := by
      simp only [depth, child, List.count_append, List.count_cons_self]
      omega
    rw [extend_cons, ih, hchild, List.length_cons, List.flatten_cons, List.count_append]
    omega

theorem depth_entry_extend_eq_length_iff :
    depth (entry.extend trail) = trail.length ↔ ∀ specifier ∈ trail, separator ∉ specifier := by
  have hcount : depth (entry.extend trail) = trail.length ↔ trail.flatten.count separator = 0 := by
    rw [depth_extend, show depth entry = 0 from rfl]
    omega
  rw [hcount, List.count_eq_zero, List.mem_flatten]
  simp only [not_exists, not_and]

end ComponentBundle.Breadcrumb
