import ComponentBundle.Proofs.Workspace.Spelling
import ComponentBundle.Proofs.Workspace.Writing

/-!
# Removed files

A file is taken from its place in the tree, and all directories stay. Nothing leads through a file, so
every path leads where it did, whether or not something stands there now. Only the paths that lead to
the place find nothing.
-/
namespace ComponentBundle

open ComponentBundle.Path

namespace FileTree

variable {tree : FileTree} {p : Path} {names before : List Text} {content : Option Text}

/-- What is removed stands nowhere, nor does anything below it, and everything else stays. -/
theorem at?_remove (hnames : names ≠ []) (other : List Text) :
    (tree.remove names).at? other = if names <+: other then none else tree.at? other := by
  by_cases hother : other = []
  · have hroot : ¬names <+: [] := by simpa using hnames
    rw [hother, if_neg hroot]
    rfl
  rw [at?, at?, if_neg hother, if_neg hother, remove, List.find?_filter]
  split
  · rename_i hbelow
    have hnone : tree.entries.find? (fun entry =>
        decide ((!names.isPrefixOf entry.1) = true ∧ decide (entry.1 = other) = true)) = none := by
      refine List.find?_eq_none.mpr fun entry _ hentry => ?_
      obtain ⟨hkept, heq⟩ := of_decide_eq_true hentry
      rw [of_decide_eq_true heq, Bool.not_eq_true', ← Bool.not_eq_true,
        List.isPrefixOf_iff_prefix] at hkept
      exact hkept hbelow
    rw [hnone, Option.map_none]
  · rename_i hbelow
    refine congrArg _ (List.find?_congr fun entry _ => ?_)
    by_cases hentry : entry.1 = other
    · have hkept : names.isPrefixOf other = false := by
        rwa [← Bool.not_eq_true, List.isPrefixOf_iff_prefix]
      simp [hentry, hkept]
    · simp [hentry]

/-- A step that leads to a place or below it begins there or below it, if it does not lead right to it. -/
theorem prefix_of_step? {next : List Text} {piece : Text} (h : tree.step? before piece = some next)
    (hbelow : names <+: next) : names <+: before ∨ next = names := by
  rw [step?_eq h] at hbelow ⊢
  revert hbelow
  cases Component.ofPiece? piece with
  | none => exact .inl
  | some component =>
    cases component with
    | name text => exact fun hbelow => (List.prefix_concat_iff.mp hbelow).symm.imp_right Eq.symm
    | parent => exact fun hbelow => .inl (hbelow.trans (List.dropLast_prefix before))
    | root => exact .inl
    | current => exact .inl

variable (hplace : tree.at? names = some (.file content))
include hplace

theorem ne_nil_of_at?_eq_file : names ≠ [] := by
  rintro rfl
  rw [at?, if_pos rfl] at hplace
  cases hplace

/-- A place that is not a directory is the only one that is reached among those below it. What is
followed from there, and from all other places, is the same as before. -/
theorem foldlM_step?_remove (pieces : List Text) (hbefore : names <+: before → before = names) :
    pieces.foldlM (tree.remove names).step? before = pieces.foldlM tree.step? before ∧
      ∀ after, pieces.foldlM tree.step? before = some after → names <+: after →
        after = names := by
  have hnames := ne_nil_of_at?_eq_file hplace
  induction pieces generalizing before with
  | nil =>
    refine ⟨rfl, fun after hafter => ?_⟩
    rw [List.foldlM_nil, Option.pure_def, Option.some.injEq] at hafter
    rwa [← hafter]
  | cons piece pieces ih =>
    have hdirectory : (tree.remove names).at? before = some .directory ↔
        tree.at? before = some .directory := by
      rw [at?_remove hnames]
      split
      · rename_i hbelow
        simp [hbefore hbelow, hplace]
      · rfl
    have hstep : (tree.remove names).step? before piece = tree.step? before piece := by
      simp only [step?, hdirectory]
    rw [List.foldlM_cons, List.foldlM_cons, hstep]
    cases hnext : tree.step? before piece with
    | none => simp
    | some next =>
      refine ih fun hbelow => ?_
      rcases prefix_of_step? hnext hbelow with hprefix | hhere
      · simp [step?, hbefore hprefix, hplace] at hnext
      · exact hhere

/-- Every path leads to the same place, and none to a place below the one that is removed. -/
theorem locate?_remove (p : Path) : (tree.remove names).locate? p = tree.locate? p ∧
    ∀ other, tree.locate? p = some other → names <+: other → other = names := by
  have hroot : names <+: [] → [] = names := fun h => (List.prefix_nil.mp h).symm
  have hfold (pieces : List Text) := foldlM_step?_remove hplace pieces hroot
  have hhome : (tree.remove names).workingDirectory = tree.workingDirectory := rfl
  simp only [locate?, hhome]
  split
  · exact ⟨rfl, fun other hother => by cases hother⟩
  · split
    · exact hfold _
    · exact hfold _

theorem lookup_remove_of_eq (h : tree.locate? p = some names) :
    FileTree.entry? (tree.remove names) p = none := by
  unfold entry?
  rw [(locate?_remove hplace p).1, h, Option.bind_some,
    at?_remove (ne_nil_of_at?_eq_file hplace), if_pos (List.prefix_refl names)]

theorem lookup_remove_of_ne (h : tree.locate? p ≠ some names) :
    FileTree.entry? (tree.remove names) p = tree.entry? p := by
  obtain ⟨hlocate, hoff⟩ := locate?_remove hplace p
  unfold entry?
  rw [hlocate]
  cases hother : tree.locate? p with
  | none => rfl
  | some other =>
    have hbelow : ¬names <+: other := fun hprefix =>
      h (hother.trans (congrArg some (hoff other hother hprefix)))
    rw [Option.bind_some, Option.bind_some, at?_remove (ne_nil_of_at?_eq_file hplace),
      if_neg hbelow]

theorem isDirectory_remove (p : Path) :
    (tree.remove names).isDirectory p = tree.isDirectory p := by
  rw [isDirectory, isDirectory]
  by_cases h : tree.locate? p = some names
  · have hentry : tree.entry? p = some (.file content) := by
      unfold entry?
      rwa [h, Option.bind_some]
    rw [lookup_remove_of_eq hplace h, hentry]
    rfl
  · rw [lookup_remove_of_ne hplace h]

theorem isFile_remove_of_ne (h : tree.locate? p ≠ some names) :
    (tree.remove names).isFile p = tree.isFile p := by
  rw [isFile, isFile, lookup_remove_of_ne hplace h]

theorem read?_remove_of_ne (h : tree.locate? p ≠ some names) :
    (tree.remove names).read? p = tree.read? p := by
  rw [read?, read?, lookup_remove_of_ne hplace h]

end FileTree

end ComponentBundle
