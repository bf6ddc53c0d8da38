import ComponentBundle.Proofs.Path.Absolute
import ComponentBundle.Proofs.Workspace.Spelling

/-!
# Where paths lead

The four ways to spell a place in normal form differ in whether they begin at the root and whether
they step up: paths that agree in both and lead to the same place are one path. In a directory that is
spelled with other slashes and dots a name leads to the same place, as long as both paths are short
enough to be looked up.
-/
namespace ComponentBundle

open ComponentBundle.Path

namespace FileTree

variable {tree : FileTree} {p q directory : Path} {names : List Text}

/-- Two paths lead to the same place in the tree. -/
def SamePlace (tree : FileTree) (p q : Path) : Prop :=
  ∃ names, tree.locate? p = some names ∧ tree.locate? q = some names

/-- Two paths begin alike: both at the root or neither, and both with a step up or neither. -/
def BeginAlike (p q : Path) : Prop :=
  (.root ∈ p.components ↔ .root ∈ q.components) ∧
    (.parent ∈ p.components ↔ .parent ∈ q.components)

instance : Decidable (BeginAlike p q) := inferInstanceAs (Decidable ((_ ↔ _) ∧ (_ ↔ _)))

/-- Only the beginning tells the spellings of a place from each other. -/
private theorem eq_of_mem_spellings {spelling other : List Component}
    (h : spelling ∈ tree.spellings names) (hother : other ∈ tree.spellings names)
    (hroot : .root ∈ spelling ↔ .root ∈ other) (hparent : .parent ∈ spelling ↔ .parent ∈ other) :
    spelling = other := by
  have hnoRoot (names : List Text) : .root ∉ names.map Component.name := by simp
  have hnoParent (names : List Text) : .parent ∉ names.map Component.name := by simp
  simp only [spellings, List.mem_cons, List.not_mem_nil, or_false] at h hother
  rcases h with rfl | rfl | rfl | rfl <;> rcases hother with rfl | rfl | rfl | rfl <;>
    simp only [List.mem_cons, hnoRoot, hnoParent, reduceCtorEq, true_or, or_true, or_self, iff_true,
      iff_false, not_true_eq_false] at hroot hparent ⊢

/-- Paths in normal form that begin alike and lead to the same place are the same. -/
theorem SamePlace.eq_of_beginAlike (h : tree.SamePlace p q) (hp : p.IsNormal) (hq : q.IsNormal)
    (hbegin : BeginAlike p q) : p = q := by
  obtain ⟨names, hlocate, hlocate'⟩ := h
  exact hp.eq_of_components hq (eq_of_mem_spellings (components_mem_spellings hp hlocate)
    (components_mem_spellings hq hlocate') hbegin.1 hbegin.2)

/-- From what is no directory nothing can be followed. -/
private theorem foldlM_step?_of_not_directory (h : tree.at? names ≠ some .directory)
    (pieces : List Text) (name : Text) : (pieces ++ [name]).foldlM tree.step? names = none := by
  cases pieces <;> simp [step?, h]

/-- Before a name, pieces that do not count can be left out. -/
private theorem foldlM_step?_concat (pieces : List Text) (name : Text) (names : List Text) :
    (pieces ++ [name]).foldlM tree.step? names =
      ((pieces.filterMap Component.ofPiece?).map Component.text ++ [name]).foldlM tree.step?
        names := by
  induction pieces generalizing names with
  | nil => rfl
  | cons piece pieces ih =>
    by_cases hdirectory : tree.at? names = some .directory
    swap
    · rw [foldlM_step?_of_not_directory hdirectory, foldlM_step?_of_not_directory hdirectory]
    rcases ofPiece?_eq piece with hnone | ⟨component, hcomponent, htext⟩
    · have hstep : tree.step? names piece = some names := by
        simp [step?, hdirectory, ofPiece?_eq_none_iff.mp hnone]
      simpa [hstep, hnone] using ih names
    · simp only [List.cons_append, List.foldlM_cons, List.filterMap_cons, hcomponent, List.map_cons,
        htext]
      cases tree.step? names piece with
      | none => rfl
      | some next => exact ih next

/-- A name in a directory is found by the components of the directory. -/
theorem locate?_child (h : directory.isAbsolute = true) {name : Text} (hname : IsName name)
    (hshort : (directory.child name).text.byteLength < pathLimit) :
    tree.locate? (directory.child name) =
      (directory.inner.map Component.text ++ [name]).foldlM tree.step? [] := by
  obtain ⟨front, htext, hinner, -⟩ := exists_text_child h hname.head?_ne_slash
  have hpieces : (directory.child name).text.splitOnChar '/' = front.splitOnChar '/' ++ [name] := by
    rw [htext, Text.splitOnChar_append_separator, Text.splitOnChar_of_notMem hname.2.2.2]
  have hlooked : ¬((directory.child name).text = [] ∨
      pathLimit ≤ (directory.child name).text.byteLength) :=
    not_or.mpr ⟨by simp [htext], by omega⟩
  simp only [locate?, if_neg hlooked, isAbsolute_child h name, if_true, hpieces]
  rw [foldlM_step?_concat, ← hinner, Path.inner]

/-- Alike directories hold the same under a name. -/
theorem entry?_child (h : Alike p q) {name : Text} (hname : IsName name)
    (hp : (p.child name).text.byteLength < pathLimit)
    (hq : (q.child name).text.byteLength < pathLimit) :
    tree.entry? (p.child name) = tree.entry? (q.child name) := by
  unfold entry?
  rw [locate?_child h.left hname hp, locate?_child h.right hname hq, h.inner_eq]

theorem isFile_eq (h : tree.entry? p = tree.entry? q) : tree.isFile p = tree.isFile q := by
  rw [isFile, isFile, h]

theorem read?_eq (h : tree.entry? p = tree.entry? q) : tree.read? p = tree.read? q := by
  rw [read?, read?, h]

/-- Above an absolute file the directory of packages is found under an absolute path. -/
theorem isAbsolute_of_moduleDirectory? {file : Path} (hfile : file.isAbsolute = true)
    (h : tree.moduleDirectory? file = some p) : p.isAbsolute = true := by
  obtain ⟨directory, hdirectory, hfind⟩ := Option.bind_eq_some_iff.mp h
  obtain ⟨above, habove, rfl⟩ := List.mem_map.mp (List.mem_of_find?_eq_some hfind)
  have hstart := (isAbsolute_of_parent? hfile hdirectory).1
  exact isAbsolute_child (isAbsolute_of_mem_ancestors hstart habove).1 moduleDirectoryName

end FileTree

end ComponentBundle
