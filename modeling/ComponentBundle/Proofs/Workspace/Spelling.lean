import ComponentBundle.Proofs.Path.NormalForm
import ComponentBundle.Workspace

/-!
# Spellings of what can be loaded

Where a path leads depends on its components alone, and from the names at the end of it the components
of a path in normal form can be read back, up to four ways to begin. So the paths in normal form that
something can be loaded from are among finitely many.
-/
namespace ComponentBundle

open ComponentBundle.Path

namespace FileTree

variable {tree : FileTree}

/-- Where a component leads from the names so far. -/
def descend (names : List Text) : Component → List Text
  | .parent => names.dropLast
  | .name text => names ++ [text]
  | _ => names

theorem step?_eq {names next : List Text} {piece : Text}
    (h : tree.step? names piece = some next) :
    next = ((Component.ofPiece? piece).toList).foldl descend names := by
  unfold step? at h
  split at h
  · by_cases hstay : piece = [] ∨ piece = ['.']
    · simpa [hstay, Component.ofPiece?] using h.symm
    · by_cases hparent : piece = ['.', '.']
      · simpa [hparent, Component.ofPiece?, descend] using h.symm
      · obtain ⟨hne, hdot⟩ := not_or.mp hstay
        have hnext : isStorable piece = true ∧ names ++ [piece] = next := by
          simpa [hne, hdot, hparent] using h
        simpa [Component.ofPiece?, hne, hdot, hparent, descend] using hnext.2.symm
  · simp at h

/-- Following pieces moves as the components do that they stand for. -/
theorem foldlM_step?_eq {pieces : List Text} {names last : List Text}
    (h : pieces.foldlM tree.step? names = some last) :
    last = (pieces.filterMap Component.ofPiece?).foldl descend names := by
  induction pieces generalizing names with
  | nil => simpa using h.symm
  | cons piece pieces ih =>
    rw [List.foldlM_cons] at h
    obtain ⟨next, hstep, hrest⟩ := Option.bind_eq_some_iff.mp h
    rw [ih hrest, step?_eq hstep]
    cases hpiece : Component.ofPiece? piece <;> simp [hpiece]

/-- What a path leads to, by the components inside it. -/
theorem locate?_eq {p : Path} {names : List Text} (h : tree.locate? p = some names) :
    names = p.inner.foldl descend (if p.isAbsolute then [] else tree.home) := by
  unfold locate? at h
  split at h
  · simp at h
  · split at h
    · simpa [*, Path.inner] using foldlM_step?_eq h
    · rw [List.foldlM_append] at h
      obtain ⟨home, hhome, hrest⟩ := Option.bind_eq_some_iff.mp h
      simpa [*, Path.inner, FileTree.home] using foldlM_step?_eq hrest

private theorem foldl_descend_names (start names : List Text) :
    (names.map Component.name).foldl descend start = start ++ names := by
  induction names generalizing start with
  | nil => simp
  | cons name names ih => simp [descend, ih]

/-- A path in normal form is one of the spellings of the names that it leads to. -/
theorem components_mem_spellings {p : Path} (hp : p.IsNormal) {names : List Text}
    (h : tree.locate? p = some names) : p.components ∈ tree.spellings names := by
  have hnames := locate?_eq h
  obtain ⟨front, hfront, last, hlast, hform⟩ := hp.isNormalForm
  simp only [fronts, List.mem_cons, List.not_mem_nil, or_false] at hfront
  cases habs : p.isAbsolute with
  | true =>
    have hroot := components_of_isAbsolute habs
    rw [hform] at hroot
    rcases hfront with rfl | rfl | rfl | rfl
    · cases last <;> simp at hroot
    · obtain rfl : names = last := by
        simpa [habs, ← List.tail_eq_of_cons_eq hroot, foldl_descend_names] using hnames
      simp [hform, spellings]
    · simp at hroot
    · obtain rfl : names = last := by
        simpa [habs, ← List.tail_eq_of_cons_eq hroot, foldl_descend_names, descend] using hnames
      simp [hform, spellings]
  | false =>
    have hinner : p.inner = front ++ last.map Component.name := by
      rcases components_of_not_isAbsolute habs with hinner | hcurrent
      · rw [← hform, hinner]
      · rw [hform] at hcurrent
        rcases hfront with rfl | rfl | rfl | rfl <;> cases last <;> simp at hcurrent
    rcases hfront with rfl | rfl | rfl | rfl
    · have hdrop : names = tree.home ++ last := by
        simpa [habs, hinner, foldl_descend_names] using hnames
      simp [hform, spellings, hdrop]
    · have hroot : Component.root ∈ p.inner := by simp [hinner]
      exact (isInner_of_mem_inner hroot).elim
    · have hdrop : names = tree.home.dropLast ++ last := by
        simpa [habs, hinner, foldl_descend_names, descend] using hnames
      simp [hform, spellings, hdrop]
    · have hroot : Component.root ∈ p.inner := by simp [hinner]
      exact (isInner_of_mem_inner hroot).elim

/-- A file that is read is one of the entries. -/
theorem exists_of_read?_eq_some {p : Path} {text : Text} (h : tree.read? p = some text) :
    ∃ names, tree.locate? p = some names ∧ ∃ entry ∈ tree.entries, entry.1 = names := by
  unfold read? at h
  split at h
  · rename_i content hentry
    obtain ⟨names, hlocate, hat⟩ := Option.bind_eq_some_iff.mp hentry
    refine ⟨names, hlocate, ?_⟩
    unfold at? at hat
    split at hat
    · simp at hat
    · obtain ⟨entry, hfind, -⟩ := Option.map_eq_some_iff.mp hat
      exact ⟨entry, List.mem_of_find?_eq_some hfind, by simpa using List.find?_some hfind⟩
  · simp at h

end FileTree

namespace Workspace

/-- What can be loaded from a path in normal form has one of finitely many spellings. -/
theorem components_mem_spellings {workspace : Workspace} {p : Path} {text : Text}
    (hp : p.IsNormal) (h : workspace.load? p = some text) :
    p.components ∈ workspace.spellings := by
  unfold load? at h
  split at h
  · rename_i buffer hbuffer
    obtain ⟨entry, hfind, -⟩ := Option.map_eq_some_iff.mp hbuffer
    have hcomponents : entry.1.components = p.components := by simpa using List.find?_some hfind
    refine List.mem_append_left _ (List.mem_map.mpr ⟨entry, ?_, hcomponents⟩)
    exact List.mem_of_find?_eq_some hfind
  · obtain ⟨names, hlocate, entry, hentry, rfl⟩ := FileTree.exists_of_read?_eq_some h
    have hmem := FileTree.components_mem_spellings hp hlocate
    exact List.mem_append_right _ (List.mem_flatMap.mpr ⟨entry, hentry, hmem⟩)

/-- An entry counts for four spellings and a buffer for one. -/
theorem length_spellings (workspace : Workspace) :
    workspace.spellings.length =
      workspace.buffers.length + 4 * workspace.files.entries.length := by
  simp [spellings, FileTree.spellings, List.length_flatMap, List.map_const', Nat.mul_comm]

end Workspace

end ComponentBundle
