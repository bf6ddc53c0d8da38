import ComponentBundle.Proofs.Workspace.Location
import Mathlib.Data.List.Find

/-!
# Written files and open buffers

A text is written to a place of the tree, where no directory is, or it is opened in a buffer under a
path. The one changes what is at that place, by whatever path it is reached, the other one what is
loaded from that path. No path leads elsewhere for it, and no directory comes or goes.
-/
namespace ComponentBundle

open ComponentBundle.Path

namespace Path

/-- A path of a name in a directory has this file name. -/
theorem fileName?_child {name : Text} (hname : IsName name) (directory : Path) :
    (directory.child name).fileName? = some name := by
  obtain ⟨hne, hdot, hparent, hslash⟩ := hname
  obtain ⟨pieces, hpieces⟩ :
      ∃ pieces, (directory.child name).text.splitOnChar '/' = pieces ++ [name] := by
    have hlast : Text.splitOnChar '/' name = [name] := Text.splitOnChar_of_notMem hslash
    have hhead : name.head? ≠ some '/' := fun h => hslash (List.mem_of_head? h)
    simp only [child, push, if_neg hhead]
    split
    · rename_i hbefore
      rcases hbefore with hnil | hlastSlash
      · exact ⟨[], by rw [hnil, List.nil_append, hlast]; rfl⟩
      · obtain ⟨front, hfront⟩ := List.getLast?_eq_some_iff.mp hlastSlash
        refine ⟨Text.splitOnChar '/' front, ?_⟩
        rw [hfront, List.append_assoc, List.singleton_append, Text.splitOnChar_append_separator,
          hlast]
    · exact ⟨Text.splitOnChar '/' directory.text, by
        rw [Text.splitOnChar_append_separator, hlast]⟩
  have hinner : ((directory.child name).text.splitOnChar '/').filterMap Component.ofPiece? =
      pieces.filterMap Component.ofPiece? ++ [.name name] := by
    simp [hpieces, Component.ofPiece?, hne, hdot, hparent]
  have hcomponents : (directory.child name).components.getLast? = some (.name name) := by
    rw [components]
    simp only [hinner]
    split
    · rw [← List.cons_append, List.getLast?_concat]
    · split
      · rw [← List.cons_append, List.getLast?_concat]
      · rw [List.getLast?_concat]
  rw [fileName?, hcomponents]

/-- The file name is the last of the components behind the root or the first dot. -/
theorem exists_of_fileName? {p : Path} {name : Text} (h : p.fileName? = some name) :
    ∃ front, p.inner = front ++ [.name name] := by
  have hlast : p.components.getLast? = some (.name name) := by
    rw [fileName?] at h
    split at h
    · rename_i last hlast
      rw [hlast, Option.some.inj h]
    · cases h
  have hinner : p.inner.getLast? = some (.name name) := by
    cases habsolute : p.isAbsolute with
    | true =>
      rw [components_of_isAbsolute habsolute, List.getLast?_cons] at hlast
      cases hinner : p.inner.getLast? <;> simp_all
    | false =>
      rcases components_of_not_isAbsolute habsolute with hsame | hcurrent
      · rwa [hsame] at hlast
      · rw [hcurrent, List.getLast?_cons] at hlast
        cases hinner : p.inner.getLast? <;> simp_all
  exact List.getLast?_eq_some_iff.mp hinner

end Path

namespace FileTree

variable {tree : FileTree} {p q : Path} {names : List Text} {content : Option Text}

/-- Whatever path leads to a place, its file name is the last name of the place. -/
theorem getLast?_of_locate? {name : Text} (hname : p.fileName? = some name)
    (h : tree.locate? p = some names) : names.getLast? = some name := by
  obtain ⟨front, hinner⟩ := Path.exists_of_fileName? hname
  rw [locate?_eq h, hinner, List.foldl_append]
  simp [descend]

/-- An absolute path in normal form has the last name of its place as its file name. -/
theorem fileName?_eq_getLast? (hp : p.IsNormal) (habsolute : p.isAbsolute = true)
    (h : tree.locate? p = some names) : p.fileName? = names.getLast? := by
  have hspelling := components_mem_spellings hp h
  rw [Path.components_of_isAbsolute habsolute] at hspelling
  simp only [spellings, List.mem_cons, List.not_mem_nil, or_false] at hspelling
  have hcomponents : p.components = .root :: names.map .name ∨
      p.components = .root :: .parent :: names.map .name := by
    rw [Path.components_of_isAbsolute habsolute]
    rcases hspelling with hplain | habove | hrelative | hrelative
    · exact .inl hplain
    · exact .inr habove
    · cases hnames : names.drop tree.home.length <;> simp [hnames] at hrelative
    · simp at hrelative
  rcases List.eq_nil_or_concat names with rfl | ⟨front, last, rfl⟩
  · rcases hcomponents with hcomponents | hcomponents <;> simp [Path.fileName?, hcomponents]
  · rcases hcomponents with hcomponents | hcomponents <;>
      simp [Path.fileName?, hcomponents, List.getLast?_cons]

/-- What is written stands at its place, and everything else stays. -/
theorem at?_put (hnames : names ≠ []) (entry : Entry) (other : List Text) :
    (tree.put names entry).at? other = if other = names then some entry else tree.at? other := by
  by_cases hother : other = names
  · simp [at?, put, hother, hnames]
  · have hfind : (tree.entries.filter fun old => old.1 ≠ names).find? (fun old => old.1 = other) =
        tree.entries.find? fun old => old.1 = other := by
      rw [List.find?_filter]
      refine List.find?_congr fun old _ => ?_
      by_cases hold : old.1 = other <;> simp [hold, hother]
    rw [if_neg hother, at?, at?, put]
    split
    · rfl
    · rw [List.find?_cons_of_neg (by simpa using Ne.symm hother), hfind]

/-- The root is a directory, so a place without a directory has a name. -/
theorem ne_nil_of_at?_ne_directory (h : tree.at? names ≠ some .directory) : names ≠ [] := by
  rintro rfl
  exact h rfl

variable (hplace : tree.at? names ≠ some .directory)
include hplace

theorem locate?_put (p : Path) : (tree.put names (.file content)).locate? p = tree.locate? p := by
  have hstep : (tree.put names (.file content)).step? = tree.step? := by
    funext before piece
    rw [step?, step?, at?_put (ne_nil_of_at?_ne_directory hplace)]
    by_cases hbefore : before = names
    · simp [hbefore, hplace]
    · rw [if_neg hbefore]
  have hhome : (tree.put names (.file content)).workingDirectory = tree.workingDirectory := rfl
  rw [locate?, locate?, hstep, hhome]

theorem lookup_put_of_eq (h : tree.locate? p = some names) :
    FileTree.entry? (tree.put names (.file content)) p = some (.file content) := by
  unfold entry?
  rw [locate?_put hplace, h, Option.bind_some,
    at?_put (ne_nil_of_at?_ne_directory hplace), if_pos rfl]

theorem lookup_put_of_ne (h : tree.locate? p ≠ some names) :
    FileTree.entry? (tree.put names (.file content)) p = tree.entry? p := by
  unfold entry?
  rw [locate?_put hplace]
  cases hlocate : tree.locate? p with
  | none => rfl
  | some other =>
    have hother : other ≠ names := fun heq => h (hlocate.trans (congrArg some heq))
    rw [Option.bind_some, Option.bind_some, at?_put (ne_nil_of_at?_ne_directory hplace),
      if_neg hother]

theorem isDirectory_put (p : Path) :
    (tree.put names (.file content)).isDirectory p = tree.isDirectory p := by
  rw [isDirectory, isDirectory]
  by_cases h : tree.locate? p = some names
  · have hentry : tree.entry? p ≠ some .directory := by
      unfold entry?
      rwa [h, Option.bind_some]
    rw [lookup_put_of_eq hplace h]
    cases hcase : tree.entry? p with
    | none => rfl
    | some entry =>
      cases entry with
      | directory => exact absurd hcase hentry
      | file content => rfl
  · rw [lookup_put_of_ne hplace h]

theorem read?_put_of_ne (h : tree.locate? p ≠ some names) :
    (tree.put names (.file content)).read? p = tree.read? p := by
  rw [read?, read?, lookup_put_of_ne hplace h]

theorem isFile_put (p : Path) : (tree.put names (.file content)).isFile p =
    (tree.isFile p || decide (tree.locate? p = some names)) := by
  rw [isFile, isFile]
  by_cases h : tree.locate? p = some names
  · simp [lookup_put_of_eq hplace h, h]
  · simp [lookup_put_of_ne hplace h, h]

end FileTree

namespace Buffers

/-- A buffer that is opened or closed is seen under its own path. -/
theorem text?_set (buffers : Buffers) (p : Path) (text : Option Text) (q : Path) :
    (buffers.set p text).text? q =
      if q.components = p.components then text else buffers.text? q := by
  have hothers : text? (buffers.filter fun entry => entry.1.components ≠ p.components) q =
      if q.components = p.components then none else buffers.text? q := by
    rw [text?, text?, List.find?_filter]
    by_cases hq : q.components = p.components
    · rw [if_pos hq, Option.map_eq_none_iff, List.find?_eq_none]
      simp [hq]
    · rw [if_neg hq]
      refine congrArg _ (List.find?_congr fun entry _ => ?_)
      by_cases hentry : entry.1.components = q.components <;> simp [hentry, hq]
  cases text with
  | none => exact hothers
  | some text =>
    by_cases hq : q.components = p.components
    · simp [set, text?, hq]
    · rw [if_neg hq] at hothers ⊢
      rw [← hothers, set, text?, List.find?_cons_of_neg (by simpa using Ne.symm hq)]
      rfl

end Buffers

end ComponentBundle
