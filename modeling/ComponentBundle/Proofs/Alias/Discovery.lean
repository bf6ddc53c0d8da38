import ComponentBundle.Alias.Table
import ComponentBundle.Proofs.Workspace.Location
import Mathlib.Data.List.Find

/-!
# Where aliases start from

A configuration is looked for upwards from a directory. Seen from an absolute directory it is found
under an absolute path, and its aliases stand for absolute paths. From a directory that is spelled with
other slashes and dots the same configuration is found, and each alias leads to the same file.
-/
namespace ComponentBundle.Alias

open ComponentBundle.Path

variable {tree : FileTree} {start p q config directory : Path} {table : Table}

/-- The bytes that the longest name of a configuration file and a slash before it take. -/
def configMargin : Nat := 14

theorem isName_of_mem_configNames :
    ∀ name ∈ configNames, IsName name ∧ Text.byteLength ('/' :: name) ≤ configMargin := by
  decide

namespace Table

/-- A configuration is a file of one of the two names in a directory above the start. -/
theorem exists_of_configAbove? (h : configAbove? tree start = some config) :
    ∃ directory ∈ start.ancestors, ∃ name ∈ configNames, directory.child name = config := by
  obtain ⟨directory, hdirectory, hfind⟩ := List.exists_of_findSome?_eq_some h
  obtain ⟨name, hname, hchild⟩ := List.mem_map.mp (List.mem_of_find?_eq_some hfind)
  exact ⟨directory, hdirectory, name, hname, hchild⟩

theorem exists_of_load (h : (load tree config).toOption = some table) :
    ∃ baseUrl, table.baseDirectory = (config.parent?.getD (ofString ".")).child baseUrl := by
  unfold load at h
  split at h
  · cases h
  · split at h
    · cases h
    · obtain rfl := Option.some.inj h
      exact ⟨_, rfl⟩

/-- The paths that aliases stand for begin at the root if the search does. -/
theorem isAbsolute_of_discover? (hstart : start.isAbsolute = true)
    (h : discover? tree start = some table) : table.baseDirectory.isAbsolute = true := by
  obtain ⟨config, hconfig, hload⟩ := Option.bind_eq_some_iff.mp h
  obtain ⟨directory, hdirectory, name, hname, rfl⟩ := exists_of_configAbove? hconfig
  obtain ⟨above, habove, habsolute⟩ := exists_parent?_child
    (isAbsolute_of_mem_ancestors hstart hdirectory).1 (isName_of_mem_configNames name hname).1
  obtain ⟨baseUrl, hbase⟩ := exists_of_load hload
  rw [hbase, habove]
  exact isAbsolute_child habsolute baseUrl

/-- Two tables of the same aliases for places that are spelled alike. -/
structure Alike (table other : Table) : Prop where
  entries_eq : table.entries = other.entries
  base : table.baseDirectory.Alike other.baseDirectory

theorem Alike.resolve?_eq {other : Table} (h : table.Alike other) (specifier : Text) :
    table.resolve? tree specifier = other.resolve? tree specifier := by
  have hcandidate (wildcard template : Text) :
      candidate table.baseDirectory wildcard template =
        candidate other.baseDirectory wildcard template :=
    (h.base.child _).normal_eq
  have hentry (entry : Entry) : entry.resolve? tree table.baseDirectory specifier =
      entry.resolve? tree other.baseDirectory specifier := by
    simp only [Entry.resolve?, hcandidate]
  simp only [resolve?, h.entries_eq, hentry]

/-- Two paths of the same configuration file. -/
structure SameConfig (tree : FileTree) (config other : Path) : Prop where
  parent : Option.Rel Path.Alike config.parent? other.parent?
  parent_ne_none : config.parent? ≠ none
  read?_eq : tree.read? config = tree.read? other

theorem SameConfig.load {other : Path} (h : SameConfig tree config other) :
    Option.Rel Alike (load tree config).toOption (load tree other).toOption := by
  have hparent := h.parent
  have hne := h.parent_ne_none
  unfold Table.load
  rw [← h.read?_eq]
  generalize config.parent? = above at hparent hne ⊢
  generalize other.parent? = above' at hparent ⊢
  cases tree.read? config with
  | none => exact .none
  | some text =>
    cases hdeclared : (Json.Lenient.parse? text).bind declared? with
    | none =>
      simp only [hdeclared]
      exact .none
    | some declared =>
      simp only [hdeclared]
      cases hparent with
      | none => exact absurd rfl hne
      | some halike => exact .some ⟨rfl, halike.child _⟩

/-- In alike directories the same configuration file is found. -/
theorem rel_find?_configNames (h : p.Alike q)
    (hp : p.text.byteLength + configMargin < FileTree.pathLimit)
    (hq : q.text.byteLength + configMargin < FileTree.pathLimit) :
    Option.Rel (SameConfig tree) ((configNames.map p.child).find? tree.isFile)
      ((configNames.map q.child).find? tree.isFile) := by
  have hentry (name : Text) (hname : name ∈ configNames) :
      tree.entry? (p.child name) = tree.entry? (q.child name) := by
    obtain ⟨hisName, hmargin⟩ := isName_of_mem_configNames name hname
    have hlengthP := byteLength_push_le p.text name
    have hlengthQ := byteLength_push_le q.text name
    exact FileTree.entry?_child h hisName (Nat.lt_of_le_of_lt hlengthP (by omega))
      (Nat.lt_of_le_of_lt hlengthQ (by omega))
  have hfind : configNames.find? (tree.isFile ∘ p.child) =
      configNames.find? (tree.isFile ∘ q.child) :=
    List.find?_congr fun name hname => FileTree.isFile_eq (hentry name hname)
  rw [List.find?_map, List.find?_map, hfind]
  cases hname : configNames.find? (tree.isFile ∘ q.child) with
  | none => exact .none
  | some name =>
    have hmem := List.mem_of_find?_eq_some hname
    obtain ⟨above, habove, -⟩ :=
      exists_parent?_child h.left (isName_of_mem_configNames name hmem).1
    exact .some ⟨(h.child name).parent?, by simp [habove], FileTree.read?_eq (hentry name hmem)⟩

/-- What is found first in one of two lists of alike directories is found first in the other. -/
private theorem rel_findSome? {directories others : List Path} {find find' : Path → Option Path}
    {Same : Path → Path → Prop} (hrel : List.Forall₂ Path.Alike directories others)
    (hsame : ∀ directory ∈ directories, ∀ other ∈ others, directory.Alike other →
      Option.Rel Same (find directory) (find' other)) :
    Option.Rel Same (directories.findSome? find) (others.findSome? find') := by
  induction hrel with
  | nil => exact .none
  | @cons directory other directories others halike hrel ih =>
    have hhere := hsame directory List.mem_cons_self other List.mem_cons_self halike
    have hlater := ih fun directory hdirectory other hother =>
      hsame directory (.tail _ hdirectory) other (.tail _ hother)
    rw [List.findSome?_cons, List.findSome?_cons]
    generalize find directory = found at hhere ⊢
    generalize find' other = found' at hhere ⊢
    cases hhere with
    | none => exact hlater
    | some hfound => exact .some hfound

/-- From alike directories the same aliases are discovered. -/
theorem rel_discover? (h : p.Alike q)
    (hp : p.text.byteLength + configMargin < FileTree.pathLimit)
    (hq : q.text.byteLength + configMargin < FileTree.pathLimit) :
    Option.Rel Alike (discover? tree p) (discover? tree q) := by
  have hshort {start directory : Path} (hstart : start.isAbsolute = true)
      (hlimit : start.text.byteLength + configMargin < FileTree.pathLimit)
      (hmem : directory ∈ start.ancestors) :
      directory.text.byteLength + configMargin < FileTree.pathLimit := by
    have hle := Text.byteLength_le_of_prefix (isAbsolute_of_mem_ancestors hstart hmem).2
    omega
  have hconfig : Option.Rel (SameConfig tree) (configAbove? tree p) (configAbove? tree q) :=
    rel_findSome? h.ancestors fun directory hdirectory other hother halike =>
      rel_find?_configNames halike (hshort h.left hp hdirectory) (hshort h.right hq hother)
  unfold discover?
  generalize configAbove? tree p = config at hconfig ⊢
  generalize configAbove? tree q = other at hconfig ⊢
  cases hconfig with
  | none => exact .none
  | some hsame => exact hsame.load

end Table

end ComponentBundle.Alias
