import ComponentBundle.Proofs.Alias.Discovery
import ComponentBundle.Proofs.Workspace.Writing
import ComponentBundle.Proofs.Resolver.Resolved
import ComponentBundle.Style.Files
import Mathlib.Data.List.Induction

/-!
# What resolution sees of the files

Resolution reads manifests and configurations and looks at directories. Of all other files it only
tests whether they exist, and it does so for a few paths: those with a suffix behind a path without an
extension, and those that aliases stand for. So a new file changes what a specifier means only if the
specifier then means that file, and it was found by a test.
-/
namespace ComponentBundle

open ComponentBundle.Path

def Path.IsProjectFile (p : Path) : Prop :=
  p.fileName? = some Manifest.fileName ∨ ∃ name ∈ Alias.configNames, p.fileName? = some name

/-- Whether the file of a path is not a module, or not only: a manifest, a configuration of aliases or
a style. -/
def Path.IsSupport (p : Path) : Prop :=
  p.fileName? = some Manifest.fileName ∨
    (∃ name ∈ Alias.configNames, p.fileName? = some name) ∨ Style.Files.isStyle p = true

instance : DecidablePred Path.IsSupport := fun p =>
  inferInstanceAs (Decidable (_ ∨ (∃ name ∈ Alias.configNames, p.fileName? = some name) ∨ _))

theorem Path.IsProjectFile.isSupport {p : Path} (h : p.IsProjectFile) : p.IsSupport := by
  rcases h with h | h
  · exact .inl h
  · exact .inr (.inl h)

/-- The file name tells. -/
theorem Path.IsSupport.of_fileName? {p q : Path} (h : p.IsSupport)
    (hname : p.fileName? = q.fileName?) : q.IsSupport := by
  have hextension : p.extension? = q.extension? := by rw [extension?, extension?, hname]
  rcases h with h | ⟨name, hmem, h⟩ | h
  · exact .inl (hname ▸ h)
  · exact .inr (.inl ⟨name, hmem, hname ▸ h⟩)
  · refine .inr (.inr ?_)
    rwa [Style.Files.isStyle, ← hextension]

theorem Path.IsSupport.exists_fileName? {p : Path} (h : p.IsSupport) :
    ∃ name, p.fileName? = some name := by
  rcases h with h | ⟨name, -, h⟩ | h
  · exact ⟨_, h⟩
  · exact ⟨name, h⟩
  · cases hname : p.fileName? with
    | none => simp [Style.Files.isStyle, extension?, hname] at h
    | some name => exact ⟨name, rfl⟩

/-- Two trees with the same directories, manifests and configurations of aliases. -/
structure FileTree.SameProject (tree other : FileTree) : Prop where
  workingDirectory_eq : tree.workingDirectory = other.workingDirectory
  isDirectory_eq : ∀ p, tree.isDirectory p = other.isDirectory p
  isFile_eq : ∀ p, p.IsProjectFile → tree.isFile p = other.isFile p
  read?_eq : ∀ p, p.IsProjectFile → tree.read? p = other.read? p

namespace FileTree.SameProject

variable {tree other : FileTree}

/-- The same directory of packages is found. -/
theorem moduleDirectory?_eq (h : tree.SameProject other) (file : Path) :
    tree.moduleDirectory? file = other.moduleDirectory? file := by
  simp only [moduleDirectory?, funext h.isDirectory_eq]

/-- The same manifests are read. -/
theorem manifestPath?_eq (h : tree.SameProject other) (directory : Path) :
    Resolver.manifestPath? tree directory = Resolver.manifestPath? other directory := by
  have hread : tree.read? (directory.child Manifest.fileName) =
      other.read? (directory.child Manifest.fileName) :=
    h.read?_eq _ (.inl (fileName?_child (by decide) directory))
  simp only [Resolver.manifestPath?, Manifest.read?, Manifest.read, hread]

/-- The same aliases are discovered. -/
theorem discover?_eq (h : tree.SameProject other) (start : Path) :
    Alias.Table.discover? tree start = Alias.Table.discover? other start := by
  have hproject (directory name : _) (hname : name ∈ Alias.configNames) :
      (Path.child directory name).IsProjectFile :=
    .inr ⟨name, hname, fileName?_child (Alias.isName_of_mem_configNames name hname).1 directory⟩
  have hfind (directory : Path) : (Alias.configNames.map directory.child).find? tree.isFile =
      (Alias.configNames.map directory.child).find? other.isFile := by
    refine List.find?_congr fun config hconfig => ?_
    obtain ⟨name, hname, rfl⟩ := List.mem_map.mp hconfig
    exact h.isFile_eq _ (hproject directory name hname)
  have habove : Alias.Table.configAbove? tree start = Alias.Table.configAbove? other start := by
    simp only [Alias.Table.configAbove?, hfind]
  rw [Alias.Table.discover?, Alias.Table.discover?, habove]
  cases hconfig : Alias.Table.configAbove? other start with
  | none => rfl
  | some config =>
    obtain ⟨directory, -, name, hname, rfl⟩ := Alias.Table.exists_of_configAbove? hconfig
    have hread := h.read?_eq _ (hproject directory name hname)
    simp only [Option.bind_some, Alias.Table.load, hread]

theorem isComplete_eq (h : tree.SameProject other) (target : Path) :
    Resolver.isComplete tree target = Resolver.isComplete other target := by
  rw [Resolver.isComplete, Resolver.isComplete, h.isDirectory_eq]

end FileTree.SameProject

/-- Styles see directories and files with the extension of a style. -/
theorem Style.Files.ofTree_congr {tree other : FileTree}
    (hdirectory : ∀ p, tree.isDirectory p = other.isDirectory p)
    (hisFile : ∀ p, isStyle p = true → tree.isFile p = other.isFile p)
    (hread? : ∀ p, isStyle p = true → tree.read? p = other.read? p) :
    ofTree tree = ofTree other := by
  have hfile (p : Path) : (isStyle p && tree.isFile p) = (isStyle p && other.isFile p) := by
    cases hstyle : isStyle p with
    | false => rfl
    | true => rw [hisFile p hstyle]
  have hread (p : Path) : (if isStyle p then tree.read? p else none) =
      if isStyle p then other.read? p else none := by
    split
    · rename_i hstyle
      exact hread? p hstyle
    · rfl
  simp only [ofTree, hfile, hread, funext hdirectory]

/-- Two trees with the same directories, whose supporting files are the same. -/
structure FileTree.SameSupport (tree other : FileTree) : Prop where
  workingDirectory_eq : tree.workingDirectory = other.workingDirectory
  isDirectory_eq : ∀ p, tree.isDirectory p = other.isDirectory p
  isFile_eq : ∀ p, p.IsSupport → tree.isFile p = other.isFile p
  read?_eq : ∀ p, p.IsSupport → tree.read? p = other.read? p

namespace FileTree.SameSupport

variable {tree other : FileTree}

theorem sameProject (h : tree.SameSupport other) : tree.SameProject other :=
  ⟨h.workingDirectory_eq, h.isDirectory_eq, fun p hp => h.isFile_eq p hp.isSupport,
    fun p hp => h.read?_eq p hp.isSupport⟩

/-- Styles see the same files. -/
theorem ofTree_eq (h : tree.SameSupport other) :
    Style.Files.ofTree tree = Style.Files.ofTree other :=
  Style.Files.ofTree_congr h.isDirectory_eq (fun p hp => h.isFile_eq p (.inr (.inr hp)))
    fun p hp => h.read?_eq p (.inr (.inr hp))

end FileTree.SameSupport

/-- The paths of which it is tested whether they are files, for the aliases of a specifier. -/
def Alias.Table.tested (table : Alias.Table) (specifier : Text) : List Path :=
  table.entries.flatMap fun entry =>
    ((Glob.ofPattern entry.pattern).captures? specifier).toList.flatMap fun captures =>
      entry.templates.flatMap fun template =>
        suffixes.map (candidate table.baseDirectory (captures.head?.getD []) template).withSuffix

namespace Resolver

/-- The paths of which it is tested whether they are files, for a specifier. A path with an extension
is taken without a test, unless it is found through an alias. -/
def tested (resolver : Resolver) (tree : FileTree) (specifier : Text) (importer : Path) : List Path :=
  if specifier.head? = some '.' then
    let directory := importer.parent?.getD (Path.ofString ".")
    relativeSuffixes.map ((directory.child specifier).absolute tree.workingDirectory).withSuffix
  else
    resolver.aliases.toList.flatMap (·.tested specifier) ++
      resolver.moduleDirectory.toList.flatMap fun directory =>
        let target := (directory.child specifier).normal
        packageSuffixes.map target.withSuffix ++ [target.withSuffix ".mjs".toList] ++
          packageSuffixes.map (target.child "index".toList).withSuffix

end Resolver

namespace FileTree

def Grows (tree other : FileTree) : Prop := ∀ p, tree.isFile p = true → other.isFile p = true

variable {tree other : FileTree} {base : Path} {suffixes : List Text}

/-- What is found among more files is found among the fewer ones, if it is one of them. -/
theorem Grows.probe?_eq (hgrows : tree.Grows other)
    (hfound : ∀ p, other.probe? base suffixes = some p → tree.isFile p = true) :
    tree.probe? base suffixes = other.probe? base suffixes := by
  rw [probe?] at hfound
  rw [probe?, probe?]
  generalize suffixes.map base.withSuffix = paths at hfound ⊢
  induction paths with
  | nil => rfl
  | cons p paths ih =>
    cases hother : other.isFile p with
    | true =>
      have hfile : tree.isFile p = true := hfound p (List.find?_cons_of_pos hother)
      rw [List.find?_cons_of_pos hother, List.find?_cons_of_pos hfile]
    | false =>
      have hfile : ¬tree.isFile p = true := fun h => by simp [hgrows p h] at hother
      have hnot : ¬other.isFile p = true := by simp [hother]
      rw [List.find?_cons_of_neg hnot] at hfound ⊢
      rw [List.find?_cons_of_neg hfile, ih hfound]

theorem isFile_of_probe? {p : Path} (h : tree.probe? base suffixes = some p) :
    p ∈ suffixes.map base.withSuffix ∧ tree.isFile p = true :=
  ⟨List.mem_of_find?_eq_some h, List.find?_some h⟩

/-- The same holds if something else counts where nothing is found. -/
theorem Grows.probe?_or_eq (hgrows : tree.Grows other) {found found' : Option Path}
    (hfound : ∀ p, (other.probe? base suffixes).or found' = some p →
      p ∈ suffixes.map base.withSuffix → other.isFile p = true → tree.isFile p = true)
    (helse : other.probe? base suffixes = none → found = found') :
    (tree.probe? base suffixes).or found = (other.probe? base suffixes).or found' := by
  have hprobe : tree.probe? base suffixes = other.probe? base suffixes := by
    refine hgrows.probe?_eq fun p hp => ?_
    obtain ⟨hmem, hfile⟩ := isFile_of_probe? hp
    exact hfound p (by rw [hp, Option.some_or]) hmem hfile
  rw [hprobe]
  cases hother : other.probe? base suffixes with
  | none => rw [helse hother]
  | some p => rfl

end FileTree

/-- If the first result of one function is one of the other, too, and so is every first result that
there is none of, both have the same first result. -/
private theorem findSome?_eq {α β : Type} {items : List α} {find find' : α → Option β}
    {Kept : β → Prop} (hfind : ∀ item ∈ items, (∀ result, find' item = some result → Kept result) →
      find item = find' item)
    (hkept : ∀ result, items.findSome? find' = some result → Kept result) :
    items.findSome? find = items.findSome? find' := by
  induction items with
  | nil => rfl
  | cons item items ih =>
    obtain ⟨hhere, hlater⟩ := List.forall_mem_cons.mp hfind
    rw [List.findSome?_cons] at hkept
    rw [List.findSome?_cons, List.findSome?_cons]
    cases hresult : find' item with
    | none =>
      rw [hresult] at hkept
      rw [hhere (by simp [hresult]), hresult]
      exact ih hlater hkept
    | some result =>
      rw [hresult] at hkept
      rw [hhere (by simpa [hresult] using hkept), hresult]

namespace Alias

variable {tree other : FileTree} {table : Table} {specifier : Text}

/-- The last entry that leads somewhere counts. -/
theorem Table.resolve?_eq_findSome? (tree : FileTree) (table : Table) (specifier : Text) :
    table.resolve? tree specifier =
      table.entries.reverse.findSome? (·.resolve? tree table.baseDirectory specifier) := by
  rw [resolve?]
  induction table.entries using List.reverseRecOn with
  | nil => rfl
  | append_singleton entries entry ih =>
    rw [List.foldl_append, List.foldl_cons, List.foldl_nil, ih, List.reverse_append,
      List.reverse_singleton, List.singleton_append, List.findSome?_cons]
    cases entry.resolve? tree table.baseDirectory specifier <;> rfl

/-- An alias means the same if what it means among more files is one of the fewer ones. -/
theorem Table.resolve?_eq (hgrows : tree.Grows other)
    (hfound : ∀ p, table.resolve? other specifier = some p → tree.isFile p = true) :
    table.resolve? tree specifier = table.resolve? other specifier := by
  rw [resolve?_eq_findSome?] at hfound
  rw [resolve?_eq_findSome?, resolve?_eq_findSome?]
  refine findSome?_eq (fun entry _ hentry => ?_) hfound
  unfold Entry.resolve? at hentry ⊢
  cases hcaptures : (Glob.ofPattern entry.pattern).captures? specifier with
  | none => rfl
  | some captures =>
    rw [hcaptures, Option.bind_some] at hentry
    rw [Option.bind_some, Option.bind_some]
    exact findSome?_eq (fun template _ htemplate => hgrows.probe?_eq htemplate) hentry

theorem Table.mem_tested_of_resolve? {p : Path} (h : table.resolve? tree specifier = some p) :
    p ∈ table.tested specifier ∧ tree.isFile p = true := by
  obtain ⟨entry, hentry, hresolve⟩ := exists_of_resolve? h
  obtain ⟨captures, hcaptures, hfind⟩ := Option.bind_eq_some_iff.mp hresolve
  obtain ⟨template, htemplate, hprobe⟩ := List.exists_of_findSome?_eq_some hfind
  obtain ⟨hmem, hfile⟩ := FileTree.isFile_of_probe? hprobe
  refine ⟨List.mem_flatMap.mpr ⟨entry, hentry, ?_⟩, hfile⟩
  rw [hcaptures]
  exact List.mem_flatMap.mpr ⟨captures, by simp, List.mem_flatMap.mpr ⟨template, htemplate, hmem⟩⟩

end Alias

namespace Resolver

variable {tree other : FileTree} {resolver : Resolver} {specifier : Text} {importer directory : Path}

/-- A relative path means the same if what it means among more files, found by a test, is one of the
fewer ones. -/
theorem relative?_eq (h : tree.SameProject other) (hgrows : tree.Grows other)
    (hhead : specifier.head? = some '.')
    (hfound : ∀ p, relative? other specifier importer = some p →
      p ∈ resolver.tested other specifier importer → other.isFile p = true → tree.isFile p = true) :
    relative? tree specifier importer = relative? other specifier importer := by
  simp only [tested, if_pos hhead, relative?] at hfound
  simp only [relative?, h.workingDirectory_eq, h.isComplete_eq, h.manifestPath?_eq]
  split
  · rfl
  · rename_i hcomplete
    rw [if_neg hcomplete] at hfound
    exact hgrows.probe?_or_eq hfound fun _ => rfl

/-- So does a path in the directory of packages. -/
theorem package?_eq (h : tree.SameProject other) (hgrows : tree.Grows other)
    (hhead : specifier.head? ≠ some '.') (hdirectory : directory ∈ resolver.moduleDirectory)
    (hfound : ∀ p, package? other directory specifier = some p →
      p ∈ resolver.tested other specifier importer → other.isFile p = true → tree.isFile p = true) :
    package? tree directory specifier = package? other directory specifier := by
  have htested (p : Path)
      (hp : p ∈ packageSuffixes.map (directory.child specifier).normal.withSuffix ++
        [(directory.child specifier).normal.withSuffix ".mjs".toList] ++
          packageSuffixes.map ((directory.child specifier).normal.child "index".toList).withSuffix) :
      p ∈ resolver.tested other specifier importer := by
    rw [tested, if_neg hhead]
    exact List.mem_append_right _
      (List.mem_flatMap.mpr ⟨directory, Option.mem_toList.mpr hdirectory, hp⟩)
  simp only [package?] at hfound
  simp only [package?, h.isComplete_eq, h.manifestPath?_eq]
  generalize (directory.child specifier).normal = target at hfound htested ⊢
  split
  · rfl
  rename_i hcomplete
  rw [if_neg hcomplete] at hfound
  refine hgrows.probe?_or_eq (fun p hp hmem => hfound p hp (htested p (by simp_all))) fun hnone => ?_
  rw [hnone, Option.none_or] at hfound
  cases hmanifest : manifestPath? other target with
  | some p => rfl
  | none =>
    rw [hmanifest, Option.none_or] at hfound
    rw [Option.none_or, Option.none_or]
    refine hgrows.probe?_or_eq (fun p hp hmem => hfound p hp (htested p (by simp_all)))
      fun hnone => ?_
    rw [hnone, Option.none_or] at hfound
    refine hgrows.probe?_eq fun p hp => ?_
    obtain ⟨hmem, hfile⟩ := FileTree.isFile_of_probe? hp
    exact hfound p hp (htested p (by simp_all)) hfile

/-- A specifier means the same among fewer and among more files, if what it means among the latter is
one of the former or was not found by a test. -/
theorem resolve?_eq (h : tree.SameProject other) (hgrows : tree.Grows other)
    (hfound : ∀ resolved, resolver.resolve? other specifier importer = some resolved →
      resolved.path ∈ resolver.tested other specifier importer →
        other.isFile resolved.path = true → tree.isFile resolved.path = true) :
    resolver.resolve? tree specifier importer = resolver.resolve? other specifier importer := by
  by_cases hhead : specifier.head? = some '.'
  · have hrelative : relative? tree specifier importer = relative? other specifier importer := by
      refine relative?_eq h hgrows hhead fun p hp => hfound ⟨p, false⟩ ?_
      rw [resolve?, if_pos hhead, hp, Option.map_some]
    rw [resolve?, resolve?, if_pos hhead, if_pos hhead, hrelative]
  · have halias : (resolver.aliases.bind (·.resolve? tree specifier)) =
        resolver.aliases.bind (·.resolve? other specifier) := by
      cases haliases : resolver.aliases with
      | none => rfl
      | some table =>
        refine Alias.Table.resolve?_eq hgrows fun p hp => ?_
        obtain ⟨hmem, hfile⟩ := Alias.Table.mem_tested_of_resolve? hp
        refine hfound ⟨p, false⟩ ?_ ?_ hfile
        · simp [resolve?, hhead, haliases, hp]
        · rw [tested, if_neg hhead, haliases]
          exact List.mem_append_left _ (List.mem_flatMap.mpr ⟨table, by simp, hmem⟩)
    have hpackage (directory : Path) (hdirectory : directory ∈ resolver.moduleDirectory)
        (hnone : resolver.aliases.bind (·.resolve? other specifier) = none) :
        package? tree directory specifier = package? other directory specifier := by
      refine package?_eq h hgrows hhead hdirectory fun p hp => hfound ⟨p, true⟩ ?_
      rw [resolve?, if_neg hhead, hnone, Option.mem_def.mp hdirectory]
      simp [hp]
    rw [resolve?, resolve?, if_neg hhead, if_neg hhead, halias]
    cases hmeant : resolver.aliases.bind (·.resolve? other specifier) with
    | some p => rfl
    | none =>
      cases hmodules : resolver.moduleDirectory with
      | none => rfl
      | some directory =>
        simp only [Option.bind_some, hpackage directory hmodules hmeant]

end Resolver

end ComponentBundle
