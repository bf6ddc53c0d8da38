import ComponentBundle.Proofs.Path.Absolute
import ComponentBundle.Resolver

/-!
# Resolved paths

A specifier is looked for beside the importer, through an alias or in the directory of packages, and
from there the path that it means is made by suffixes and by names that manifests declare. What is true
of the first paths and kept by these steps is true of every path that a specifier means. So it is in
normal form, and it begins at the root if the directories of the resolver do.
-/
namespace ComponentBundle

open ComponentBundle.Path

/-- Of the files that the entries lead to, the last one counts: it comes from some entry. -/
theorem Alias.Table.exists_of_resolve? {tree : FileTree} {table : Table} {specifier : Text} {p : Path}
    (h : table.resolve? tree specifier = some p) :
    ∃ entry ∈ table.entries, entry.resolve? tree table.baseDirectory specifier = some p := by
  have hfold : ∀ (entries : List Entry) (found : Option Path),
      entries.foldl (fun found entry =>
        (entry.resolve? tree table.baseDirectory specifier).or found) found = some p →
      found = some p ∨
        ∃ entry ∈ entries, entry.resolve? tree table.baseDirectory specifier = some p := by
    intro entries
    induction entries with
    | nil => exact fun found h => .inl h
    | cons entry entries ih =>
      intro found h
      rcases ih _ h with hfound | ⟨other, hmem, hother⟩
      · rcases Option.or_eq_some_iff.mp hfound with hentry | ⟨-, hold⟩
        · exact .inr ⟨entry, List.mem_cons_self, hentry⟩
        · exact .inl hold
      · exact .inr ⟨other, .tail _ hmem, hother⟩
  rcases hfold table.entries none h with hnone | hentry
  · simp at hnone
  · exact hentry

namespace Resolver

variable {tree : FileTree} {resolver : Resolver} {specifier : Text} {base p : Path}

/-- What a specifier can mean: where it is looked for first, and what is tried from there. -/
inductive Candidate (tree : FileTree) (resolver : Resolver) : Path → Prop where
  | relative (directory : Path) (specifier : Text) :
    Candidate tree resolver ((directory.child specifier).absolute tree.workingDirectory)
  | aliased {table : Alias.Table} (h : table ∈ resolver.aliases) (wildcard template : Text) :
    Candidate tree resolver (Alias.candidate table.baseDirectory wildcard template)
  | package {directory : Path} (h : directory ∈ resolver.moduleDirectory) (specifier : Text) :
    Candidate tree resolver (directory.child specifier).normal
  | index {base : Path} (h : Candidate tree resolver base) :
    Candidate tree resolver (base.child "index".toList)
  | probed {base : Path} (h : Candidate tree resolver base) {suffix : Text}
    (hsuffix : IsSuffix suffix) : Candidate tree resolver (base.withSuffix suffix)
  | declared {base : Path} (h : Candidate tree resolver base) (name : Text) :
    Candidate tree resolver (base.child name).normal

theorem candidate_of_probe? {suffixes : List Text} (hbase : Candidate tree resolver base)
    (hsuffixes : ∀ suffix ∈ suffixes, suffix = [] ∨ IsSuffix suffix)
    (h : tree.probe? base suffixes = some p) : Candidate tree resolver p := by
  obtain ⟨suffix, hsuffix, rfl⟩ := List.mem_map.mp (List.mem_of_find?_eq_some h)
  rcases hsuffixes suffix hsuffix with rfl | hsuffix
  · simpa [withSuffix] using hbase
  · exact hbase.probed hsuffix

theorem candidate_of_manifestPath? (hbase : Candidate tree resolver base)
    (h : manifestPath? tree base = some p) : Candidate tree resolver p := by
  obtain ⟨entry, hentry, rfl⟩ := Option.map_eq_some_iff.mp h
  obtain ⟨manifest, -, hmanifest⟩ := Option.bind_eq_some_iff.mp hentry
  obtain ⟨name, -, rfl⟩ := Option.map_eq_some_iff.mp hmanifest
  exact hbase.declared name

theorem candidate_of_relative? (resolver : Resolver) {importer : Path}
    (h : relative? tree specifier importer = some p) : Candidate tree resolver p := by
  have hbase := @Candidate.relative tree resolver (importer.parent?.getD (ofString ".")) specifier
  simp only [relative?] at h
  split at h
  · exact Option.some.inj h ▸ hbase
  · rcases Option.or_eq_some_iff.mp h with hprobe | ⟨-, hmanifest⟩
    · exact candidate_of_probe? hbase (by decide) hprobe
    · exact candidate_of_manifestPath? hbase hmanifest

theorem candidate_of_alias {table : Alias.Table} (htable : table ∈ resolver.aliases)
    (h : table.resolve? tree specifier = some p) : Candidate tree resolver p := by
  obtain ⟨entry, -, hentry⟩ := Alias.Table.exists_of_resolve? h
  obtain ⟨captures, -, hfind⟩ := Option.bind_eq_some_iff.mp hentry
  obtain ⟨template, -, hprobe⟩ := List.exists_of_findSome?_eq_some hfind
  exact candidate_of_probe? (.aliased htable _ _) (by decide) hprobe

theorem candidate_of_package? {directory : Path} (hdirectory : directory ∈ resolver.moduleDirectory)
    (h : package? tree directory specifier = some p) : Candidate tree resolver p := by
  have hbase := @Candidate.package tree resolver directory hdirectory specifier
  simp only [package?] at h
  split at h
  · exact Option.some.inj h ▸ hbase
  · rcases Option.or_eq_some_iff.mp h with hprobe | ⟨-, h⟩
    · exact candidate_of_probe? hbase (by decide) hprobe
    rcases Option.or_eq_some_iff.mp h with hmanifest | ⟨-, h⟩
    · exact candidate_of_manifestPath? hbase hmanifest
    rcases Option.or_eq_some_iff.mp h with hprobe | ⟨-, hprobe⟩
    · exact candidate_of_probe? hbase (by decide) hprobe
    · exact candidate_of_probe? hbase.index (by decide) hprobe

/-- Every path that a specifier means is a candidate, whatever the importer is. -/
theorem candidate_of_resolve? {importer : Path} {resolved : Resolved}
    (h : resolver.resolve? tree specifier importer = some resolved) :
    Candidate tree resolver resolved.path := by
  unfold resolve? at h
  split at h
  · obtain ⟨p, hrelative, rfl⟩ := Option.map_eq_some_iff.mp h
    exact candidate_of_relative? resolver hrelative
  · split at h
    · rename_i p halias
      obtain ⟨table, hmem, htable⟩ := Option.bind_eq_some_iff.mp halias
      obtain rfl := Option.some.inj h
      exact candidate_of_alias hmem htable
    · obtain ⟨p, hpackage, rfl⟩ := Option.map_eq_some_iff.mp h
      obtain ⟨directory, hmem, hdirectory⟩ := Option.bind_eq_some_iff.mp hpackage
      exact candidate_of_package? hmem hdirectory

theorem Candidate.isNormal (h : Candidate tree resolver p) : p.IsNormal := by
  induction h with
  | relative => exact isNormal_absolute _ _
  | aliased => exact isNormal_normal _
  | package => exact isNormal_normal _
  | index _ ih => exact ih.child (by decide)
  | probed _ hsuffix ih => exact ih.withSuffix hsuffix
  | declared => exact isNormal_normal _

/-- Every path that a specifier means is in normal form, whatever the importer and the directories
are. -/
theorem isNormal_of_resolve? {importer : Path} {resolved : Resolved}
    (h : resolver.resolve? tree specifier importer = some resolved) : resolved.path.IsNormal :=
  (candidate_of_resolve? h).isNormal

/-- A resolver whose directories begin at the root, seen from a working directory that does. -/
structure IsAbsolute (tree : FileTree) (resolver : Resolver) : Prop where
  workingDirectory : tree.workingDirectory.isAbsolute = true
  moduleDirectory : ∀ directory ∈ resolver.moduleDirectory, directory.isAbsolute = true
  aliases : ∀ table ∈ resolver.aliases, table.baseDirectory.isAbsolute = true

theorem Candidate.isAbsolute (h : Candidate tree resolver p) (hresolver : resolver.IsAbsolute tree) :
    p.isAbsolute = true := by
  induction h with
  | relative => exact isAbsolute_absolute (.inr hresolver.workingDirectory)
  | aliased htable => exact isAbsolute_normal (isAbsolute_child (hresolver.aliases _ htable) _)
  | package hdirectory =>
    exact isAbsolute_normal (isAbsolute_child (hresolver.moduleDirectory _ hdirectory) _)
  | index _ ih => exact isAbsolute_child ih _
  | probed _ _ ih => exact isAbsolute_withSuffix ih _
  | declared _ _ ih => exact isAbsolute_normal (isAbsolute_child ih _)

end Resolver

end ComponentBundle
