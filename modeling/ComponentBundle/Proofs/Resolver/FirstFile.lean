import ComponentBundle.Proofs.Resolver.Tested

/-!
# The first file behind a path

A specifier is joined to a path, and behind this path the module is looked for: by suffixes, then by the
manifest of the directory, then by more suffixes. The first file counts, with two exceptions. A path that
reads as if it had an extension is taken as it is, unless it is a directory, and so is the entry that a
manifest declares, whether or not a file is there. Both hide the files that would come after them.
-/
namespace ComponentBundle

namespace FileTree

variable {tree : FileTree} {base : Path} {suffixes : List Text} {suffix : Text}

theorem probe?_append (tree : FileTree) (base : Path) (front back : List Text) :
    tree.probe? base (front ++ back) = (tree.probe? base front).or (tree.probe? base back) := by
  rw [probe?, probe?, probe?, List.map_append, List.find?_append]

theorem probe?_cons_of_isFile (h : tree.isFile (base.withSuffix suffix) = true) :
    tree.probe? base (suffix :: suffixes) = some (base.withSuffix suffix) :=
  List.find?_cons_of_pos h

theorem probe?_eq_none_iff : tree.probe? base suffixes = none ↔
    ∀ suffix ∈ suffixes, tree.isFile (base.withSuffix suffix) = false := by
  simp [probe?]

end FileTree

/-- Where neither a file nor a buffer is, nothing is loaded. -/
theorem Workspace.load?_eq_none {workspace : Workspace} {p : Path}
    (hfile : workspace.files.isFile p = false) (hbuffer : workspace.buffers.text? p = none) :
    workspace.load? p = none := by
  rw [load?, hbuffer]
  rw [FileTree.isFile] at hfile
  rw [FileTree.read?]
  split at hfile
  · cases hfile
  · rfl

namespace Resolver

open FileTree

variable {tree : FileTree} {workspace : Workspace} {resolver : Resolver} {specifier text suffix : Text}
  {importer target directory p : Path} {suffixes front back : List Text} {isPackage : Bool}

/-- Where a specifier is looked for: the path that it is joined to, the suffixes that are tried first,
and whether this is in the directory of packages. -/
inductive Seeks (resolver : Resolver) (tree : FileTree) (specifier : Text) (importer : Path) :
    (target : Path) → (suffixes : List Text) → (isPackage : Bool) → Prop where
  | relative (h : specifier.head? = some '.') :
    Seeks resolver tree specifier importer
      (((importer.parent?.getD (.ofString ".")).child specifier).absolute tree.workingDirectory)
      relativeSuffixes false
  | package {directory : Path} (h : specifier.head? ≠ some '.')
    (halias : ∀ table ∈ resolver.aliases, table.resolve? tree specifier = none)
    (hdirectory : directory ∈ resolver.moduleDirectory) :
    Seeks resolver tree specifier importer (directory.child specifier).normal packageSuffixes true

def further? (tree : FileTree) (target : Path) (isPackage : Bool) : Option Path :=
  (manifestPath? tree target).or <|
    if isPackage then
      (tree.probe? target [".mjs".toList]).or
        (tree.probe? (target.child "index".toList) packageSuffixes)
    else none

theorem Seeks.resolve?_eq (h : resolver.Seeks tree specifier importer target suffixes isPackage) :
    resolver.resolve? tree specifier importer =
      (if isComplete tree target then some target
        else (tree.probe? target suffixes).or (further? tree target isPackage)).map
          (⟨·, isPackage⟩) := by
  cases h with
  | relative h => simp [resolve?, h, relative?, further?]
  | package h halias hdirectory =>
    have hbind : resolver.aliases.bind (·.resolve? tree specifier) = none :=
      Option.bind_eq_none_iff.mpr halias
    simp [resolve?, h, hbind, Option.mem_def.mp hdirectory, package?, further?]

/-- A path that reads as if it had an extension is taken as it is. -/
theorem Seeks.resolve?_of_isComplete
    (h : resolver.Seeks tree specifier importer target suffixes isPackage)
    (hcomplete : isComplete tree target = true) :
    resolver.resolve? tree specifier importer = some ⟨target, isPackage⟩ := by
  rw [h.resolve?_eq, if_pos hcomplete, Option.map_some]

/-- A file under one of the suffixes is found, or one in front of it. -/
theorem Seeks.resolve?_of_isFile
    (h : resolver.Seeks tree specifier importer target (front ++ suffix :: back) isPackage)
    (hcomplete : isComplete tree target = false)
    (hfile : tree.isFile (target.withSuffix suffix) = true) :
    resolver.resolve? tree specifier importer =
      some ⟨(tree.probe? target front).getD (target.withSuffix suffix), isPackage⟩ := by
  rw [h.resolve?_eq, hcomplete, if_neg Bool.false_ne_true, probe?_append, probe?_cons_of_isFile hfile]
  cases tree.probe? target front <;> rfl

theorem isComplete_eq_false_iff : isComplete tree target = false ↔
    target.hasExtension = false ∨ tree.isDirectory target = true := by
  rw [isComplete, Bool.and_eq_false_iff, Bool.not_eq_false']

theorem isComplete_iff : isComplete tree target = true ↔
    target.hasExtension = true ∧ tree.isDirectory target = false := by
  rw [isComplete, Bool.and_eq_true_iff, Bool.not_eq_true']

/-- The specifier leads to a path, and something can be loaded from it. -/
def Loads (resolver : Resolver) (workspace : Workspace) (specifier : Text) (importer : Path) : Prop :=
  ∃ resolved, resolver.resolve? workspace.files specifier importer = some resolved ∧
    workspace.load? resolved.path ≠ none

theorem loads_iff_of_resolve? {resolved : Resolved}
    (h : resolver.resolve? workspace.files specifier importer = some resolved) :
    resolver.Loads workspace specifier importer ↔ workspace.load? resolved.path ≠ none := by
  simp only [Loads, h, Option.some.injEq, exists_eq_left']

/-- Let there be nothing under the path of a specifier, and behind it a file that can be loaded, the first
one of this kind. The specifier leads to something that can be loaded exactly if the path does not read
as if it had an extension, or is a directory, and no file that cannot be loaded comes first, and then it
leads to that file. A path that reads as if it had an extension hides the files behind it: it is taken as
it is, and nothing is there. -/
theorem loads_behind_path_iff
    (h : resolver.Seeks workspace.files specifier importer target (front ++ suffix :: back) isPackage)
    (htarget : workspace.files.isFile target = false)
    (hbuffer : workspace.buffers.text? target = none)
    (hfile : workspace.files.isFile (target.withSuffix suffix) = true)
    (hload : workspace.load? (target.withSuffix suffix) = some text)
    (hfirst : ∀ earlier ∈ front, workspace.files.isFile (target.withSuffix earlier) = true →
      workspace.load? (target.withSuffix earlier) = none) :
    (resolver.Loads workspace specifier importer ↔
      (target.hasExtension = false ∨ workspace.files.isDirectory target = true) ∧
        ∀ earlier ∈ front, workspace.files.isFile (target.withSuffix earlier) = false) ∧
    (resolver.Loads workspace specifier importer →
      resolver.resolve? workspace.files specifier importer =
        some ⟨target.withSuffix suffix, isPackage⟩) ∧
    (target.hasExtension = true → workspace.files.isDirectory target = false →
      resolver.resolve? workspace.files specifier importer = some ⟨target, isPackage⟩ ∧
        workspace.load? target = none) := by
  have hnothing := Workspace.load?_eq_none htarget hbuffer
  have hhidden (hyes : target.hasExtension = true)
      (hno : workspace.files.isDirectory target = false) :
      resolver.resolve? workspace.files specifier importer = some ⟨target, isPackage⟩ ∧
        workspace.load? target = none :=
    ⟨h.resolve?_of_isComplete (isComplete_iff.mpr ⟨hyes, hno⟩), hnothing⟩
  rw [← isComplete_eq_false_iff, ← probe?_eq_none_iff]
  refine and_assoc.mp ⟨?_, hhidden⟩
  cases hcomplete : isComplete workspace.files target with
  | true =>
    have hloads : ¬resolver.Loads workspace specifier importer := by
      rw [loads_iff_of_resolve? (h.resolve?_of_isComplete hcomplete)]
      exact not_not_intro hnothing
    exact ⟨iff_of_false hloads (by simp), fun hyes => absurd hyes hloads⟩
  | false =>
    have hresolve := h.resolve?_of_isFile hcomplete hfile
    cases hfront : workspace.files.probe? target front with
    | none =>
      rw [hfront, Option.getD_none] at hresolve
      have hloads : resolver.Loads workspace specifier importer := by
        rw [loads_iff_of_resolve? hresolve, hload]
        exact Option.some_ne_none text
      exact ⟨iff_of_true hloads ⟨rfl, rfl⟩, fun _ => hresolve⟩
    | some p =>
      -- A file in front is the one that counts, and it cannot be loaded.
      obtain ⟨hmem, hearlier⟩ := isFile_of_probe? hfront
      obtain ⟨earlier, hearlierMem, rfl⟩ := List.mem_map.mp hmem
      rw [hfront, Option.getD_some] at hresolve
      have hloads : ¬resolver.Loads workspace specifier importer := by
        rw [loads_iff_of_resolve? hresolve]
        exact not_not_intro (hfirst earlier hearlierMem hearlier)
      exact ⟨iff_of_false hloads (by simp), fun hyes => absurd hyes hloads⟩

/-- A directory that reads as if it had an extension, with a script of the same name beside it that is
open in an editor, and a script whose name has two dots. -/
def dottedFiles : Workspace where
  files := {
    workingDirectory := .ofString "/"
    entries := [(["src".toList], .directory), (["src".toList, "icons.v2".toList], .directory),
      (["src".toList, "icons.v2.mjs".toList], .file (some "old".toList)),
      (["src".toList, "icons.v2.ts".toList], .file (some "typed".toList)),
      (["src".toList, "jquery.min.js".toList], .file (some "jquery".toList))] }
  buffers := [(.ofString "/src/icons.v2.mjs", "new".toList)]

def besideOnly : Resolver := ⟨none, none⟩

theorem loads_behind_path_iff_dotted :
    let importer := Path.ofString "/src/App.svelte"
    besideOnly.resolve? dottedFiles.files "./icons.v2".toList importer =
        some ⟨.ofString "/src/icons.v2.mjs", false⟩ ∧
      dottedFiles.load? (.ofString "/src/icons.v2.mjs") = some "new".toList ∧
      (Path.ofString "/src/icons.v2").hasExtension = true ∧
      besideOnly.resolve? dottedFiles.files "./jquery.min".toList importer =
        some ⟨.ofString "/src/jquery.min", false⟩ ∧
      dottedFiles.load? (.ofString "/src/jquery.min.js") = some "jquery".toList := by
  intro importer
  have hicons : besideOnly.Seeks dottedFiles.files "./icons.v2".toList importer
      (.ofString "/src/icons.v2") ([".js".toList] ++ ".mjs".toList :: [".ts".toList]) false :=
    .relative rfl
  have hjquery : besideOnly.Seeks dottedFiles.files "./jquery.min".toList importer
      (.ofString "/src/jquery.min") ([] ++ ".js".toList :: [".mjs".toList, ".ts".toList]) false :=
    .relative rfl
  have hload : dottedFiles.load? (.ofString "/src/icons.v2.mjs") = some "new".toList := by
    decide +kernel
  have hload' : dottedFiles.load? (.ofString "/src/jquery.min.js") = some "jquery".toList := by
    decide +kernel
  obtain ⟨hloads, hfound, -⟩ := loads_behind_path_iff hicons (by decide +kernel) (by decide +kernel)
    (by decide +kernel) hload (by decide +kernel)
  obtain ⟨-, -, hhidden⟩ := loads_behind_path_iff hjquery (by decide +kernel) (by decide +kernel)
    (by decide +kernel) hload' (by decide +kernel)
  exact ⟨hfound (hloads.mpr (by decide +kernel)), hload, by decide +kernel,
    (hhidden (by decide +kernel) (by decide +kernel)).1, hload'⟩

/-- Not every script that is behind the path of a specifier is found. -/
theorem dotted_name_hides_script :
    ¬∀ (resolver : Resolver) (workspace : Workspace) (specifier : Text) (importer target : Path)
      (suffixes : List Text) (isPackage : Bool) (suffix : Text),
      resolver.Seeks workspace.files specifier importer target suffixes isPackage →
        workspace.files.isFile target = false → workspace.buffers.text? target = none →
          suffix ∈ suffixes → workspace.files.read? (target.withSuffix suffix) ≠ none →
            resolver.Loads workspace specifier importer := by
  intro hall
  have hjquery : besideOnly.Seeks dottedFiles.files "./jquery.min".toList
      (.ofString "/src/App.svelte") (.ofString "/src/jquery.min") relativeSuffixes false :=
    .relative rfl
  have hloads := hall _ _ _ _ _ _ _ ".js".toList hjquery (by decide +kernel) (by decide +kernel)
    (by decide) (by decide +kernel)
  rw [loads_iff_of_resolve? (hjquery.resolve?_of_isComplete (by decide +kernel))] at hloads
  exact hloads (by decide +kernel)

/-- The manifest of a directory declares an entry, and this is its path. -/
def Declares (tree : FileTree) (directory path : Path) : Prop :=
  ∃ text manifest entry, tree.read? (directory.child Manifest.fileName) = some text ∧
    Manifest.parse text = .ok manifest ∧ manifest.primary? = some entry ∧
      (directory.child entry).normal = path

theorem manifestPath?_eq_some_iff : manifestPath? tree directory = some p ↔ Declares tree directory p := by
  rw [manifestPath?, Manifest.read?, Manifest.read, Declares]
  cases tree.read? (directory.child Manifest.fileName) with
  | none => simp [Except.toOption]
  | some text =>
    cases hparse : Manifest.parse text with
    | error failure => simp [hparse, Except.toOption]
    | ok manifest => simp [hparse, Except.toOption, Manifest.entryPath?]

/-- The paths of a package that are tried first. -/
def packageFronts (target : Path) : List Path :=
  [target.withSuffix ".js".toList, target.withSuffix ".ts".toList]

def packageBacks (target : Path) : List Path :=
  [target.withSuffix ".mjs".toList, target.child "index.js".toList, target.child "index.ts".toList]

/-- The paths that the file of a package can have, in the order in which they are tried. -/
def packagePaths (tree : FileTree) (target : Path) : List Path :=
  packageFronts target ++ ((manifestPath? tree target).toList ++ packageBacks target)

section Package

variable (h : resolver.Seeks tree specifier importer target packageSuffixes true)
  (htarget : target.hasExtension = false ∨ tree.isDirectory target = true)
include h htarget

theorem resolve?_package : resolver.resolve? tree specifier importer =
    (((packageFronts target).find? tree.isFile).or
      ((manifestPath? tree target).or ((packageBacks target).find? tree.isFile))).map (⟨·, true⟩) := by
  have hbacks : packageBacks target = [target.withSuffix ".mjs".toList] ++
      packageSuffixes.map (target.child "index".toList).withSuffix := by
    rw [packageBacks, packageSuffixes, List.map_cons, List.map_singleton,
      Path.withSuffix_child target (by decide), Path.withSuffix_child target (by decide)]
    rfl
  rw [h.resolve?_eq, isComplete_eq_false_iff.mpr htarget, if_neg Bool.false_ne_true, further?,
    if_pos rfl, hbacks, List.find?_append]
  rfl

/-- A package is its first file if a declared entry is a file or comes after one. -/
theorem resolve?_package_of_forall
    (hdeclared : ∀ p, Declares tree target p →
      tree.isFile p = true ∨ ∃ q ∈ packageFronts target, tree.isFile q = true) :
    resolver.resolve? tree specifier importer =
      ((packagePaths tree target).find? tree.isFile).map (⟨·, true⟩) := by
  rw [resolve?_package h htarget, packagePaths, List.find?_append, List.find?_append]
  cases hfront : (packageFronts target).find? tree.isFile with
  | some q => rfl
  | none =>
    cases hmanifest : manifestPath? tree target with
    | none => rfl
    | some p =>
      have hfile : tree.isFile p = true := by
        refine (hdeclared p (manifestPath?_eq_some_iff.mp hmanifest)).resolve_right ?_
        rintro ⟨q, hq, hqfile⟩
        exact List.find?_eq_none.mp hfront q hq hqfile
      rw [Option.toList_some, List.find?_cons_of_pos hfile]

/-- A declared entry that comes after no file is taken as it is. -/
theorem resolve?_package_of_declares (hdeclares : Declares tree target p)
    (hfront : ∀ q ∈ packageFronts target, tree.isFile q = false) :
    resolver.resolve? tree specifier importer = some ⟨p, true⟩ := by
  have hnone : (packageFronts target).find? tree.isFile = none :=
    List.find?_eq_none.mpr fun q hq => by simp [hfront q hq]
  rw [resolve?_package h htarget, hnone, manifestPath?_eq_some_iff.mpr hdeclares]
  rfl

theorem resolve?_package_eq_none_iff : resolver.resolve? tree specifier importer = none ↔
    (∀ p, ¬Declares tree target p) ∧ ∀ p ∈ packagePaths tree target, tree.isFile p = false := by
  have hdeclares : (∀ p, ¬Declares tree target p) ↔ manifestPath? tree target = none := by
    simp only [← manifestPath?_eq_some_iff, Option.eq_none_iff_forall_ne_some, ne_eq]
  rw [resolve?_package h htarget, hdeclares, packagePaths]
  cases manifestPath? tree target with
  | none => simp [List.find?_eq_none, or_imp, forall_and]
  | some p => simp

/-- Let the path of a package not read as if it had an extension, or be a directory. The package is the
first file that there is, exactly if the entry that its manifest declares is a file, or comes after one.
Any other entry is taken as it is, though no file is there, and hides the files after it. So nothing is
found exactly if there is neither a file nor a declared entry. -/
theorem package_is_first_file_iff :
    (resolver.resolve? tree specifier importer =
        ((packagePaths tree target).find? tree.isFile).map (⟨·, true⟩) ↔
      ∀ p, Declares tree target p →
        tree.isFile p = true ∨ ∃ q ∈ packageFronts target, tree.isFile q = true) ∧
    (∀ p, Declares tree target p → (∀ q ∈ packageFronts target, tree.isFile q = false) →
      resolver.resolve? tree specifier importer = some ⟨p, true⟩) ∧
    (resolver.resolve? tree specifier importer = none ↔
      (∀ p, ¬Declares tree target p) ∧ ∀ p ∈ packagePaths tree target, tree.isFile p = false) := by
  refine ⟨⟨fun hfirst p hdeclares => ?_, resolve?_package_of_forall h htarget⟩,
    fun p hdeclares => resolve?_package_of_declares h htarget hdeclares,
    resolve?_package_eq_none_iff h htarget⟩
  by_contra hstale
  push Not at hstale
  have hfront : ∀ q ∈ packageFronts target, tree.isFile q = false := fun q hq => by
    simpa using hstale.2 q hq
  rw [resolve?_package_of_declares h htarget hdeclares hfront] at hfirst
  obtain ⟨q, hq, heq⟩ := Option.map_eq_some_iff.mp hfirst.symm
  obtain rfl : q = p := congrArg Resolved.path heq
  exact hstale.1 (List.find?_some hq)

end Package

/-- Two packages: the manifest of one declares a file in a directory that reads as if it had an extension,
that of the other a file that is gone. -/
def packageFiles : FileTree where
  workingDirectory := .ofString "/"
  entries := [(["m".toList], .directory), (["m".toList, "chart.js".toList], .directory),
    (["m".toList, "chart.js".toList, "package.json".toList],
      .file (some "\x7b\"module\": \"./dist/chart.mjs\", \"main\": \"gone.js\"\x7d".toList)),
    (["m".toList, "chart.js".toList, "index.js".toList], .file (some [])),
    (["m".toList, "chart.js".toList, "dist".toList], .directory),
    (["m".toList, "chart.js".toList, "dist".toList, "chart.mjs".toList], .file (some [])),
    (["m".toList, "stale".toList], .directory),
    (["m".toList, "stale".toList, "package.json".toList],
      .file (some "\x7b\"main\": \"gone.js\"\x7d".toList)),
    (["m".toList, "stale".toList, "index.js".toList], .file (some []))]

def packagesOnly : Resolver := ⟨some (.ofString "/m"), none⟩

theorem seeks_packagesOnly {tree : FileTree} (h : specifier.head? ≠ some '.')
    (htarget : ((Path.ofString "/m").child specifier).normal = target) :
    packagesOnly.Seeks tree specifier importer target packageSuffixes true :=
  htarget ▸ .package h (by simp [packagesOnly]) rfl

theorem package_is_first_file_iff_chart :
    let importer := Path.ofString "/App.svelte"
    (Path.ofString "/m/chart.js").hasExtension = true ∧
      packagesOnly.resolve? packageFiles "chart.js".toList importer =
        some ⟨.ofString "/m/chart.js/dist/chart.mjs", true⟩ ∧
      packagesOnly.resolve? packageFiles "stale".toList importer =
        some ⟨.ofString "/m/stale/gone.js", true⟩ ∧
      packagesOnly.resolve? packageFiles "missing".toList importer = none := by
  intro importer
  have hchart : packagesOnly.Seeks packageFiles "chart.js".toList importer
      (.ofString "/m/chart.js") packageSuffixes true := seeks_packagesOnly (by decide) rfl
  have hstale : packagesOnly.Seeks packageFiles "stale".toList importer
      (.ofString "/m/stale") packageSuffixes true := seeks_packagesOnly (by decide) rfl
  have hmissing : packagesOnly.Seeks packageFiles "missing".toList importer
      (.ofString "/m/missing") packageSuffixes true := seeks_packagesOnly (by decide) rfl
  have hentry : ∀ p, Declares packageFiles (.ofString "/m/chart.js") p →
      packageFiles.isFile p = true ∨ ∃ q ∈ packageFronts (.ofString "/m/chart.js"),
        packageFiles.isFile q = true := by
    intro p hp
    have hpath : manifestPath? packageFiles (.ofString "/m/chart.js") =
        some (.ofString "/m/chart.js/dist/chart.mjs") := by decide +kernel
    rw [← manifestPath?_eq_some_iff, hpath] at hp
    obtain rfl := Option.some.inj hp
    exact .inl (by decide +kernel)
  have hgone : Declares packageFiles (.ofString "/m/stale") (.ofString "/m/stale/gone.js") :=
    manifestPath?_eq_some_iff.mp (by decide +kernel)
  have hnone : ∀ p, ¬Declares packageFiles (.ofString "/m/missing") p := by
    intro p hp
    have hpath : manifestPath? packageFiles (.ofString "/m/missing") = none := by decide +kernel
    rw [← manifestPath?_eq_some_iff, hpath] at hp
    cases hp
  refine ⟨by decide +kernel, ?_, ?_, ?_⟩
  · rw [(package_is_first_file_iff hchart (by decide +kernel)).1.mpr hentry]
    decide +kernel
  · exact (package_is_first_file_iff hstale (by decide +kernel)).2.1 _ hgone (by decide +kernel)
  · exact (package_is_first_file_iff hmissing (by decide +kernel)).2.2.mpr
      ⟨hnone, by decide +kernel⟩

/-- A package is not always its first file. -/
theorem stale_entry_hides_index :
    ¬∀ (resolver : Resolver) (tree : FileTree) (specifier : Text) (importer target : Path),
      resolver.Seeks tree specifier importer target packageSuffixes true →
        target.hasExtension = false ∨ tree.isDirectory target = true →
          resolver.resolve? tree specifier importer =
            ((packagePaths tree target).find? tree.isFile).map (⟨·, true⟩) := by
  intro hall
  have hseeks : packagesOnly.Seeks packageFiles "stale".toList (.ofString "/App.svelte")
      (.ofString "/m/stale") packageSuffixes true := seeks_packagesOnly (by decide) rfl
  have hindex : (packagePaths packageFiles (.ofString "/m/stale")).find? packageFiles.isFile =
      some (.ofString "/m/stale/index.js") := by decide +kernel
  have hgone : packagesOnly.resolve? packageFiles "stale".toList (.ofString "/App.svelte") =
      some ⟨.ofString "/m/stale/gone.js", true⟩ := by decide +kernel
  have hfirst := hall _ _ _ _ _ hseeks (by decide +kernel)
  rw [hindex, hgone] at hfirst
  exact absurd hfirst (by decide)

end Resolver

end ComponentBundle
