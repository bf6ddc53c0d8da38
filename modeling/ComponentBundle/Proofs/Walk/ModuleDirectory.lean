import ComponentBundle.Proofs.Walk.Cycle

/-!
# How the directory of packages is spelled

The directory of packages is used twice: packages are looked for in it, seen from the working
directory, and the configuration of the aliases is looked for above it, as it is spelled. So a spelling
can change a bundle through the aliases alone. An absolute one without steps up does not: from there
the same aliases are found as from its normal form.
-/
namespace ComponentBundle

namespace Path

variable {p workingDirectory : Path}

/-- Seen from an absolute directory once more, an absolute path stays what it is. -/
theorem absolute_absolute (h : workingDirectory.isAbsolute = true) :
    (p.absolute workingDirectory).absolute workingDirectory = p.absolute workingDirectory := by
  have habsolute := @isAbsolute_absolute p workingDirectory (.inr h)
  rw [absolute, if_pos habsolute, (isNormal_absolute p workingDirectory).normal_eq]

theorem absolute_eq_normal (h : p.isAbsolute = true) : p.absolute workingDirectory = p.normal :=
  if_pos h

end Path

namespace Walk

/-- Two walks of the same files with the same compiler, to which each specifier means the same. -/
structure Agrees (walk other : Walk) : Prop where
  workspace_eq : walk.workspace = other.workspace
  compiler_eq : walk.compiler = other.compiler
  hasRuntime_eq : walk.hasRuntime = other.hasRuntime
  resolve?_eq : ∀ specifier file, walk.resolver.resolve? other.workspace.files specifier file =
    other.resolver.resolve? other.workspace.files specifier file

namespace Agrees

variable {walk other : Walk}

theorem compile_eq (h : walk.Agrees other) (source : Text) (path : Path) :
    walk.compile source path = other.compile source path := by
  rw [compile, compile, h.compiler_eq, h.workspace_eq]

theorem visitAll_eq (h : walk.Agrees other) (visit : Visit) (file : Path) (crumb : Breadcrumb)
    (specifiers : List Text) (state : State) :
    walk.visitAll visit file crumb specifiers state =
      other.visitAll visit file crumb specifiers state := by
  induction specifiers generalizing state with
  | nil => rfl
  | cons specifier specifiers ih =>
    simp only [visitAll, ih, h.hasRuntime_eq, h.workspace_eq, h.resolve?_eq, h.compile_eq]

theorem visitWithin_eq (h : walk.Agrees other) (n : Nat) :
    walk.visitWithin n = other.visitWithin n := by
  induction n with
  | zero => rfl
  | succ n ih =>
    funext script file crumb state
    rw [visitWithin, visitWithin, ih, h.visitAll_eq]

/-- Walks that agree do the same. -/
theorem visit_eq (h : walk.Agrees other) : walk.visit = other.visit := by
  have hroom (chain : Chain) : walk.room chain = other.room chain := by
    rw [room, room, h.workspace_eq]
  funext script file crumb state
  rw [visit, visit, hroom, h.visitWithin_eq]

end Agrees

end Walk

namespace Bundler

variable {bundler : Bundler} {workspace : Workspace} {file path directory other : Path}
  {options : GenerateOptions}

/-- The aliases that are found through one spelling of the directory of packages and through another
one lead to the same files. -/
def SameAliases (tree : FileTree) (file directory other : Path) : Prop :=
  ∀ specifier, (aliases? tree (some directory) file).bind (·.resolve? tree specifier) =
    (aliases? tree (some other) file).bind (·.resolve? tree specifier)

theorem sameAliases_of_eq_none {tree : FileTree} (h : aliases? tree (some directory) file = none)
    (hother : aliases? tree (some other) file = none) : SameAliases tree file directory other := by
  intro specifier
  rw [h, hother]

/-- Above an absolute path without steps up the same aliases are found as above its normal form. -/
theorem sameAliases_normal (tree : FileTree) (file : Path) (h : directory.IsPlain)
    (hshort : directory.text.byteLength + Alias.configMargin < FileTree.pathLimit) :
    SameAliases tree file directory directory.normal := by
  intro specifier
  have halike := h.alike_normal
  have hparent := halike.parent?
  have hlength := h.byteLength_normal_le
  unfold aliases?
  rw [Option.bind_some, Option.bind_some]
  generalize hp : directory.parent? = above at hparent ⊢
  generalize hq : directory.normal.parent? = above' at hparent ⊢
  cases hparent with
  | none => rfl
  | some habove =>
    have hle := Text.byteLength_le_of_prefix (Path.isAbsolute_of_parent? halike.left hp).2.1
    have hle' := Text.byteLength_le_of_prefix (Path.isAbsolute_of_parent? halike.right hq).2.1
    have hdiscover := @Alias.Table.rel_discover? tree _ _ habove (by omega) (by omega)
    rw [Option.some_or, Option.some_or, Option.bind_some, Option.bind_some]
    generalize Alias.Table.discover? tree _ = table at hdiscover ⊢
    generalize Alias.Table.discover? tree _ = table' at hdiscover ⊢
    cases hdiscover with
    | none => rfl
    | some htable => exact htable.resolve?_eq specifier

/-- Spellings of the directory of packages that are the same seen from the working directory, and
through which the same aliases are found, make walks that agree. -/
theorem agrees_walk
    (habsolute : directory.absolute workspace.files.workingDirectory =
      other.absolute workspace.files.workingDirectory)
    (haliases : SameAliases workspace.files file directory other) :
    (bundler.walk workspace file { options with moduleDirectory := some directory }).Agrees
      (bundler.walk workspace file { options with moduleDirectory := some other }) := by
  refine ⟨rfl, rfl, rfl, fun specifier importer => ?_⟩
  simp only [walk, Resolver.make, Option.some_or, Option.map_some, habsolute, Resolver.resolve?,
    haliases specifier]

/-- The directory of packages can be given by any path or by what that is seen from the working
directory, and the bundle is the same, if no aliases are found through either, or if the path is
absolute, without steps up, and short enough for the configuration above it to be looked up. -/
theorem generate_eq_of_absolute (bundler : Bundler) (workspace : Workspace) (source : Text)
    (path directory : Path) (options : GenerateOptions)
    (htree : workspace.files.workingDirectory.isAbsolute = true) :
    let tree := workspace.files
    let file := path.absolute tree.workingDirectory
    let absolute := directory.absolute tree.workingDirectory
    (aliases? tree (some directory) file = none ∧ aliases? tree (some absolute) file = none) ∨
        (directory.IsPlain ∧
          directory.text.byteLength + Alias.configMargin < FileTree.pathLimit) →
      bundler.generate workspace source path { options with moduleDirectory := some directory } =
        bundler.generate workspace source path
          { options with moduleDirectory := some absolute } := by
  intro tree file absolute h
  have haliases : SameAliases tree file directory absolute := by
    rcases h with ⟨hnone, hnone'⟩ | ⟨hplain, hshort⟩
    · exact sameAliases_of_eq_none hnone hnone'
    · have hnormal : absolute = directory.normal := Path.absolute_eq_normal hplain.isAbsolute
      rw [hnormal]
      exact sameAliases_normal tree file hplain hshort
  have hagrees := @agrees_walk bundler workspace file directory absolute options
    (Path.absolute_absolute htree).symm haliases
  change (if _ then _ else _) = if _ then _ else _
  rw [hagrees.visit_eq]
  rfl

def aliasedBundle (directory : Path) : Bundle :=
  verbatim.generate aliasedFiles "import '$src/e.svelte'".toList (.ofString "/src/e.svelte")
    { moduleDirectory := some directory }

theorem generate_eq_of_absolute_dotted :
    (Path.ofString "/.//node_modules/").IsPlain ∧
      (Path.ofString "/.//node_modules/").absolute aliasedFiles.files.workingDirectory =
        .ofString "/node_modules" ∧
      aliasedBundle (.ofString "/.//node_modules/") = aliasedBundle (.ofString "/node_modules") ∧
      (aliasedBundle (.ofString "/node_modules")).paths.get? ">$src/e.svelte".toList =
        some "/src/e.svelte".toList := by
  have hplain : (Path.ofString "/.//node_modules/").IsPlain := ⟨by decide, by decide⟩
  have hequal := generate_eq_of_absolute verbatim aliasedFiles "import '$src/e.svelte'".toList
    (.ofString "/src/e.svelte") (.ofString "/.//node_modules/") {} (by decide)
    (.inr ⟨hplain, by decide⟩)
  exact ⟨hplain, by decide +kernel, hequal, by decide +kernel⟩

/-- A relative path of the directory of packages shows in the paths that aliases stand for. -/
theorem aliases_show_spelling :
    (Path.ofString "node_modules").absolute aliasedFiles.files.workingDirectory =
        .ofString "/node_modules" ∧
      aliasedBundle (.ofString "node_modules") ≠ aliasedBundle (.ofString "/node_modules") ∧
      (aliasedBundle (.ofString "node_modules")).paths.get? ">$src/e.svelte".toList =
        some "src/e.svelte".toList ∧
      (aliasedBundle (.ofString "/node_modules")).paths.get? ">$src/e.svelte".toList =
        some "/src/e.svelte".toList := by
  have hrelative : (aliasedBundle (.ofString "node_modules")).paths.get? ">$src/e.svelte".toList =
      some "src/e.svelte".toList := by decide +kernel
  have habsolute : (aliasedBundle (.ofString "/node_modules")).paths.get?
      ">$src/e.svelte".toList = some "/src/e.svelte".toList := by decide +kernel
  refine ⟨by decide +kernel, fun hequal => ?_, hrelative, habsolute⟩
  rw [hequal, habsolute] at hrelative
  exact absurd hrelative (by decide)

end Bundler

end ComponentBundle
