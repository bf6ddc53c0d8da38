import ComponentBundle.Proofs.Walk.Environment

/-!
# Buffers and files

Where the text of a module comes from cannot be seen in a bundle, as long as it is found under the path
that the module is resolved to. A buffer is open under one path, and a file is at its place by whatever
path it is reached. So a text in a buffer counts as if it was saved if the imports that mean the file
spell its path like the buffer. If there is no file on disk yet, they must not be found by a test for
files either, because no test sees the buffers.
-/
namespace ComponentBundle

open FileTree

namespace Workspace

variable {workspace : Workspace} {p q : Path} {names : List Text}

/-- Two environments of the same directories and files, of which the supporting ones are the same, and
from which the same is loaded. -/
structure SameSources (workspace other : Workspace) : Prop where
  sameSupport : workspace.files.SameSupport other.files
  isFile_eq : ∀ p, workspace.files.isFile p = other.files.isFile p
  load?_eq : ∀ p, p.IsNormal → workspace.load? p = other.load? p

/-- The environment with a text in a buffer that is open under a path. -/
def edit (workspace : Workspace) (p : Path) (text : Text) : Workspace :=
  { workspace with buffers := workspace.buffers.set p (some text) }

/-- The environment with the text saved at a place, and no buffer open under the path. -/
def save (workspace : Workspace) (names : List Text) (p : Path) (text : Text) : Workspace :=
  ⟨workspace.files.put names (.file (some text)), workspace.buffers.set p none⟩

/-- A file that is opened in a buffer and not changed is loaded from its path as before. -/
theorem sameSources_edit {text : Text} (hp : p.IsNormal) (h : workspace.load? p = some text) :
    workspace.SameSources (workspace.edit p text) := by
  refine ⟨⟨rfl, fun _ => rfl, fun _ _ => rfl, fun _ _ => rfl⟩, fun _ => rfl, fun q hq => ?_⟩
  by_cases hcomponents : q.components = p.components
  · rw [hq.eq_of_components hp hcomponents, h]
    simp [load?, edit, Buffers.text?_set]
  · simp [load?, edit, Buffers.text?_set, hcomponents]

/-- A place for a text: an absolute path in normal form leads there, and neither a directory nor a
supporting file is there. -/
structure IsModule (workspace : Workspace) (p : Path) (names : List Text) : Prop where
  isNormal : p.IsNormal
  isAbsolute : p.isAbsolute = true
  not_isSupport : ¬p.IsSupport
  locate?_eq : workspace.files.locate? p = some names
  at?_ne : workspace.files.at? names ≠ some .directory

/-- No supporting file is at such a place, by whatever path it is reached. -/
theorem IsModule.locate?_ne (h : workspace.IsModule p names) (hq : q.IsSupport) :
    workspace.files.locate? q ≠ some names := by
  intro hlocate
  obtain ⟨name, hname⟩ := hq.exists_fileName?
  have hlast := getLast?_of_locate? hname hlocate
  have hsame : q.fileName? = p.fileName? := by
    rw [fileName?_eq_getLast? h.isNormal h.isAbsolute h.locate?_eq, hlast, hname]
  exact h.not_isSupport (hq.of_fileName? hsame)

theorem IsModule.sameSupport (h : workspace.IsModule p names) (text : Text) :
    (workspace.edit p text).files.SameSupport (workspace.save names p text).files := by
  refine ⟨rfl, fun q => (isDirectory_put h.at?_ne q).symm, fun q hq => ?file, fun q hq => ?text⟩
  case file =>
    have hne := h.locate?_ne hq
    rw [save, isFile_put h.at?_ne, decide_eq_false hne, Bool.or_false]
    rfl
  case text => exact (read?_put_of_ne h.at?_ne (h.locate?_ne hq)).symm

theorem IsModule.grows (h : workspace.IsModule p names) (text : Text) :
    (workspace.edit p text).files.Grows (workspace.save names p text).files := by
  intro q hq
  rw [save, isFile_put h.at?_ne]
  exact Bool.or_eq_true_iff.mpr (.inl hq)

/-- The text is loaded from the path either way, and from no other one that begins alike. -/
theorem IsModule.load?_eq (h : workspace.IsModule p names) (text : Text) (hq : q.IsNormal)
    (hbegin : (workspace.save names p text).files.SamePlace q p → BeginAlike q p) :
    (workspace.edit p text).load? q = (workspace.save names p text).load? q := by
  have hlocate : (workspace.save names p text).files.locate? p = some names := by
    rw [save, locate?_put h.at?_ne, h.locate?_eq]
  rw [load?, load?, edit, save, Buffers.text?_set, Buffers.text?_set]
  by_cases hcomponents : q.components = p.components
  · obtain rfl : q = p := hq.eq_of_components h.isNormal hcomponents
    have hread : (workspace.files.put names (.file (some text))).read? q = some text := by
      rw [read?, lookup_put_of_eq h.at?_ne h.locate?_eq]
    simp [hread]
  · have hne : workspace.files.locate? q ≠ some names := by
      intro hlocate'
      have hsame : (workspace.save names p text).files.SamePlace q p :=
        ⟨names, by rw [save, locate?_put h.at?_ne, hlocate'], hlocate⟩
      exact hcomponents (hsame.eq_of_beginAlike hq h.isNormal (hbegin hsame) ▸ rfl)
    simp only [if_neg hcomponents, read?_put_of_ne h.at?_ne hne]

end Workspace

namespace Bundler

variable {bundler : Bundler} {workspace : Workspace} {source : Text} {path p : Path}
  {options : GenerateOptions} {names : List Text}

/-- A text in a buffer makes the same bundle as the saved one, if the imports that mean the saved file
spell it like the buffer, and find it by a test only if there is a file already. -/
theorem generate_edit_eq_save (h : workspace.IsModule p names) (text : Text)
    (hmeans : ∀ file specifier resolved,
      bundler.Means (workspace.save names p text) source path options file specifier resolved →
        (workspace.save names p text).files.SamePlace resolved.path p →
          BeginAlike resolved.path p ∧
            (resolved.path ∈ (bundler.walkOf (workspace.save names p text) path
                options).resolver.tested (workspace.save names p text).files specifier file →
              workspace.files.isFile resolved.path = true)) :
    bundler.generate (workspace.edit p text) source path options =
      bundler.generate (workspace.save names p text) source path options := by
  refine generate_eq_of_grows (h.sameSupport text) (h.grows text)
    fun file specifier resolved hresolved => ⟨?load, fun htested hfile => ?file⟩
  case load =>
    have hnormal : resolved.path.IsNormal := by
      obtain ⟨call, -, -, -, hresolve⟩ := hresolved
      exact Resolver.isNormal_of_resolve? hresolve
    exact h.load?_eq text hnormal fun hsame => (hmeans file specifier resolved hresolved hsame).1
  case file =>
    by_cases hplace : workspace.files.locate? resolved.path = some names
    · have hsame : (workspace.save names p text).files.SamePlace resolved.path p := by
        refine ⟨names, ?_, ?_⟩
        · rw [Workspace.save, locate?_put h.at?_ne, hplace]
        · rw [Workspace.save, locate?_put h.at?_ne, h.locate?_eq]
      exact (hmeans file specifier resolved hresolved hsame).2 htested
    · rw [Workspace.save, isFile_put h.at?_ne, decide_eq_false hplace, Bool.or_false] at hfile
      exact hfile

/-- Where a text comes from cannot be seen. Two environments of the same directories and files, with
the same supporting files, from which the same is loaded, make the same bundle. So does a text in a
buffer of a module that exists and the saved text, if the imports that mean the module spell its path
like the buffer. -/
theorem generate_eq_of_sameSources (bundler : Bundler) (workspace : Workspace) (source : Text)
    (path : Path) (options : GenerateOptions) :
    (∀ other, workspace.SameSources other →
        bundler.generate workspace source path options =
          bundler.generate other source path options) ∧
      ∀ p names old text, workspace.IsModule p names →
        workspace.files.at? names = some (.file old) →
        (∀ file specifier resolved,
          bundler.Means (workspace.save names p text) source path options file specifier resolved →
            (workspace.save names p text).files.SamePlace resolved.path p →
              BeginAlike resolved.path p) →
          bundler.generate (workspace.edit p text) source path options =
            bundler.generate (workspace.save names p text) source path options := by
  constructor
  · intro other h
    have hgrows : workspace.files.Grows other.files := fun q hq => h.isFile_eq q ▸ hq
    refine generate_eq_of_grows h.sameSupport hgrows fun file specifier resolved hresolved =>
      ⟨h.load?_eq _ ?_, fun _ hfile => (h.isFile_eq _).trans hfile⟩
    obtain ⟨call, -, -, -, hresolve⟩ := hresolved
    exact Resolver.isNormal_of_resolve? hresolve
  · intro p names old text hmodule hold hmeans
    refine generate_edit_eq_save hmodule text fun file specifier resolved hresolved hsame =>
      ⟨hmeans file specifier resolved hresolved hsame, fun _ => ?_⟩
    obtain ⟨place, hlocate, hplace⟩ := hsame
    rw [Workspace.save, locate?_put hmodule.at?_ne] at hlocate hplace
    obtain rfl : names = place := Option.some.inj (hmodule.locate?_eq.symm.trans hplace)
    rw [isFile, FileTree.entry?.eq_def, hlocate, Option.bind_some, hold]

/-- The environment of a directory with files, without buffers. -/
def filesOf (entries : List (List Text × Entry)) : Workspace where
  files := { workingDirectory := .ofString "/", entries }
  buffers := []

/-- The path of a script. -/
def scriptPath : Path := .ofString "/a.js"

def scriptText : Text := "export const a = 1;".toList

/-- The text that it is changed to. -/
def changedText : Text := "export const a = 2;".toList

/-- A component that imports the script by its name. -/
def importingEntry : Text := "import './a.js';".toList

def savedScript : Workspace := filesOf [(["a.js".toList], .file (some scriptText))]

private theorem isNormal_scriptPath : scriptPath.IsNormal := by
  have hnormal : scriptPath = scriptPath.normal := by decide +kernel
  rw [hnormal]
  exact Path.isNormal_normal _

private def changedCalls (workspace : Workspace) : List Walk.Call :=
  let walk := verbatim.walkOf workspace (.ofString "/e.svelte") {}
  let first := verbatim.firstCall workspace importingEntry (.ofString "/e.svelte") {}
  [first, walk.callFor first.chain scriptPath changedText]

theorem generate_eq_of_sameSources_changed :
    let generate (workspace : Workspace) :=
      verbatim.generate workspace importingEntry (.ofString "/e.svelte") {}
    let changed := savedScript.edit scriptPath changedText
    savedScript.SameSources (savedScript.edit scriptPath scriptText) ∧
      generate savedScript = generate (savedScript.edit scriptPath scriptText) ∧
      savedScript.IsModule scriptPath ["a.js".toList] ∧
      generate changed = generate (savedScript.save ["a.js".toList] scriptPath changedText) ∧
      (generate changed).script? ">./a.js".toList = some changedText := by
  intro generate changed
  have hsame : savedScript.SameSources (savedScript.edit scriptPath scriptText) :=
    Workspace.sameSources_edit isNormal_scriptPath (by decide +kernel)
  have hmodule : savedScript.IsModule scriptPath ["a.js".toList] :=
    ⟨isNormal_scriptPath, by decide, by decide +kernel, by decide +kernel, by decide +kernel⟩
  have hmeans := forall_means_of_closed verbatim
    (savedScript.save ["a.js".toList] scriptPath changedText) importingEntry
    (.ofString "/e.svelte") {}
    (changedCalls (savedScript.save ["a.js".toList] scriptPath changedText))
    (fun _ _ resolved => BeginAlike resolved.path scriptPath) List.mem_cons_self
    (by decide +kernel)
  obtain ⟨hsources, hedit⟩ := generate_eq_of_sameSources verbatim savedScript importingEntry
    (.ofString "/e.svelte") {}
  refine ⟨hsame, hsources _ hsame, hmodule, ?_, by decide +kernel⟩
  exact hedit scriptPath ["a.js".toList] (some scriptText) changedText hmodule (by decide +kernel)
    fun file specifier resolved hresolved _ => hmeans file specifier resolved hresolved

def aliasedScript : Workspace :=
  filesOf [(["tsconfig.json".toList], .file (some sourceAlias)), (["src".toList], .directory),
    (["src".toList, "a.js".toList], .file (some scriptText))]

/-- If the directory of packages is given by a relative path, the alias leads to the script by such a
path too. Under it no buffer is open, and the bundle shows the text on disk. -/
theorem buffer_hides_behind_alias :
    let generate (workspace : Workspace) :=
      verbatim.generate workspace "import '$src/a.js';".toList (.ofString "/src/e.svelte")
        { moduleDirectory := some (.ofString "node_modules") }
    let place := ["src".toList, "a.js".toList]
    let path := Path.ofString "/src/a.js"
    aliasedScript.files.locate? path = some place ∧
      (generate (aliasedScript.edit path changedText)).script? ">$src/a.js".toList =
        some scriptText ∧
      (generate (aliasedScript.save place path changedText)).script? ">$src/a.js".toList =
        some changedText := by
  decide +kernel

/-- A text in a buffer counts as if it was saved, whether or not there is a file on disk, if the imports
that mean the file once it is saved spell its path like the buffer and give its extension, so that they
are not found by a test for files. -/
theorem buffer_counts_as_file (bundler : Bundler) (workspace : Workspace) (source : Text)
    (path : Path) (options : GenerateOptions) (p : Path) (names : List Text) (text : Text)
    (hmodule : workspace.IsModule p names)
    (hmeans : ∀ file specifier resolved,
      bundler.Means (workspace.save names p text) source path options file specifier resolved →
        (workspace.save names p text).files.SamePlace resolved.path p →
          BeginAlike resolved.path p ∧
            resolved.path ∉ (bundler.walkOf (workspace.save names p text) path
              options).resolver.tested (workspace.save names p text).files specifier file) :
    bundler.generate (workspace.edit p text) source path options =
      bundler.generate (workspace.save names p text) source path options :=
  generate_edit_eq_save hmodule text fun file specifier resolved hresolved hsame =>
    have hmeant := hmeans file specifier resolved hresolved hsame
    ⟨hmeant.1, fun htested => absurd htested hmeant.2⟩

theorem buffer_counts_as_file_named :
    let generate (workspace : Workspace) :=
      verbatim.generate workspace importingEntry (.ofString "/e.svelte") {}
    let changed := (filesOf []).edit scriptPath changedText
    (filesOf []).IsModule scriptPath ["a.js".toList] ∧
      (filesOf []).files.at? ["a.js".toList] = none ∧
      generate changed = generate ((filesOf []).save ["a.js".toList] scriptPath changedText) ∧
      (generate changed).script? ">./a.js".toList = some changedText := by
  intro generate changed
  have hmodule : (filesOf []).IsModule scriptPath ["a.js".toList] :=
    ⟨isNormal_scriptPath, by decide, by decide +kernel, by decide +kernel, by decide +kernel⟩
  have hmeans := forall_means_of_closed verbatim
    ((filesOf []).save ["a.js".toList] scriptPath changedText) importingEntry
    (.ofString "/e.svelte") {}
    (changedCalls ((filesOf []).save ["a.js".toList] scriptPath changedText))
    (fun file specifier resolved => BeginAlike resolved.path scriptPath ∧
      resolved.path ∉ (verbatim.walkOf ((filesOf []).save ["a.js".toList] scriptPath changedText)
        (.ofString "/e.svelte") {}).resolver.tested
          ((filesOf []).save ["a.js".toList] scriptPath changedText).files specifier file)
    List.mem_cons_self (by decide +kernel)
  refine ⟨hmodule, by decide +kernel, ?_, by decide +kernel⟩
  exact buffer_counts_as_file verbatim (filesOf []) importingEntry (.ofString "/e.svelte") {}
    scriptPath ["a.js".toList] changedText hmodule
    fun file specifier resolved hresolved _ => hmeans file specifier resolved hresolved

/-- Without its extension a module in a buffer is not found, though it would be once it is saved. -/
theorem buffer_fails_test :
    let generate (workspace : Workspace) :=
      verbatim.generate workspace "import './a';".toList (.ofString "/e.svelte") {}
    let unsaved := generate ((filesOf []).edit scriptPath changedText)
    (filesOf []).files.locate? scriptPath = some ["a.js".toList] ∧
      (filesOf []).files.at? ["a.js".toList] = none ∧
      unsaved.paths = [] ∧
      unsaved.diagnostics = [(WalkFailure.moduleNotFound "./a".toList).diagnostic] ∧
      (generate ((filesOf []).save ["a.js".toList] scriptPath changedText)).script?
        ">./a".toList = some changedText := by
  decide +kernel

end Bundler

end ComponentBundle
