import ComponentBundle.Proofs.Walk.Buffer
import ComponentBundle.Proofs.Workspace.Removing

/-!
# Files that a walk passes by

Whether files exist is tested all over resolution, mostly of files that are then not taken. A file that
nothing means can go: where it was tested before another one was found, it was not there, and where it
would have been tested later, or was found by an alias that another one overrides, it does not count.
-/
namespace ComponentBundle

namespace FileTree

variable {tree : FileTree} {names : List Text} {content : Option Text}
  (hplace : tree.at? names = some (.file content))
include hplace

theorem grows_remove : (tree.remove names).Grows tree := by
  intro p hp
  by_cases h : tree.locate? p = some names
  · rw [isFile, lookup_remove_of_eq hplace h] at hp
    cases hp
  · rwa [isFile_remove_of_ne hplace h] at hp

/-- A project is the same without a file that is no manifest and no configuration of aliases. -/
theorem sameProject_remove (hmanifest : names.getLast? ≠ some Manifest.fileName)
    (hconfig : ∀ name ∈ Alias.configNames, names.getLast? ≠ some name) :
    (tree.remove names).SameProject tree := by
  have hproject {p : Path} (hp : p.IsProjectFile) : tree.locate? p ≠ some names := by
    intro hlocate
    rcases hp with hname | ⟨name, hmem, hname⟩
    · exact hmanifest (getLast?_of_locate? hname hlocate)
    · exact hconfig name hmem (getLast?_of_locate? hname hlocate)
  exact ⟨rfl, isDirectory_remove hplace, fun p hp => isFile_remove_of_ne hplace (hproject hp),
    fun p hp => read?_remove_of_ne hplace (hproject hp)⟩

end FileTree

/-- The files that its styles read, `reads`, are all that the pipeline makes of a component depends on:
with fewer files, but the same directories, it is the same if what is read is there as before. -/
def Pipeline.ReadsOnly (pipeline : Pipeline) (reads : FileTree → Text → Path → Path → Prop) : Prop :=
  ∀ (tree fewer : FileTree) (source : Text) (file : Path), fewer.Grows tree →
    (∀ p, fewer.isDirectory p = tree.isDirectory p) →
    (∀ p, reads tree source file p →
      fewer.isFile p = tree.isFile p ∧ fewer.read? p = tree.read? p) →
      pipeline.run (.ofTree fewer) source file = pipeline.run (.ofTree tree) source file

/-- No pipeline reads files but those with the extension of a style. -/
theorem Pipeline.readsOnly_isStyle (pipeline : Pipeline) :
    pipeline.ReadsOnly fun _ _ _ p => Style.Files.isStyle p = true := by
  intro tree fewer source file _ hdirectory hread
  rw [Style.Files.ofTree_congr hdirectory (fun p hp => (hread p hp).1) fun p hp => (hread p hp).2]

variable {reads : FileTree → Text → Path → Path → Prop}

theorem Pipeline.ReadsOnly.run_remove {pipeline : Pipeline} (hreads : pipeline.ReadsOnly reads)
    {tree : FileTree} {names : List Text} {content : Option Text}
    (hplace : tree.at? names = some (.file content)) {source : Text} {file : Path}
    (h : ∀ p, reads tree source file p → tree.locate? p ≠ some names) :
    pipeline.run (.ofTree (tree.remove names)) source file =
      pipeline.run (.ofTree tree) source file :=
  hreads tree (tree.remove names) source file (FileTree.grows_remove hplace)
    (FileTree.isDirectory_remove hplace) fun p hp =>
      ⟨FileTree.isFile_remove_of_ne hplace (h p hp), FileTree.read?_remove_of_ne hplace (h p hp)⟩

namespace UnitCompiler

variable {compiler : UnitCompiler} (hreads : compiler.pipeline.ReadsOnly reads) {tree : FileTree}
  {names : List Text} {content : Option Text} (hplace : tree.at? names = some (.file content))
  {source : Text} {path : Path}
include hreads hplace

theorem compileComponent_remove (h : ∀ p, reads tree source path p → tree.locate? p ≠ some names)
    (options : CompileOptions) :
    compiler.compileComponent (.ofTree (tree.remove names)) source path options =
      compiler.compileComponent (.ofTree tree) source path options := by
  rw [compileComponent, compileComponent, hreads.run_remove hplace h]

theorem compileDependency_remove (h : UnitKind.ofPath path = .component →
    ∀ p, reads tree source path p → tree.locate? p ≠ some names) :
    compiler.compileDependency (.ofTree (tree.remove names)) source path =
      compiler.compileDependency (.ofTree tree) source path := by
  rw [compileDependency, compileDependency]
  cases hkind : UnitKind.ofPath path with
  | component => exact compileComponent_remove hreads hplace (h hkind) {}
  | typeScript => rfl
  | javaScript => rfl
  | unrecognized => rfl

end UnitCompiler

def Workspace.remove (workspace : Workspace) (names : List Text) : Workspace :=
  { workspace with files := workspace.files.remove names }

namespace Bundler

/-- A bundle is made without a look into the file of a place: the file is no manifest and no
configuration of aliases, no import that is visited means it, and no style of a component that is
visited reads it. -/
structure PassesBy (bundler : Bundler) (reads : FileTree → Text → Path → Path → Prop)
    (workspace : Workspace) (source : Text) (path : Path) (options : GenerateOptions)
    (names : List Text) : Prop where
  not_manifest : names.getLast? ≠ some Manifest.fileName
  not_config : ∀ name ∈ Alias.configNames, names.getLast? ≠ some name
  not_meant : ∀ file specifier resolved,
    bundler.Means workspace source path options file specifier resolved →
      workspace.files.locate? resolved.path ≠ some names
  not_read_entry : ∀ p,
    reads workspace.files source (path.absolute workspace.files.workingDirectory) p →
      workspace.files.locate? p ≠ some names
  not_read : ∀ chain file text, (bundler.walkOf workspace path options).Visits
    (bundler.firstCall workspace source path options) chain file text →
      UnitKind.ofPath file = .component →
        ∀ p, reads workspace.files text file p → workspace.files.locate? p ≠ some names

/-- If what is made of components depends on nothing but the files that their styles read, a file that the
walk passes by can be deleted, and the bundle stays as it is. -/
theorem generate_remove {bundler : Bundler} {workspace : Workspace} {source : Text} {path : Path}
    {options : GenerateOptions} {names : List Text} {content : Option Text}
    (hreads : bundler.compiler.pipeline.ReadsOnly reads)
    (hplace : workspace.files.at? names = some (.file content))
    (h : bundler.PassesBy reads workspace source path options names) :
    bundler.generate (workspace.remove names) source path options =
      bundler.generate workspace source path options := by
  refine generate_eq_of_sameProject
    (FileTree.sameProject_remove hplace h.not_manifest h.not_config) (FileTree.grows_remove hplace)
    ?entry ?compile fun file specifier resolved hmeans => ?meant
  case entry => exact UnitCompiler.compileComponent_remove hreads hplace h.not_read_entry _
  case compile =>
    intro chain file text hvisit
    exact UnitCompiler.compileDependency_remove hreads hplace (h.not_read chain file text hvisit)
  case meant =>
    have hne := h.not_meant file specifier resolved hmeans
    have hread := FileTree.read?_remove_of_ne hplace hne
    have hfile := FileTree.isFile_remove_of_ne hplace hne
    refine ⟨?_, fun _ hfound => hfile.trans hfound⟩
    simp only [Workspace.load?, Workspace.remove, hread]

def overridingAliases : Text :=
  "\x7b\"compilerOptions\": \x7b\"paths\": \x7b\"$*\": [\"old/*\"], \"$src/*\": [\"new/*\"]\x7d\x7d\x7d".toList

/-- A script that the first of the aliases finds, and one that the second one finds. -/
def overriddenFiles : Workspace :=
  filesOf [(["tsconfig.json".toList], .file (some overridingAliases)),
    (["old".toList], .directory), (["old".toList, "src".toList], .directory),
    (["old".toList, "src".toList, "a.js".toList], .file (some "old".toList)),
    (["new".toList], .directory), (["new".toList, "a.js".toList], .file (some "new".toList))]

theorem generate_remove_overridden :
    let place := ["old".toList, "src".toList, "a.js".toList]
    let source := "import '$src/a.js'".toList
    let generate (workspace : Workspace) :=
      verbatim.generate workspace source (.ofString "/e.svelte") {}
    overriddenFiles.files.at? place = some (.file (some "old".toList)) ∧
      verbatim.PassesBy (fun _ _ _ p => Style.Files.isStyle p = true) overriddenFiles source
        (.ofString "/e.svelte") {} place ∧
      generate (overriddenFiles.remove place) = generate overriddenFiles ∧
      (generate overriddenFiles).script? ">$src/a.js".toList = some "new".toList ∧
      (generate (overriddenFiles.remove ["new".toList, "a.js".toList])).script?
        ">$src/a.js".toList = some "old".toList := by
  intro place source generate
  let walk := verbatim.walkOf overriddenFiles (.ofString "/e.svelte") {}
  let first := verbatim.firstCall overriddenFiles source (.ofString "/e.svelte") {}
  have hplace : overriddenFiles.files.at? place = some (.file (some "old".toList)) := by
    decide +kernel
  have hmeant := forall_means_of_closed verbatim overriddenFiles source (.ofString "/e.svelte") {}
    [first, walk.callFor first.chain (.ofString "/new/a.js") "new".toList]
    (fun _ _ resolved => overriddenFiles.files.locate? resolved.path ≠ some place)
    List.mem_cons_self (by decide +kernel)
  -- No style can read the file of a script.
  have hstyle (p : Path) (hp : Style.Files.isStyle p = true) :
      overriddenFiles.files.locate? p ≠ some place := by
    intro hlocate
    obtain ⟨name, hfile⟩ := Path.IsSupport.exists_fileName? (.inr (.inr hp))
    have hextension : p.extension? = some "js".toList := by
      rw [Path.extension?, hfile, ← FileTree.getLast?_of_locate? hfile hlocate]
      decide
    rw [Style.Files.isStyle, hextension] at hp
    exact absurd hp (by decide)
  have hreads := verbatim.compiler.pipeline.readsOnly_isStyle
  have hpasses : verbatim.PassesBy (fun _ _ _ p => Style.Files.isStyle p = true) overriddenFiles source
      (.ofString "/e.svelte") {} place :=
    { not_manifest := by decide
      not_config := by decide
      not_meant := hmeant
      not_read_entry := hstyle
      not_read := fun _ _ _ _ _ => hstyle }
  exact ⟨hplace, hpasses, generate_remove hreads hplace hpasses, by decide +kernel, by decide +kernel⟩

end Bundler

end ComponentBundle
