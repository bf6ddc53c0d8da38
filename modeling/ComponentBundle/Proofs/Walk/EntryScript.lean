import ComponentBundle.Proofs.Import.StripMount
import ComponentBundle.Proofs.Walk.Failure
import Mathlib.Data.List.Infix

/-!
# The script of the entry

The options of an entry are carried out in two places. A component that is compiled by itself is
stripped and then mounted. The entry of a bundle is mounted, walked, and then stripped, as the walk
needs its imports. Both give the same script unless stripping takes the line feed that mounting looks
for, and only the bundle shows the mounted component then.
-/
namespace ComponentBundle

/-- The options change nothing of a compiled component but the script, and that is what they make of
the script that is compiled without them. -/
theorem UnitCompiler.compileComponent_eq_finish (compiler : UnitCompiler) (files : Style.Files)
    (source : Text) (path : Path) : ∃ emitted,
      (compiler.compileComponent files source path {}).script = some emitted ∧
        ∀ options, compiler.compileComponent files source path options =
          { compiler.compileComponent files source path {} with
            script := some (finish options emitted) } := by
  have hempty (options : CompileOptions) : finish options [] = [] := by
    rw [finish]
    repeat' split
    all_goals rfl
  unfold compileComponent
  split
  · exact ⟨[], rfl, fun options => by rw [hempty]; rfl⟩
  · exact ⟨[], rfl, fun options => by rw [hempty]; rfl⟩
  · split
    · exact ⟨[], rfl, fun options => by rw [hempty]; rfl⟩
    · rename_i output _
      exact ⟨output.script, rfl, fun options => rfl⟩

namespace Bundler

variable {bundler : Bundler} {workspace : Workspace} {source : Text} {path : Path}
  {options : GenerateOptions}

/-- The entry is recorded as it is emitted, mounted and then stripped. -/
theorem script_recordedEntry {emitted : Text}
    (h : ∀ options, bundler.compiler.compileComponent (.ofTree workspace.files) source
      (path.absolute workspace.files.workingDirectory) options =
        { bundler.compiler.compileComponent (.ofTree workspace.files) source
            (path.absolute workspace.files.workingDirectory) {} with
          script := some (UnitCompiler.finish options emitted) }) :
    (bundler.recordedEntry workspace source path options).script =
      some (UnitCompiler.finish { stripImports := options.stripImports }
        (UnitCompiler.finish { options.compileOptions with stripImports := false } emitted)) := by
  rw [recordedEntry, recorded, compiledEntry, entry, h]
  cases options.stripImports <;> rfl

/-- In a bundle the entry has the same script as by itself, unless it is both stripped and mounted and
the line feed that ends its last import begins the export. (If an export stands within an import, the
two are not compared.) -/
theorem script?_entry_eq_iff (bundler : Bundler) (workspace : Workspace) (source : Text) (path : Path)
    (options : GenerateOptions)
    (hpaths : (bundler.generate workspace source path options).paths ≠ []) :
    let bundle := bundler.generate workspace source path options
    let compile := bundler.compiler.compileComponent (.ofTree workspace.files) source
      (path.absolute workspace.files.workingDirectory)
    let both := options.stripImports = true ∧ options.autoMount = true
    ∃ emitted, (compile {}).script = some emitted ∧
      ((both → Import.ExportsBehindImports emitted) →
        (bundle.script? .entry = (compile options.compileOptions).script ↔
          ¬(both ∧ Import.SharesLineFeed emitted))) := by
  intro bundle compile both
  obtain ⟨emitted, hemitted, hcompile⟩ := bundler.compiler.compileComponent_eq_finish
    (.ofTree workspace.files) source (path.absolute workspace.files.workingDirectory)
  refine ⟨emitted, hemitted, fun hexports => ?_⟩
  have hentry : (bundler.compiledEntry workspace source path options).hasErrors = false := by
    rw [← Bool.not_eq_true]
    intro herrors
    rw [generate_of_hasErrors herrors] at hpaths
    exact hpaths rfl
  have htree := missing?_eq_none_of_paths_ne_nil hentry hpaths
  have hscript : bundle.script? .entry = _ :=
    (entry_generate bundler workspace source path options hentry htree).2.trans
      (script_recordedEntry hcompile)
  have hunit : (compile options.compileOptions).script =
      some (UnitCompiler.finish options.compileOptions emitted) :=
    congrArg CompiledUnit.script (hcompile options.compileOptions)
  rw [hscript, hunit, Option.some_inj]
  by_cases hboth : both
  · obtain ⟨hstrip, hmount⟩ := hboth
    have hfinish : UnitCompiler.finish { stripImports := options.stripImports }
        (UnitCompiler.finish { options.compileOptions with stripImports := false } emitted) =
          Import.stripLeading (Import.mount options.mountTarget emitted) := by
      simp [UnitCompiler.finish, GenerateOptions.compileOptions, hstrip, hmount]
    have hfinish' : UnitCompiler.finish options.compileOptions emitted =
        Import.mount options.mountTarget (Import.stripLeading emitted) := by
      simp [UnitCompiler.finish, GenerateOptions.compileOptions, hstrip, hmount]
    rw [hfinish, hfinish',
      Import.stripLeading_mount_eq_iff (hexports ⟨hstrip, hmount⟩) options.mountTarget]
    exact not_congr (and_iff_right ⟨hstrip, hmount⟩).symm
  · refine iff_of_true ?_ fun h => hboth h.1
    rcases Decidable.not_and_iff_or_not.mp hboth with hstrip | hmount
    · simp [UnitCompiler.finish, GenerateOptions.compileOptions, hstrip]
    · simp [UnitCompiler.finish, GenerateOptions.compileOptions, hmount]

/-- A component that imports a script and has its export behind a blank line. -/
def spacedEntry : Text := "import './a.js';\n\nexport default Component;\n".toList

/-- The same component without the blank line. -/
def tightEntry : Text := "import './a.js';\nexport default Component;\n".toList

def scriptFiles : Workspace where
  files :=
    { workingDirectory := .ofString "/"
      entries := [(["a.js".toList], .file (some "export const a = 1;".toList))] }
  buffers := []

theorem script?_entry_eq_spaced :
    let options : GenerateOptions := { stripImports := true, autoMount := true }
    let bundle := verbatim.generate scriptFiles spacedEntry (.ofString "/e.svelte") options
    bundle.paths ≠ [] ∧
      bundle.script? .entry = (verbatim.compiler.compileComponent (.ofTree scriptFiles.files)
        spacedEntry (.ofString "/e.svelte") options.compileOptions).script := by
  intro options bundle
  have hpaths : bundle.paths ≠ [] := by decide +kernel
  have hexports : ∀ text ∈ spacedEntry.tails, Import.BeginsExport text →
      text <:+ '\n' :: Import.stripLeading spacedEntry := by decide +kernel
  have hshared : ¬Import.BeginsExport ('\n' :: Import.stripLeading spacedEntry) := by
    decide +kernel
  obtain ⟨emitted, hemitted, heq⟩ :=
    script?_entry_eq_iff verbatim scriptFiles spacedEntry (.ofString "/e.svelte") options hpaths
  obtain rfl : spacedEntry = emitted := Option.some.inj hemitted
  exact ⟨hpaths, (heq fun _ text htext => hexports text ((List.mem_tails text _).mpr htext)).mpr
    fun h => hshared h.2.2⟩

/-- Without the blank line, only the bundle mounts the component. By itself it is stripped of the line
feed that its export begins with, and left as it is. -/
theorem stripped_export_is_not_mounted :
    let options : GenerateOptions := { stripImports := true, autoMount := true }
    let bundle := verbatim.generate scriptFiles tightEntry (.ofString "/e.svelte") options
    let unit := verbatim.compiler.compileComponent (.ofTree scriptFiles.files) tightEntry
      (.ofString "/e.svelte") options.compileOptions
    bundle.paths ≠ [] ∧
      bundle.script? .entry =
        some "new Component(\x7b\n\ttarget: document.querySelector(\"body\")\n\x7d);\n".toList ∧
      unit.script = some "export default Component;\n".toList := by
  decide +kernel

end Bundler

end ComponentBundle
