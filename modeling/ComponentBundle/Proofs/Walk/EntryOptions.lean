import ComponentBundle.Proofs.Import.Mount
import ComponentBundle.Proofs.Path.Absolute
import ComponentBundle.Proofs.Walk.Failure
import ComponentBundle.Proofs.Walk.Reach

/-!
# What the options of the entry change

Stripping imports and mounting are done to the script of the entry, and the walk goes through the
imports that this script has before and after alike. So two bundles of one entry differ in nothing but
the scripts of the entry itself, those recorded for cycles back to it included. As these may be kept
under the chain of another file too, only there can other scripts differ.
-/
namespace ComponentBundle

/-- Two scripts recorded for a path are the same, but for the path of the entry: there it is enough that
both or none exist. -/
def SameScript (entry path : Text) (script other : Option Text) : Prop :=
  script.isSome = other.isSome ∧ (path ≠ entry → script = other)

theorem SameScript.refl (entry path : Text) (script : Option Text) :
    SameScript entry path script script := ⟨rfl, fun _ => rfl⟩

namespace Record

/-- Two records that differ at most in the script, and only if they are records of the entry. -/
structure SameButScript (entry : Text) (record other : Record) : Prop where
  crumb_eq : record.crumb = other.crumb
  path_eq : record.path = other.path
  style_eq : record.style = other.style
  diagnostics_eq : record.diagnostics = other.diagnostics
  script : SameScript entry record.path record.script other.script

theorem SameButScript.refl (entry : Text) (record : Record) : record.SameButScript entry record :=
  ⟨rfl, rfl, rfl, rfl, .refl ..⟩

end Record

theorem TextMap.keys_insert {map other : TextMap} (h : map.map (·.1) = other.map (·.1))
    (key value value' : Text) :
    (map.insert key value).map (·.1) = (other.insert key value').map (·.1) := by
  induction map generalizing other with
  | nil =>
    obtain rfl : other = [] := by simpa using h.symm
    rfl
  | cons head map ih =>
    cases other with
    | nil => cases h
    | cons head' other =>
      obtain ⟨hhead, hrest⟩ := List.cons.inj h
      simp only at hhead
      simp only [insert, hhead]
      split
      · simpa using hrest
      · split
        · simpa [hhead] using hrest
        · simpa [hhead] using ih hrest

namespace Bundle

variable {entry : Text} {records others : List Record}

/-- Two bundles that differ in scripts alone, and not in which chains have one. -/
structure SameButScripts (bundle other : Bundle) : Prop where
  style_eq : bundle.style = other.style
  diagnostics_eq : bundle.diagnostics = other.diagnostics
  paths_eq : bundle.paths = other.paths
  keys_eq : bundle.scripts.map (·.1) = other.scripts.map (·.1)

theorem SameButScripts.refl (bundle : Bundle) : bundle.SameButScripts bundle := ⟨rfl, rfl, rfl, rfl⟩

theorem SameButScripts.add {bundle other : Bundle} {record record' : Record}
    (h : bundle.SameButScripts other) (hrecord : record.SameButScript entry record') :
    (bundle.add record).SameButScripts (other.add record') := by
  obtain ⟨hcrumb, hpath, hstyle, hdiagnostics, hsome, -⟩ := hrecord
  refine ⟨?style, ?diagnostics, ?paths, ?keys⟩
  case style => simp only [Bundle.add, h.style_eq, hstyle]
  case diagnostics => simp only [Bundle.add, h.diagnostics_eq, hdiagnostics]
  case paths => simp only [Bundle.add, place, h.paths_eq, hcrumb, hpath]
  case keys =>
    simp only [Bundle.add, place, hcrumb]
    cases hscript : record.script with
    | none =>
      have hnone : record'.script = none := by simpa [hscript] using hsome
      simpa [hnone] using h.keys_eq
    | some script =>
      obtain ⟨script', hscript'⟩ : ∃ script', record'.script = some script' :=
        Option.isSome_iff_exists.mp (by simpa [hscript] using hsome.symm)
      simpa [hscript'] using TextMap.keys_insert h.keys_eq record'.crumb script script'

/-- Records that differ at most in scripts of the entry make bundles that do. -/
theorem sameButScripts_ofRecords (h : List.Forall₂ (Record.SameButScript entry) records others) :
    (ofRecords records).SameButScripts (ofRecords others) := by
  have hfold (bundle other : Bundle) (hbundle : bundle.SameButScripts other) :
      (records.foldl add bundle).SameButScripts (others.foldl add other) := by
    induction h generalizing bundle other with
    | nil => exact hbundle
    | cons hrecord _ ih => exact ih _ _ (hbundle.add hrecord)
  exact hfold {} {} (.refl _)

/-- Where nothing is recorded for the entry, they have the same script. -/
theorem script?_ofRecords_eq (h : List.Forall₂ (Record.SameButScript entry) records others)
    {crumb : Breadcrumb} (hcrumb : ∀ record ∈ records, record.crumb = crumb → record.path ≠ entry) :
    (ofRecords records).script? crumb = (ofRecords others).script? crumb := by
  have hscripts : (records.filter (·.crumb = crumb)).filterMap (·.script) =
      (others.filter (·.crumb = crumb)).filterMap (·.script) := by
    induction h with
    | nil => rfl
    | @cons record other records others hrecord _ ih =>
      obtain ⟨hhere, hlater⟩ := List.forall_mem_cons.mp hcrumb
      by_cases heq : record.crumb = crumb
      · have hother : other.crumb = crumb := hrecord.crumb_eq ▸ heq
        have hscript : record.script = other.script := hrecord.script.2 (hhere heq)
        simp [heq, hother, hscript, ih hlater, List.filterMap_cons]
      · have hother : other.crumb ≠ crumb := hrecord.crumb_eq ▸ heq
        simp [heq, hother, ih hlater]
  rw [script?_ofRecords, script?_ofRecords, Record.lastScript?, Record.lastScript?, hscripts]

end Bundle

namespace Walk

variable {walk : Walk} {entry file : Path} {chain other : Chain}

/-- Two ways through the same files, in normal form, with the same scripts but for that of the
entry. -/
def SameWay (entry : Path) (chain other : Chain) : Prop :=
  List.Forall₂ (fun unit unit' => unit.1 = unit'.1 ∧ unit.1.IsNormal ∧
    SameScript entry.text unit.1.text unit.2 unit'.2) chain other

inductive SameLead (entry : Path) : Lead → Lead → Prop where
  | nowhere : SameLead entry .nowhere .nowhere
  | ancestor (path : Path) {script other : Option Text}
      (h : SameScript entry.text path.text script other) :
      SameLead entry (.ancestor path script) (.ancestor path other)
  | unit (path : Path) (source : Text) : SameLead entry (.unit path source) (.unit path source)

theorem SameWay.script? (h : SameWay entry chain other) {path : Path} (hpath : path.IsNormal) :
    Option.Rel (SameScript entry.text path.text) (chain.script? path) (other.script? path) := by
  induction h with
  | nil => exact .none
  | @cons unit unit' chain other hunit _ ih =>
    obtain ⟨hfile, hnormal, hscript⟩ := hunit
    by_cases heq : unit.1.components = path.components
    · have hsame : unit.1 = path := hnormal.eq_of_components hpath heq
      rw [hsame] at hscript
      have hsome : Option.Rel (SameScript entry.text path.text) (some unit.2) (some unit'.2) :=
        .some hscript
      simpa [Chain.script?, heq, ← hfile] using hsome
    · simpa [Chain.script?, heq, ← hfile] using ih

theorem SameWay.lead (h : SameWay entry chain other) (walk : Walk) (file : Path)
    (specifier : Text) :
    SameLead entry (walk.lead chain file specifier) (walk.lead other file specifier) := by
  unfold Walk.lead
  cases hresolve : walk.resolver.resolve? walk.workspace.files specifier file with
  | none => exact .nowhere
  | some resolved =>
    have hscript := h.script? (Resolver.isNormal_of_resolve? hresolve)
    simp only
    generalize chain.script? resolved.path = script at hscript ⊢
    generalize other.script? resolved.path = script' at hscript ⊢
    cases hscript with
    | some hscript => exact .ancestor _ hscript
    | none =>
      cases walk.workspace.load? resolved.path with
      | none => exact .nowhere
      | some source => exact .unit _ source

/-- Two trees of imports in which the same is missing, and whose records differ at most in scripts of
the entry. -/
structure SameTree (entry : Path) (tree other : ImportTree) : Prop where
  missing?_eq : tree.missing? = other.missing?
  records : ∀ crumb, List.Forall₂ (Record.SameButScript entry.text) (tree.records crumb)
    (other.records crumb)

/-- The imports of a script have such trees on ways that differ in the script of the entry. -/
theorem SameWay.importTree (h : SameWay entry chain other) (specifiers : List Text) :
    SameTree entry (walk.importTree chain file specifiers)
      (walk.importTree other file specifiers) := by
  fun_induction walk.importTree chain file specifiers generalizing other with
  | case1 =>
    rw [Walk.importTree]
    exact ⟨rfl, fun _ => .nil⟩
  | case2 chain file specifier specifiers later hlead =>
    rename_i ih
    have hother : SameLead entry .nowhere (walk.lead other file specifier) :=
      hlead ▸ h.lead walk file specifier
    rw [importTree_cons]
    generalize walk.lead other file specifier = lead at hother ⊢
    cases hother
    exact ⟨rfl, (ih h).records⟩
  | case3 chain file specifier specifiers later path script hlead =>
    rename_i ih
    have hother : SameLead entry (.ancestor path script) (walk.lead other file specifier) :=
      hlead ▸ h.lead walk file specifier
    rw [importTree_cons]
    generalize walk.lead other file specifier = lead at hother ⊢
    cases hother with
    | ancestor _ hscript =>
      obtain ⟨hmissing, hrecords⟩ := ih h
      exact ⟨hmissing, fun crumb => .cons ⟨rfl, rfl, rfl, rfl, hscript⟩ (hrecords crumb)⟩
  | case4 chain file specifier specifiers later path source hlead unit ihLater =>
    rename_i ihImports
    have hother : SameLead entry (.unit path source) (walk.lead other file specifier) :=
      hlead ▸ h.lead walk file specifier
    rw [importTree_cons]
    generalize walk.lead other file specifier = lead at hother ⊢
    cases hother
    have hnormal : path.IsNormal := by
      obtain ⟨resolved, hresolve, rfl, -⟩ := exists_of_lead_eq_unit hlead
      exact Resolver.isNormal_of_resolve? hresolve
    have hway : SameWay entry ((path, unit.script) :: chain) ((path, unit.script) :: other) :=
      .cons ⟨rfl, hnormal, .refl ..⟩ h
    have himports := ihImports hway
    have hlater := ihLater h
    refine ⟨?missing, fun crumb => ?records⟩
    case missing =>
      have hor : Option.or _ _ = Option.or _ _ :=
        congr (congrArg Option.or himports.missing?_eq) hlater.missing?_eq
      exact hor
    case records =>
      exact List.rel_append (.cons (.refl ..) (himports.records _)) (hlater.records crumb)

end Walk

/-- The options change nothing but the script of a compiled component, and if they strip no imports, not
what the script names. -/
theorem UnitCompiler.compileComponent_eq (compiler : UnitCompiler) (files : Style.Files)
    (source : Text) (path : Path) {options other : CompileOptions}
    (hstrip : options.stripImports = false) (hstrip' : other.stripImports = false) :
    ∃ script script', compiler.compileComponent files source path options =
        { compiler.compileComponent files source path other with script := some script } ∧
      (compiler.compileComponent files source path other).script = some script' ∧
      Import.specifiers script = Import.specifiers script' := by
  have hfinish {options : CompileOptions} (h : options.stripImports = false) (script : Text) :
      Import.specifiers (finish options script) = Import.specifiers script := by
    simp only [finish, h]
    split
    · exact Import.specifiers_mount _ _
    · rfl
  unfold compileComponent
  split
  · exact ⟨[], [], rfl, rfl, rfl⟩
  · exact ⟨[], [], rfl, rfl, rfl⟩
  · split
    · exact ⟨[], [], rfl, rfl, rfl⟩
    · exact ⟨_, _, rfl, rfl, (hfinish hstrip _).trans (hfinish hstrip' _).symm⟩

namespace Bundler

variable {bundler : Bundler} {workspace : Workspace} {source : Text} {path : Path}
  {options other : GenerateOptions}

/-- So the entry names the same with all options: its own imports are stripped after the walk. -/
theorem compiledEntry_eq : ∃ script script',
    bundler.compiledEntry workspace source path options =
        { bundler.compiledEntry workspace source path other with script := some script } ∧
      (bundler.compiledEntry workspace source path other).script = some script' ∧
      Import.specifiers script = Import.specifiers script' :=
  bundler.compiler.compileComponent_eq _ source _ rfl rfl

theorem sameScript_recordedEntry (entry : Path) :
    SameScript entry.text entry.text (bundler.recordedEntry workspace source path options).script
      (bundler.recordedEntry workspace source path other).script := by
  obtain ⟨script, hscript⟩ := exists_script_recordedEntry bundler workspace source path options
  obtain ⟨script', hscript'⟩ := exists_script_recordedEntry bundler workspace source path other
  exact ⟨by rw [hscript, hscript']; rfl, fun hne => absurd rfl hne⟩

/-- Of one entry the same is missing, and what is recorded below it differs at most in scripts of the
entry. -/
theorem sameTree_importTree (h : options.moduleDirectory = other.moduleDirectory) :
    Walk.SameTree (path.absolute workspace.files.workingDirectory)
      (bundler.importTree workspace source path options)
      (bundler.importTree workspace source path other) := by
  obtain ⟨script, script', hentry, hscript', hspecifiers⟩ :=
    @compiledEntry_eq bundler workspace source path options other
  have hwalk : bundler.walk workspace (path.absolute workspace.files.workingDirectory) options =
      bundler.walk workspace (path.absolute workspace.files.workingDirectory) other := by
    rw [walk, walk, h]
  have hway : Walk.SameWay (path.absolute workspace.files.workingDirectory)
      [(path.absolute workspace.files.workingDirectory,
        (bundler.recordedEntry workspace source path options).script)]
      [(path.absolute workspace.files.workingDirectory,
        (bundler.recordedEntry workspace source path other).script)] :=
    .cons ⟨rfl, Path.isNormal_absolute _ _, sameScript_recordedEntry _⟩ .nil
  have himports : Import.specifiers
      ((bundler.compiledEntry workspace source path options).script.getD []) =
        Import.specifiers
          ((bundler.compiledEntry workspace source path other).script.getD []) := by
    rw [hentry, hscript']
    exact hspecifiers
  simp only [importTree, hwalk, himports]
  exact hway.importTree _

/-- All that is recorded of one entry differs at most in scripts of the entry. -/
theorem sameButScript_records (h : options.moduleDirectory = other.moduleDirectory) :
    List.Forall₂ (Record.SameButScript (path.absolute workspace.files.workingDirectory).text)
      (bundler.records workspace source path options)
      (bundler.records workspace source path other) := by
  obtain ⟨script, script', hentry, -, -⟩ :=
    @compiledEntry_eq bundler workspace source path options other
  have hpath := path_recordedEntry bundler workspace source path options
  have hpath' := path_recordedEntry bundler workspace source path other
  have hrest (options : GenerateOptions) :
      (bundler.recordedEntry workspace source path options).style =
          (bundler.compiledEntry workspace source path options).style ∧
        (bundler.recordedEntry workspace source path options).diagnostics =
          (bundler.compiledEntry workspace source path options).diagnostics := by
    rw [recordedEntry, recorded]
    split <;> exact ⟨rfl, rfl⟩
  have hrecord : ((bundler.recordedEntry workspace source path options).toRecord .entry).SameButScript
      (path.absolute workspace.files.workingDirectory).text
      ((bundler.recordedEntry workspace source path other).toRecord .entry) := by
    refine ⟨rfl, congrArg Path.text (hpath.trans hpath'.symm), ?style, ?diagnostics, ?script⟩
    case style => exact (hrest options).1.trans (hentry ▸ (hrest other).1.symm)
    case diagnostics => exact (hrest options).2.trans (hentry ▸ (hrest other).2.symm)
    case script =>
      simpa only [CompiledUnit.toRecord, hpath] using sameScript_recordedEntry _
  refine .cons hrecord (List.rel_append ?_ ((sameTree_importTree h).records _))
  exact List.forall₂_same.mpr fun record _ => .refl ..

/-- The options of the entry do not touch what is beside its scripts, and not the scripts under chains
that no record of the entry has: two bundles of one entry, made with the same directory of packages,
have the same style, diagnostics and paths, scripts under the same chains, and the same script under
each chain that does not lead to the entry. For mounting leaves the imports of a script as they
are. -/
theorem options_touch_entry (bundler : Bundler) (workspace : Workspace) (source : Text) (path : Path)
    (options other : GenerateOptions) (h : options.moduleDirectory = other.moduleDirectory) :
    let bundle := bundler.generate workspace source path options
    let bundle' := bundler.generate workspace source path other
    (∀ target script, Import.specifiers (Import.mount target script) = Import.specifiers script) ∧
      bundle.style = bundle'.style ∧ bundle.diagnostics = bundle'.diagnostics ∧
      bundle.paths = bundle'.paths ∧
      bundle.scripts.map (·.1) = bundle'.scripts.map (·.1) ∧
      ∀ crumb, (∀ record ∈ bundler.records workspace source path options, record.crumb = crumb →
          record.path ≠ (path.absolute workspace.files.workingDirectory).text) →
        bundle.script? crumb = bundle'.script? crumb := by
  intro bundle bundle'
  refine ⟨Import.specifiers_mount, ?_⟩
  obtain ⟨script, script', hentry, -, -⟩ :=
    @compiledEntry_eq bundler workspace source path options other
  have hdiagnostics : (bundler.compiledEntry workspace source path options).diagnostics =
      (bundler.compiledEntry workspace source path other).diagnostics := by
    rw [hentry]
  have herrors : (bundler.compiledEntry workspace source path options).hasErrors =
      (bundler.compiledEntry workspace source path other).hasErrors :=
    congrArg ComponentBundle.hasErrors hdiagnostics
  have hmissing := (@sameTree_importTree bundler workspace source path options other h).missing?_eq
  have hrecords := @sameButScript_records bundler workspace source path options other h
  cases hfailed : (bundler.compiledEntry workspace source path options).hasErrors with
  | true =>
    have hequal : bundle = bundle' :=
      (generate_of_hasErrors hfailed).trans
        (hdiagnostics ▸ (generate_of_hasErrors (herrors ▸ hfailed)).symm)
    simp [hequal]
  | false =>
    cases htree : (bundler.importTree workspace source path options).missing? with
    | some specifier =>
      have hequal : bundle = bundle' :=
        (generate_of_missing hfailed htree).trans
          (generate_of_missing (herrors ▸ hfailed) (hmissing ▸ htree)).symm
      simp [hequal]
    | none =>
      have hbundle : bundle = .ofRecords (bundler.records workspace source path options) :=
        generate_of_complete hfailed htree
      have hbundle' : bundle' = .ofRecords (bundler.records workspace source path other) :=
        generate_of_complete (herrors ▸ hfailed) (hmissing ▸ htree)
      obtain ⟨hstyle, hdiagnostics, hpaths, hkeys⟩ := Bundle.sameButScripts_ofRecords hrecords
      rw [hbundle, hbundle']
      exact ⟨hstyle, hdiagnostics, hpaths, hkeys,
        fun crumb hcrumb => Bundle.script?_ofRecords_eq hrecords hcrumb⟩

def mountedFiles : Workspace where
  files :=
    { workingDirectory := .ofString "/"
      entries := [(["a.js".toList], .file (some "import './e.svelte'".toList))] }
  buffers := []

def mountedEntry : Text := "import './a.js'\nexport default Component;".toList

private theorem importTree_mounted : ∃ script,
    verbatim.importTree mountedFiles mountedEntry (.ofString "/e.svelte") {} =
      .unit "./a.js".toList
        (.plain (.ofString "/a.js") .javaScript (some "import './e.svelte'".toList))
        (.ancestor "./e.svelte".toList (.ofString "/e.svelte") script .done) .done := by
  let walk := verbatim.walkOf mountedFiles (.ofString "/e.svelte") {}
  let first := verbatim.firstCall mountedFiles mountedEntry (.ofString "/e.svelte") {}
  let script := walk.callFor first.chain (.ofString "/a.js") "import './e.svelte'".toList
  have hfirst : walk.imports first = ["./a.js".toList] := by decide +kernel
  have hscript : walk.imports script = ["./e.svelte".toList] := by decide +kernel
  have hunit : walk.lead first.chain first.file "./a.js".toList =
      .unit (.ofString "/a.js") "import './e.svelte'".toList := by decide +kernel
  have hancestor : walk.lead script.chain script.file "./e.svelte".toList =
      .ancestor (.ofString "/e.svelte") (some mountedEntry) := by decide +kernel
  have hdone (chain : Chain) (file : Path) : walk.importTree chain file [] = .done := by
    rw [Walk.importTree]
  refine ⟨some mountedEntry, ?_⟩
  calc walk.importTree first.chain first.file (walk.imports first)
    _ = .unit "./a.js".toList (walk.compile "import './e.svelte'".toList (.ofString "/a.js"))
        (walk.treeOf script) .done := by
      rw [hfirst, Walk.importTree_cons, hunit, hdone]
    _ = _ := by
      rw [Walk.treeOf, hscript, Walk.importTree_cons, hancestor, hdone]
      rfl

theorem options_touch_entry_mounted :
    let other : GenerateOptions :=
      { stripImports := true, autoMount := true, mountTarget := "#app".toList }
    let bundle := verbatim.generate mountedFiles mountedEntry (.ofString "/e.svelte") {}
    let bundle' := verbatim.generate mountedFiles mountedEntry (.ofString "/e.svelte") other
    bundle.paths = bundle'.paths ∧ bundle.script? ">./a.js".toList = bundle'.script? ">./a.js".toList ∧
      bundle.script? ">./a.js".toList = some "import './e.svelte'".toList ∧
      bundle.script? .entry ≠ bundle'.script? .entry := by
  intro other bundle bundle'
  obtain ⟨-, -, -, hpaths, -, hscripts⟩ := options_touch_entry verbatim mountedFiles mountedEntry
    (.ofString "/e.svelte") {} other rfl
  refine ⟨hpaths, hscripts ">./a.js".toList ?_, by decide +kernel, by decide +kernel⟩
  obtain ⟨script, htree⟩ := importTree_mounted
  intro record hrecord hcrumb
  rcases List.mem_cons.mp hrecord with rfl | hrecord
  · exact absurd hcrumb (by decide +kernel)
  rcases List.mem_append.mp hrecord with hruntime | hrecord
  · rw [(of_mem_runtimeRecord? hruntime).2] at hcrumb
    exact absurd hcrumb (by decide +kernel)
  rw [htree] at hrecord
  rcases List.mem_cons.mp hrecord with rfl | hbelow
  · decide +kernel
  · obtain rfl := List.mem_singleton.mp hbelow
    have hne : (Breadcrumb.entry.child "./a.js".toList).child "./e.svelte".toList ≠
        ">./a.js".toList := by decide +kernel
    exact absurd hcrumb hne

/-- The file beside the entry is no script, and the chain to it is spelled like a specifier of the
entry itself. -/
def spelledFiles : Workspace where
  files :=
    { workingDirectory := .ofString "/"
      entries :=
        [(["src".toList], .directory),
          (["src".toList, "a.js".toList], .file (some "import './../e.txt'".toList)),
          (["e.txt".toList], .file (some "text".toList))] }
  buffers := []

/-- The script of the entry can be left under the chain of a file without a script, and there it shows
the options. -/
theorem options_touch_other_file :
    let source := "import './a.js>./../e.txt'\nimport './a.js'\nlet a".toList
    let chain := ">./a.js>./../e.txt".toList
    let bundle := verbatim.generate spelledFiles source (.ofString "/src/e.txt") {}
    let stripped := verbatim.generate spelledFiles source (.ofString "/src/e.txt")
      { stripImports := true }
    bundle.paths.get? chain = some "/e.txt".toList ∧
      stripped.paths.get? chain = some "/e.txt".toList ∧
      bundle.script? chain = some source ∧ stripped.script? chain = some "let a".toList := by
  decide +kernel

end Bundler

end ComponentBundle
