import ComponentBundle.Proofs.Bundle.Omission
import ComponentBundle.Proofs.Walk.Environment
import ComponentBundle.Proofs.Walk.Key

/-!
# The runtime script

A script that is given with the bundler answers one specifier. Imports of that specifier are passed
over: the walk is the same as if they were not there, whatever they would mean. The script has a chain
of its own, which no other record can get, because the specifier holds no separator. So it is in the
bundle as it was given, and the bundle would be the same without it if nothing asked for it.
-/
namespace ComponentBundle

namespace Walk

variable {walk other : Walk} {visit : Visit} {file : Path} {crumb : Breadcrumb}

theorem asked_eq_filter (h : walk.hasRuntime = true) (specifiers : List Text) :
    walk.asked specifiers = specifiers.filter (· ≠ runtimeSpecifier) := by
  simp [asked, h]

/-- The imports of the runtime script might as well not be there. -/
theorem visitAll_asked (specifiers : List Text) (state : State) :
    walk.visitAll visit file crumb (walk.asked specifiers) state =
      walk.visitAll visit file crumb specifiers state := by
  induction specifiers generalizing state with
  | nil => rfl
  | cons specifier specifiers ih =>
    by_cases hskip : walk.hasRuntime ∧ specifier = runtimeSpecifier
    · have hasked : walk.asked (specifier :: specifiers) = walk.asked specifiers := by
        simp [asked, hskip]
      rw [hasked, ih, visitAll, if_pos hskip]
    · have hasked : walk.asked (specifier :: specifiers) = specifier :: walk.asked specifiers :=
        List.filter_cons_of_pos (decide_eq_true hskip)
      simp only [hasked, visitAll, if_neg hskip, ih]

/-- What the specifier of the runtime script would lead to has no part in the walk. -/
theorem visit_eq_of_lead (h : walk.hasRuntime = true) (hother : other.hasRuntime = true)
    (hcompile : ∀ source path, other.compile source path = walk.compile source path)
    (hlead : ∀ chain file specifier, specifier ≠ runtimeSpecifier →
      other.lead chain file specifier = walk.lead chain file specifier) :
    other.visit = walk.visit := by
  have hagree (call : Call) : other.AgreeAt walk call := by
    refine ⟨?imports, fun specifier hspecifier => hlead _ _ _ ?lead, fun _ _ _ _ _ => hcompile _ _⟩
    case imports => rw [imports, imports, asked_eq_filter h, asked_eq_filter hother]
    case lead =>
      rw [imports, asked_eq_filter h] at hspecifier
      exact of_decide_eq_true (List.mem_filter.mp hspecifier).2
  have htree (chain : Chain) (file : Path) (script : Text) :
      other.importTree chain file (other.asked (Import.specifiers script)) =
        walk.importTree chain file (walk.asked (Import.specifiers script)) :=
    treeOf_eq ⟨script, file, chain⟩ fun reached _ => hagree reached
  rw [visit_eq_outcome, visit_eq_outcome]
  funext script file crumb state
  simp only [outcome, htree]

end Walk

namespace Bundler

variable {bundler : Bundler} {workspace : Workspace} {source runtime : Text} {path : Path}
  {options : GenerateOptions}

def plain (bundler : Bundler) : Bundler := { bundler with runtime := none }

theorem missing?_ne_runtimeSpecifier (h : bundler.runtime = some runtime) :
    (bundler.importTree workspace source path options).missing? ≠ some runtimeSpecifier := by
  intro hmissing
  rw [importTree_eq_treeOf] at hmissing
  obtain ⟨call, -, hspecifier, -⟩ := Walk.exists_of_missing?_treeOf hmissing
  have hruntime : (bundler.walkOf workspace path options).hasRuntime = true := by
    simp [walkOf, walk, h]
  rw [Walk.imports, Walk.asked_eq_filter hruntime] at hspecifier
  exact of_decide_eq_true (List.mem_filter.mp hspecifier).2 rfl

/-- If nothing asks for the runtime script, the walk goes through the same tree without it. -/
theorem importTree_plain (h : ∀ call, (bundler.walkOf workspace path options).Reaches
      (bundler.firstCall workspace source path options) call →
        runtimeSpecifier ∉ Import.specifiers call.script) :
    bundler.plain.importTree workspace source path options =
      bundler.importTree workspace source path options := by
  rw [importTree_eq_treeOf, importTree_eq_treeOf]
  refine Walk.treeOf_eq _ fun call hcall => ⟨?_, fun _ _ => rfl, fun _ _ _ _ _ => rfl⟩
  have hkept (walk : Walk) : walk.imports call = Import.specifiers call.script := by
    refine List.filter_eq_self.mpr fun specifier hspecifier => ?_
    have hne : specifier ≠ runtimeSpecifier := fun heq => h call hcall (heq ▸ hspecifier)
    simp [hne]
  rw [hkept, hkept]

/-- Only the runtime script is recorded under its chain, so leaving it out leaves the records of the
bundler without it. -/
theorem filter_records (h : bundler.runtime = some runtime)
    (htree : bundler.plain.importTree workspace source path options =
      bundler.importTree workspace source path options) :
    (bundler.records workspace source path options).filter
        (·.crumb ≠ Breadcrumb.entry.child runtimeSpecifier) =
      bundler.plain.records workspace source path options := by
  have hentry : ((bundler.recordedEntry workspace source path options).toRecord .entry).crumb ≠
      Breadcrumb.entry.child runtimeSpecifier := by
    simp [CompiledUnit.toRecord, Breadcrumb.child, Breadcrumb.entry]
  have hbelow : ∀ record ∈ (bundler.importTree workspace source path options).records .entry,
      record.crumb ≠ Breadcrumb.entry.child runtimeSpecifier :=
    fun record hrecord => (crumb_ne_of_mem_importTree hrecord).2 (by simp [h])
  have hruntime : bundler.runtimeRecord?.toList.filter
      (·.crumb ≠ Breadcrumb.entry.child runtimeSpecifier) = [] := by
    simp [runtimeRecord?, h]
  have hnone : bundler.plain.runtimeRecord?.toList = [] := rfl
  rw [records, records, htree, hnone, List.filter_cons_of_pos (by simpa using hentry),
    List.filter_append, hruntime, List.filter_eq_self.mpr (by simpa using hbelow)]
  rfl

/-- The bundle without the chain of the runtime script is that of the bundler without the script. -/
theorem without_generate (h : bundler.runtime = some runtime)
    (htree : bundler.plain.importTree workspace source path options =
      bundler.importTree workspace source path options) :
    (bundler.generate workspace source path options).without
        (Breadcrumb.entry.child runtimeSpecifier) =
      bundler.plain.generate workspace source path options := by
  have hplain : bundler.plain.compiledEntry workspace source path options =
      bundler.compiledEntry workspace source path options := rfl
  cases hentry : (bundler.compiledEntry workspace source path options).hasErrors with
  | true =>
    rw [generate_of_hasErrors hentry, generate_of_hasErrors (hplain ▸ hentry), hplain]
    rfl
  | false =>
    cases hmissing : (bundler.importTree workspace source path options).missing? with
    | some specifier =>
      rw [generate_of_missing hentry hmissing,
        generate_of_missing (hplain ▸ hentry) (htree ▸ hmissing)]
      rfl
    | none =>
      obtain ⟨record, hrecord⟩ : ∃ record, bundler.runtimeRecord? = some record := by
        simp [runtimeRecord?, h]
      have hbare : record.style = [] ∧ record.diagnostics = [] := by
        rw [runtimeRecord?, h, Option.map_some, Option.some.injEq] at hrecord
        simp [← hrecord]
      rw [generate_of_complete hentry hmissing,
        generate_of_complete (hplain ▸ hentry) (htree ▸ hmissing), Bundle.without_ofRecords,
        filter_records h htree]
      intro other hother hcrumb
      rwa [eq_runtimeRecord hrecord hother hcrumb]

/-- The runtime script is untouchable. In a bundle that is whole it stands under its chain as it was
given, and no other record has that chain. A walk passes over the imports of it as if they were not
there: it does not matter what they would mean, and none of them is reported as missing. If no unit
that is visited imports it, the rest of the bundle is what the bundler makes without it. -/
theorem runtime_is_untouchable (h : bundler.runtime = some runtime) :
    let walk := bundler.walkOf workspace path options
    let first := bundler.firstCall workspace source path options
    let tree := bundler.importTree workspace source path options
    let bundle := bundler.generate workspace source path options
    let crumb := Breadcrumb.entry.child runtimeSpecifier
    ((bundler.compiledEntry workspace source path options).hasErrors = false →
        tree.missing? = none →
          bundle.script? crumb = some runtime ∧
            bundle.paths.get? crumb = some runtimeSpecifier) ∧
      (∀ record ∈ bundler.records workspace source path options, record.crumb = crumb →
        record = { crumb, path := runtimeSpecifier, script := some runtime }) ∧
      (∀ visit file crumb specifiers state,
        walk.visitAll visit file crumb specifiers state =
          walk.visitAll visit file crumb (specifiers.filter (· ≠ runtimeSpecifier)) state) ∧
      (∀ other : Walk, other.hasRuntime = true →
        (∀ source path, other.compile source path = walk.compile source path) →
        (∀ chain file specifier, specifier ≠ runtimeSpecifier →
          other.lead chain file specifier = walk.lead chain file specifier) →
        other.visit = walk.visit) ∧
      tree.missing? ≠ some runtimeSpecifier ∧
      ((∀ call, walk.Reaches first call → runtimeSpecifier ∉ Import.specifiers call.script) →
        bundle.without crumb = bundler.plain.generate workspace source path options) := by
  intro walk first tree bundle crumb
  have hwalk : walk.hasRuntime = true := by simp [walk, walkOf, Bundler.walk, h]
  have hrecord : bundler.runtimeRecord? =
      some { crumb, path := runtimeSpecifier, script := some runtime } := by
    simp [runtimeRecord?, h, crumb]
  have hunique := fun record (hmem : record ∈ bundler.records workspace source path options) =>
    eq_runtimeRecord hrecord hmem
  refine ⟨fun hentry hmissing => ?whole, hunique, fun visit file crumb specifiers state => ?passed,
    fun other hother hcompile hlead => Walk.visit_eq_of_lead hwalk hother hcompile hlead,
    missing?_ne_runtimeSpecifier h, fun hunasked => without_generate h (importTree_plain hunasked)⟩
  case whole =>
    have hmem : { crumb, path := runtimeSpecifier, script := some runtime } ∈
        bundler.records workspace source path options := mem_records_of_runtimeRecord? hrecord
    have hbundle : bundle = _ := generate_of_complete hentry hmissing
    rw [hbundle, Bundle.script?_ofRecords, Bundle.paths_ofRecords]
    exact ⟨Record.lastScript?_eq_some hmem hunique rfl, Record.lastPath?_eq_some hmem hunique⟩
  case passed => rw [← Walk.asked_eq_filter hwalk, Walk.visitAll_asked]

def runtimeAlias : Alias.Table where
  configPath := .ofString "/tsconfig.json"
  baseDirectory := .ofString "/"
  entries := [⟨runtimeSpecifier, ["runtime.js".toList]⟩]

theorem resolve?_runtimeAlias (tree : FileTree) {specifier : Text}
    (h : specifier ≠ runtimeSpecifier) : runtimeAlias.resolve? tree specifier = none := by
  have hglob : Alias.Glob.ofPattern runtimeSpecifier = ⟨runtimeSpecifier, []⟩ := by decide
  have hcaptures : (Alias.Glob.ofPattern runtimeSpecifier).captures? specifier = none := by
    rw [hglob, Alias.Glob.captures?, Option.bind_eq_none_iff]
    intro rest hrest
    have hspecifier : specifier = runtimeSpecifier ++ rest := Text.dropPrefix?_eq_some_iff.mp hrest
    have hne : rest ≠ [] := by
      rintro rfl
      exact h (by simpa using hspecifier)
    rw [Alias.Glob.capturesOf, if_neg hne]
  simp [runtimeAlias, Alias.Table.resolve?, Alias.Entry.resolve?, hcaptures]

theorem runtime_is_untouchable_diamond :
    let walk := verbatim.walkOf diamondFiles (.ofString "/e.svelte") {}
    let aliased : Walk :=
      { walk with resolver := { walk.resolver with aliases := some runtimeAlias } }
    let bundle := verbatim.generate diamondFiles diamondEntry (.ofString "/e.svelte") {}
    let crumb := Breadcrumb.entry.child runtimeSpecifier
    verbatim.runtime = some "runtime".toList ∧
      bundle.script? crumb = some "runtime".toList ∧
      bundle.paths.get? crumb = some runtimeSpecifier ∧
      aliased.visit = walk.visit ∧
      bundle.without crumb =
        verbatim.plain.generate diamondFiles diamondEntry (.ofString "/e.svelte") {} := by
  intro walk aliased bundle crumb
  obtain ⟨hwhole, -, -, hlead, -, hplain⟩ := @runtime_is_untouchable verbatim diamondFiles
    diamondEntry "runtime".toList (.ofString "/e.svelte") {} rfl
  obtain ⟨hscript, hpath⟩ := hwhole hasErrors_diamond missing?_diamond
  refine ⟨rfl, hscript, hpath, hlead aliased rfl (fun _ _ => rfl) ?lead, hplain ?unasked⟩
  case lead =>
    intro chain file specifier hne
    have hnone : walk.resolver.aliases = none := by decide +kernel
    have hresolve : aliased.resolver.resolve? aliased.workspace.files specifier file =
        walk.resolver.resolve? walk.workspace.files specifier file := by
      simp [Resolver.resolve?, aliased, hnone, resolve?_runtimeAlias _ hne]
    rw [Walk.lead, Walk.lead, hresolve]
  case unasked =>
    have hcalls : ∀ call ∈ diamondCalls, runtimeSpecifier ∉ Import.specifiers call.script := by
      decide +kernel
    exact fun call hcall => hcalls call (mem_diamondCalls hcall)

end Bundler

end ComponentBundle
