import ComponentBundle.Proofs.Resolver.Resolved

/-!
# How resolved paths are spelled

Suffixes are put right behind the text of a path, manifests and templates hold whatever their authors
wrote, and specifiers may end in slashes and dots. The path that comes out is its own normal form all the
same, whichever branch of the resolution it comes from. So a path is always given in one spelling, and
what is looked up under it does not depend on the specifier that led there.
-/
namespace ComponentBundle.Resolver

open ComponentBundle.Path

variable {tree : FileTree} {resolver : Resolver} {specifier : Text} {importer : Path}
  {resolved : Resolved}

/-- Every path that a specifier means is its own normal form, whatever the importer, the directory of
packages, the aliases and the files are. It is spelled as a root or none, at most one step above it, and
names, with single slashes in between. And it is the normal form of all paths with its components. -/
theorem resolved_path_is_normal
    (h : resolver.resolve? tree specifier importer = some resolved) :
    resolved.path.normal = resolved.path ∧ IsTidy resolved.path.text ∧
      ∀ p : Path, p.components = resolved.path.components → p.normal = resolved.path := by
  have hnormal : resolved.path.IsNormal := isNormal_of_resolve? h
  refine ⟨hnormal.normal_eq, hnormal.isTidy, fun p hp => ?_⟩
  rw [normal, hp]
  exact hnormal.normal_eq

/-- A directory with a manifest, a package without one, and a script beside them. -/
def windingFiles : FileTree where
  workingDirectory := .ofString "/w"
  entries := [(["w".toList], .directory), (["w".toList, "ui".toList], .directory),
    (["w".toList, "ui".toList, "package.json".toList],
      .file (some "\x7b\"main\": \"./lib//../ui.js/.\"\x7d".toList)),
    (["w".toList, "m".toList], .directory), (["w".toList, "m".toList, "chart".toList], .directory),
    (["w".toList, "m".toList, "chart".toList, "index.js".toList], .file (some [])),
    (["w".toList, "src".toList], .directory),
    (["w".toList, "src".toList, "a.ts".toList], .file (some []))]

def windingResolver : Resolver :=
  .make windingFiles (some (.ofString "x/../m/."))
    (some ⟨.ofString "tsconfig.json", .ofString "./src/.", [⟨"$*".toList, [".//*".toList]⟩]⟩)

theorem resolved_path_is_normal_winding :
    let importer := Path.ofString "/w/e.svelte"
    let declared := Path.ofString "/w/ui/ui.js"
    let aliased := Path.ofString "src/a.ts"
    let package := Path.ofString "/w/m/chart/index.js"
    (windingResolver.resolve? windingFiles "./ui/x/..".toList importer = some ⟨declared, false⟩ ∧
        declared.normal = declared) ∧
      (windingResolver.resolve? windingFiles "$a/./".toList importer = some ⟨aliased, false⟩ ∧
        aliased.normal = aliased) ∧
      windingResolver.resolve? windingFiles "chart//.".toList importer = some ⟨package, true⟩ ∧
        package.normal = package := by
  intro importer declared aliased package
  have hdeclared : windingResolver.resolve? windingFiles "./ui/x/..".toList importer =
      some ⟨declared, false⟩ := by decide +kernel
  have haliased : windingResolver.resolve? windingFiles "$a/./".toList importer =
      some ⟨aliased, false⟩ := by decide +kernel
  have hpackage : windingResolver.resolve? windingFiles "chart//.".toList importer =
      some ⟨package, true⟩ := by decide +kernel
  exact ⟨⟨hdeclared, (resolved_path_is_normal hdeclared).1⟩,
    ⟨haliased, (resolved_path_is_normal haliased).1⟩,
    hpackage, (resolved_path_is_normal hpackage).1⟩

end ComponentBundle.Resolver
