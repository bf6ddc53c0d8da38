import ComponentBundle.Alias.Table
import ComponentBundle.Manifest

/-!
# Resolution

What file a specifier means to the file that imports it: a relative one is looked for beside the
importer, any other one through the path aliases, then in the directory of packages. Only the
existence of files and the contents of manifests are looked at.
-/
namespace ComponentBundle

/-- The file that a specifier means. -/
structure Resolved where
  path : Path
  /-- Whether it was found in the directory of packages. -/
  isPackage : Bool
  deriving DecidableEq

structure Resolver where
  moduleDirectory : Option Path
  aliases : Option Alias.Table

namespace Resolver

/-- A resolver with the directory of packages seen from the working directory. -/
def make (tree : FileTree) (moduleDirectory : Option Path) (aliases : Option Alias.Table) :
    Resolver :=
  ⟨moduleDirectory.map (·.absolute tree.workingDirectory), aliases⟩

def relativeSuffixes : List Text := [".js".toList, ".mjs".toList, ".ts".toList]

/-- The suffixes tried first behind the path of a package. -/
def packageSuffixes : List Text := [".js".toList, ".ts".toList]

/-- Whether a path is taken as it is: it has an extension and is not a directory. -/
def isComplete (tree : FileTree) (target : Path) : Bool :=
  target.hasExtension && !tree.isDirectory target

/-- The normal form of the entry that the manifest of a directory declares. -/
def manifestPath? (tree : FileTree) (directory : Path) : Option Path :=
  ((Manifest.read? tree directory).bind (·.entryPath? directory)).map Path.normal

def relative? (tree : FileTree) (specifier : Text) (importer : Path) : Option Path :=
  let directory := importer.parent?.getD (Path.ofString ".")
  let target := (directory.child specifier).absolute tree.workingDirectory
  if isComplete tree target then some target
  else (tree.probe? target relativeSuffixes).or (manifestPath? tree target)

def package? (tree : FileTree) (moduleDirectory : Path) (specifier : Text) : Option Path :=
  let target := (moduleDirectory.child specifier).normal
  if isComplete tree target then some target
  else
    (tree.probe? target packageSuffixes).or <|
    (manifestPath? tree target).or <|
    (tree.probe? target [".mjs".toList]).or <|
    tree.probe? (target.child "index".toList) packageSuffixes

def resolve? (resolver : Resolver) (tree : FileTree) (specifier : Text) (importer : Path) :
    Option Resolved :=
  if specifier.head? = some '.' then (relative? tree specifier importer).map (⟨·, false⟩)
  else
    match resolver.aliases.bind (·.resolve? tree specifier) with
    | some path => some ⟨path, false⟩
    | none =>
      (resolver.moduleDirectory.bind fun directory => package? tree directory specifier).map
        (⟨·, true⟩)

end Resolver

end ComponentBundle
