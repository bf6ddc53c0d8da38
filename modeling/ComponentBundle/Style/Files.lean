import ComponentBundle.Workspace

/-!
# Files of styles

What a style may see of the files: those whose extension is one of a style, and directories.
-/
namespace ComponentBundle.Style

/-- What styles see of their surroundings: the files that they import. What they draw by chance is
told by numbers, one for each call. -/
structure Files where
  isFile : Path → Bool
  isDirectory : Path → Bool
  read? : Path → Option Text
  draw : Nat → Nat := id

namespace Files

def extensions : List Text := ["scss".toList, "sass".toList, "css".toList]

/-- Whether a style may import the file of a path. -/
def isStyle (p : Path) : Bool :=
  match p.extension? with
  | some ending => extensions.contains ending
  | none => false

def ofTree (tree : FileTree) : Files where
  isFile p := isStyle p && tree.isFile p
  isDirectory := tree.isDirectory
  read? p := if isStyle p then tree.read? p else none

end Files

end ComponentBundle.Style
