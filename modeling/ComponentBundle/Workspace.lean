import ComponentBundle.Path

/-!
# The workspace

What a bundle is made from: a tree of files and directories, and the buffers open in an editor, which
hide the file of the same path. A path is looked up the way an operating system does it, a step at a
time from existing directory to existing directory; nothing is a link.
-/
namespace ComponentBundle

/-- What a place in the tree holds. -/
inductive Entry where
  | directory
  /-- A regular file; no text when its bytes are not a text. -/
  | file (content : Option Text)
  deriving DecidableEq, Repr

/-- Files and directories by the names that lead to them from the root, an earlier entry before a
later one of the same place, and the directory that relative paths start from. -/
structure FileTree where
  workingDirectory : Path
  entries : List (List Text × Entry)
  deriving Repr

namespace FileTree

/-- Names of more bytes do not exist. -/
def nameLimit : Nat := 255

/-- Paths of so many bytes or more are not looked up. -/
def pathLimit : Nat := 4096

/-- Whether a name can exist. -/
def isStorable (name : Text) : Bool := name.byteLength ≤ nameLimit && !name.contains '\x00'

/-- What stands at the end of the names, starting from the root. -/
def at? (tree : FileTree) (names : List Text) : Option Entry :=
  if names = [] then some .directory
  else (tree.entries.find? fun entry => entry.1 = names).map (·.2)

def step? (tree : FileTree) (names : List Text) (piece : Text) : Option (List Text) :=
  if tree.at? names = some .directory then
    if piece = [] ∨ piece = ['.'] then some names
    else if piece = ['.', '.'] then some names.dropLast
    else if isStorable piece then some (names ++ [piece])
    else none
  else none

/-- The names from the root that a path leads to, when all before the last are directories. -/
def locate? (tree : FileTree) (p : Path) : Option (List Text) :=
  let pieces (q : Path) : List Text := q.text.splitOnChar '/'
  if p.text = [] ∨ pathLimit ≤ p.text.byteLength then none
  else if p.isAbsolute then (pieces p).foldlM tree.step? []
  else (pieces tree.workingDirectory ++ pieces p).foldlM tree.step? []

def entry? (tree : FileTree) (p : Path) : Option Entry := (tree.locate? p).bind tree.at?

def isFile (tree : FileTree) (p : Path) : Bool :=
  match tree.entry? p with
  | some (.file _) => true
  | _ => false

def isDirectory (tree : FileTree) (p : Path) : Bool := tree.entry? p == some .directory

def read? (tree : FileTree) (p : Path) : Option Text :=
  match tree.entry? p with
  | some (.file content) => content
  | _ => none

/-- The tree with the entry in place of what stood there. -/
def put (tree : FileTree) (names : List Text) (entry : Entry) : FileTree :=
  { tree with entries := (names, entry) :: tree.entries.filter fun old => old.1 ≠ names }

def makeDirectory (tree : FileTree) (names : List Text) : FileTree :=
  (List.range names.length).foldl (fun tree depth =>
    let above := names.take (depth + 1)
    if tree.at? above = some .directory then tree else tree.put above .directory) tree

/-- The tree with the file, its directory being made when it is missing. -/
def writeFile (tree : FileTree) (names : List Text) (content : Option Text) : FileTree :=
  (tree.makeDirectory names.dropLast).put names (.file content)

def remove (tree : FileTree) (names : List Text) : FileTree :=
  { tree with entries := tree.entries.filter fun entry => !names.isPrefixOf entry.1 }

end FileTree

/-- Texts of open editor buffers by path. Two spellings of the same components are one path. -/
abbrev Buffers := List (Path × Text)

namespace Buffers

def text? (buffers : Buffers) (p : Path) : Option Text :=
  (buffers.find? fun entry => entry.1.components = p.components).map (·.2)

/-- The buffers with the one under the path replaced, or closed when there is no text. -/
def set (buffers : Buffers) (p : Path) (text : Option Text) : Buffers :=
  let others := buffers.filter fun entry => entry.1.components ≠ p.components
  match text with
  | some text => (p, text) :: others
  | none => others

end Buffers

structure Workspace where
  files : FileTree
  buffers : Buffers

namespace Workspace

/-- The text under a path: that of the open buffer, else that of the regular file. -/
def load? (workspace : Workspace) (p : Path) : Option Text :=
  match workspace.buffers.text? p with
  | some text => some text
  | none => workspace.files.read? p

end Workspace

def FileTree.home (tree : FileTree) : List Text :=
  ((tree.workingDirectory.text.splitOnChar '/').foldlM tree.step? []).getD []

/-- The paths without dots that lead to the names, by their components: from the root, from above it,
from the working directory and from the directory above that. -/
def FileTree.spellings (tree : FileTree) (names : List Text) : List (List Path.Component) :=
  [.root :: names.map .name, .root :: .parent :: names.map .name,
    (names.drop tree.home.length).map .name,
    .parent :: (names.drop tree.home.dropLast.length).map .name]

/-- The components of the paths without dots that something can be loaded from: a buffer has one path,
a file one for each of its spellings. -/
def Workspace.spellings (workspace : Workspace) : List (List Path.Component) :=
  workspace.buffers.map (·.1.components) ++
    workspace.files.entries.flatMap fun entry => workspace.files.spellings entry.1

def moduleDirectoryName : Text := "node_modules".toList

def FileTree.moduleDirectory? (tree : FileTree) (file : Path) : Option Path :=
  file.parent?.bind fun directory =>
    (directory.ancestors.map (·.child moduleDirectoryName)).find? tree.isDirectory

end ComponentBundle
