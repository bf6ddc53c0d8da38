import ComponentBundle.CommandLine

/-!
# The command

Takes a picture of the directories that a run may look into, carries the request out on it, and
prints what comes of it.
-/
namespace ComponentBundle.Command

def depthLimit : Nat := 64

def pathOf (names : List Text) : String := String.ofList ('/' :: Text.joinWith ['/'] names)

def namesOf (p : Path) (workingDirectory : Path) : List Text :=
  ((p.absolute workingDirectory).normal.text.splitOnChar '/').filter (· ≠ [])

/-- The text of a file, if it is one. -/
def textOf? (names : List Text) : IO (Option Text) := do
  try return some (← IO.FS.readFile (pathOf names)).toList
  catch _ => return none

/-- The names in a directory, and whether each of them is one of a directory. -/
def namesIn (names : List Text) : IO (List (Text × Bool)) := do
  try
    let found ← ((← IO.currentDir) / pathOf names).readDir
    found.toList.mapM fun entry => do return (entry.fileName.toList, ← entry.path.isDir)
  catch _ => return []

/-- What is below a directory, at most `n` directories deep. -/
def below : (n : Nat) → (names : List Text) → IO (List (List Text × Entry))
  | 0, _ => return []
  | n + 1, names => do
    let found ← (← namesIn names).mapM fun (name, isDirectory) => do
      let inner := names ++ [name]
      if isDirectory then return (inner, Entry.directory) :: (← below n inner)
      else return [(inner, Entry.file (← textOf? inner))]
    return found.flatten

/-- A directory above others: the files in it that may configure a bundle, and its modules. -/
def above (names : List Text) : IO (List (List Text × Entry)) := do
  let found ← (← namesIn names).mapM fun (name, isDirectory) => do
    let inner := names ++ [name]
    if isDirectory then
      let modules ← if name = moduleDirectoryName then below depthLimit inner else pure []
      return (inner, Entry.directory) :: modules
    else if (".json".toList).isSuffixOf name then return [(inner, Entry.file (← textOf? inner))]
    else return [(inner, Entry.file none)]
  return found.flatten

def around (names : List Text) : IO (List (List Text × Entry)) := do
  let inner ← below depthLimit names
  let outer ← (List.range names.length).mapM fun n => above (names.take n)
  return inner ++ outer.flatten

def pathsOf : CommandLine.Request → List Path
  | .run arguments =>
    (arguments.input.parent?.toList ++ arguments.moduleDirectory.toList ++
      (arguments.runtime.bind Path.parent?).toList)
  | _ => []

/-- The files and directories that a request may look into. -/
def treeFor (request : CommandLine.Request) : IO FileTree := do
  let workingDirectory : Path := ⟨(← IO.currentDir).toString.toList⟩
  let roots := (⟨[]⟩ :: pathsOf request).map fun p => namesOf p workingDirectory
  let entries ← roots.eraseDups.mapM around
  return ⟨workingDirectory, entries.flatten⟩

end ComponentBundle.Command

open ComponentBundle in
/-- Bundles the entry that the arguments name and prints the bundle. -/
def main (arguments : List String) : IO UInt32 := do
  let request := CommandLine.parse (arguments.map String.toList)
  let tree ← match request with
    | .run _ => Command.treeFor request
    | _ => pure ⟨⟨['/']⟩, []⟩
  let outcome := request.outcome tree
  (← IO.getStdout).putStr (String.ofList outcome.output)
  return UInt32.ofNat outcome.exitCode
