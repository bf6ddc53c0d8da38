import ComponentBundle.Text.Word

/-!
# Paths

A path is a text that slashes cut into components. Repeated slashes, inner and trailing dots and a
trailing slash do not count as components, so two texts may be the same path. Joining, parents and
suffixes work on the text and keep its spelling; `normal` gives the one spelling without dots.
-/
namespace ComponentBundle

/-- A path as it is spelled. -/
structure Path where
  text : Text
  deriving DecidableEq, Repr, Inhabited

namespace Path

inductive Component where
  | root
  | current
  | parent
  | name (text : Text)
  deriving DecidableEq, Repr

def Component.text : Component → Text
  | .root => ['/']
  | .current => ['.']
  | .parent => ['.', '.']
  | .name text => text

def ofString (s : String) : Path := ⟨s.toList⟩

def isAbsolute (p : Path) : Bool := p.text.head? == some '/'

/-- The component that a piece between slashes stands for, if it counts. -/
def Component.ofPiece? (piece : Text) : Option Component :=
  if piece = [] ∨ piece = ['.'] then none
  else if piece = ['.', '.'] then some .parent
  else some (.name piece)

/-- The components of a path in order. A dot counts only where a relative path begins with it. -/
def components (p : Path) : List Component :=
  let pieces := p.text.splitOnChar '/'
  let inner := pieces.filterMap Component.ofPiece?
  if p.isAbsolute then .root :: inner
  else if pieces.head? = some ['.'] then .current :: inner
  else inner

/-- The text that a path takes after the components so far: `component` is put behind them, an
absolute one in their place. -/
def push (before component : Text) : Text :=
  if component.head? = some '/' then component
  else if before = [] ∨ before.getLast? = some '/' then before ++ component
  else before ++ '/' :: component

def join (directory p : Path) : Path := ⟨push directory.text p.text⟩

def child (directory : Path) (name : Text) : Path := ⟨push directory.text name⟩

def ofComponents (components : List Component) : Path :=
  ⟨components.foldl (fun text component => push text component.text) []⟩

/-- Takes the slashes and the dots that do not count off the end of a reversed path. What follows
the dot decides whether it begins the path. -/
def dropTail : Text → Text
  | [] => []
  | ['/'] => ['/']
  | '/' :: rest => dropTail rest
  | '.' :: '/' :: rest => if rest = [] then ['/'] else dropTail rest
  | text => text

/-- The path without its last component; nothing for the root and for the empty path. -/
def parent? (p : Path) : Option Path :=
  match dropTail p.text.reverse with
  | [] => none
  | ['/'] => none
  | tail => some ⟨(dropTail (tail.dropWhile (· ≠ '/'))).reverse⟩

/-- The path, its parent, the parent of that, and so on. -/
def ancestorsWithin : Nat → Path → List Path
  | 0, _ => []
  | n + 1, p => p :: (p.parent?.map (ancestorsWithin n)).getD []

/-- The path and all directories above it, the nearest first. Every parent is a shorter text, so the
length bounds their number. -/
def ancestors (p : Path) : List Path := p.ancestorsWithin (p.text.length + 1)

def fileName? (p : Path) : Option Text :=
  match p.components.getLast? with
  | some (.name text) => some text
  | _ => none

/-- What follows the last dot of the file name, unless the name begins with that dot. -/
def extension? (p : Path) : Option Text :=
  p.fileName?.bind fun name =>
    let ending := name.reverse.takeWhile (· ≠ '.')
    if ending.length + 1 < name.length then some ending.reverse else none

def stem? (p : Path) : Option Text :=
  p.fileName?.map fun name =>
    match p.extension? with
    | some ending => name.take (name.length - ending.length - 1)
    | none => name

def withExtension (p : Path) (ending : Text) : Path :=
  match p.stem?, p.fileName? with
  | some stem, some name =>
    let kept := dropTail p.text.reverse
    ⟨(kept.drop name.length).reverse ++ stem ++ (if ending = [] then [] else '.' :: ending)⟩
  | _, _ => p

/-- Whether the extension is a word: letters, numbers and underscores, and at least one. -/
def hasExtension (p : Path) : Bool :=
  match p.extension? with
  | some ending => ending ≠ [] && ending.all fun c => Text.isAlphanumeric c || c == '_'
  | none => false

def withSuffix (p : Path) (suffix : Text) : Path := ⟨p.text ++ suffix⟩

/-- One step of taking dots out: a parent takes the component before it away. Above the root and
above the beginning of a relative path it stays. -/
def normalStep (before : List Component) : Component → List Component
  | .current => before
  | .parent =>
    match before with
    | [] => [.parent]
    | [.root] => [.parent, .root]
    | _ :: rest => rest
  | component => component :: before

def normalComponents (components : List Component) : List Component :=
  components.foldl normalStep []

/-- The path without `.` and `..` components, as far as its spelling tells. -/
def normal (p : Path) : Path := ofComponents (normalComponents p.components).reverse

/-- The normal form of the path seen from the working directory. -/
def absolute (p workingDirectory : Path) : Path :=
  if p.isAbsolute then p.normal else (workingDirectory.join p).normal

end Path

end ComponentBundle
