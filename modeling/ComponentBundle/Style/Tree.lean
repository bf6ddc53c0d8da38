import ComponentBundle.Style.Media
import ComponentBundle.Style.Selector.Basic
import ComponentBundle.Style.Value

/-!
# Style sheets

The rules that a style results in. They are numbered, since rules go on growing while others are made:
what stands in a rule of the style may belong next to that rule in the style sheet. So are selectors,
since rules that stand there already may be extended.
-/
namespace ComponentBundle.Style

/-- What stands in a style sheet. -/
inductive NodeKind where
  | root
  | rule (selector : Nat)
  | declaration (name : String) (value : Value) (span : Span) (isCustom : Bool)
  | media (queries : List MediaQuery)
  | supports (condition : String)
  | atRule (name parameters : String) (hasBody : Bool)
  | keyframe (selector : String)
  /-- A comment that began so many characters behind the beginning of a line. -/
  | comment (text : String) (column : Nat)
  | plainImport (text : String)

def NodeKind.isRule : NodeKind → Bool
  | .rule _ => true
  | _ => false

structure Node where
  kind : NodeKind
  parent : Nat
  /-- The parts in it, the last one first. -/
  children : List Nat := []
  endsGroup : Bool := false

/-- The selector of a rule, and the number of the file that may extend it. -/
structure RuleSelector where
  owner : Nat
  selector : Selector

/-- A style sheet, whose first part holds all others. -/
structure Tree where
  nodes : Array Node := #[⟨.root, 0, [], false⟩]
  selectors : Array RuleSelector := #[]

namespace Tree

def node (tree : Tree) (id : Nat) : Node := tree.nodes.getD id ⟨.root, 0, [], false⟩

def selector (tree : Tree) (id : Nat) : Selector := ((tree.selectors[id]?).map (·.selector)).getD []

def modify (tree : Tree) (id : Nat) (change : Node → Node) : Tree :=
  { tree with nodes := tree.nodes.modify id change }

/-- Adds a part to another one, and tells its number. -/
def add (tree : Tree) (kind : NodeKind) (parent : Nat) : Tree × Nat :=
  let id := tree.nodes.size
  let tree := { tree with nodes := tree.nodes.push ⟨kind, parent, [], false⟩ }
  (tree.modify parent fun node => { node with children := id :: node.children }, id)

/-- The nearest part around a part, or that part itself, that is not to be left; at most `n` are. -/
def climb (tree : Tree) (leaves : NodeKind → Bool) : (n : Nat) → (id : Nat) → Nat
  | 0, id => id
  | n + 1, id =>
    if id != 0 && leaves (tree.node id).kind then climb tree leaves n (tree.node id).parent else id

/-- Adds a part next to those that are to be left. A part that others follow is begun again. -/
def addOutside (tree : Tree) (leaves : NodeKind → Bool) (kind : NodeKind) (parent : Nat) :
    Tree × Nat :=
  let parent := tree.climb leaves tree.nodes.size parent
  let found := tree.node parent
  if parent != 0 && (tree.node found.parent).children.head? != some parent then
    let (tree, copy) := tree.add found.kind found.parent
    tree.add kind copy
  else tree.add kind parent

/-- Notes that an empty line follows the last part of a part. -/
def endGroup (tree : Tree) (parent : Nat) : Tree :=
  match (tree.node parent).children with
  | last :: _ =>
    tree.modify last fun node =>
      match node.kind with
      | .rule _ | .media _ | .supports _ | .atRule .. => { node with endsGroup := true }
      | _ => node
  | [] => tree

end Tree

end ComponentBundle.Style
