import ComponentBundle.Style.Tree
import ComponentBundle.Text.Blank

/-!
# Writing style sheets

A style sheet is written with a declaration a line. What has nothing in it is left out, and so are
rules whose selectors match nothing that can be written.
-/
namespace ComponentBundle.Style

namespace Tree

/-- Whether nothing is written for a part; `n` bounds how deep the parts are nested. -/
def isInvisible (tree : Tree) : (n : Nat) → (id : Nat) → Bool
  | 0, _ => false
  | n + 1, id =>
    let node := tree.node id
    let isEmpty := node.children.all (isInvisible tree n)
    match node.kind with
    | .rule place => areInvisible (tree.selector place) || isEmpty
    | .declaration _ value _ _ => value.isBlank
    | .media _ | .supports _ | .keyframe _ => isEmpty
    | _ => false

def needsSemicolon (kind : NodeKind) : Bool :=
  match kind with
  | .declaration .. | .plainImport _ => true
  | .atRule _ _ hasBody => !hasBody
  | _ => false

def marginText (margin : Nat) : String := String.ofList (List.replicate margin ' ')

def commentText (text : String) (column : Nat) : String :=
  let moved (line : Text) : Text :=
    let trimmed : Text := line.dropWhile Text.isBlank
    List.replicate (line.length - trimmed.length - column) ' ' ++ trimmed
  match Text.lines text.toList with
  | first :: rest =>
    String.ofList (Text.joinWith ['\n'] (first.dropWhile Text.isBlank :: rest.map moved))
  | [] => ""

/-- A part as it is written; `n` bounds how deep the parts are nested. -/
def nodeText (tree : Tree) : (n margin id : Nat) → Except Fault String
  | 0, _, _ => return ""
  | n + 1, margin, id => do
    let node := tree.node id
    let before := marginText margin
    let isShown (child : Nat) : Bool := !tree.isInvisible (n + 1) child
    let children := node.children.reverse.filter isShown
    let block (opening : String) : Except Fault String := do
      let lines ← children.mapM fun child => do
        return (← nodeText tree n (margin + 2) child) ++
          (if needsSemicolon (tree.node child).kind then ";\n" else "\n")
      return before ++ opening ++ " \x7b\n" ++ String.join lines ++ before ++ "\x7d"
    match node.kind with
    | .root => return ""
    | .rule place => block (selectorText (tree.selector place))
    | .declaration name value span isCustom =>
      match value.css with
      | .ok text => return before ++ name ++ (if isCustom then ":" else ": ") ++ text
      | .error message => throw ⟨message, span⟩
    | .media queries => block ("@media " ++ ", ".intercalate (queries.map MediaQuery.text))
    | .supports condition => block ("@supports " ++ condition)
    | .atRule name parameters hasBody =>
      let opening := "@" ++ name ++ (if parameters.isEmpty then "" else " " ++ parameters)
      if !hasBody then return before ++ opening
      else if children.isEmpty then return before ++ opening ++ " \x7b\x7d"
      else block opening
    | .keyframe selector => block selector
    | .comment text column => return before ++ commentText text column
    | .plainImport text => return before ++ "@import " ++ text

def topText (tree : Tree) (depth : Nat) :
    (isFirst groupEnded : Bool) → List Nat → Except Fault String
  | _, _, [] => return ""
  | isFirst, groupEnded, id :: rest => do
    let node := tree.node id
    let first ← nodeText tree depth 0 id
    return (if isFirst then "" else if groupEnded then "\n\n" else "\n") ++ first ++
      (if needsSemicolon node.kind then ";" else "") ++
      (← topText tree depth false node.endsGroup rest)

/-- The style sheet as it is written, if all of it can be. Imports that are left to the page stand in
front. -/
def text (tree : Tree) : Except Fault String := do
  let depth := tree.nodes.size + 1
  let isImport (id : Nat) : Bool := match (tree.node id).kind with
    | .plainImport _ => true
    | _ => false
  let shown := (tree.node 0).children.reverse.filter fun id => !tree.isInvisible depth id
  let (imports, others) := shown.partition isImport
  let inner ← topText tree depth true false (imports ++ others)
  let inner := if inner.isEmpty then "" else inner ++ "\n"
  let isPlain := inner.toList.all fun c => c.toNat < 128
  return if isPlain then inner else "@charset \"UTF-8\";\n" ++ inner

end Tree

end ComponentBundle.Style
