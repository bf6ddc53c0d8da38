import ComponentBundle.Text.Blank
import ComponentBundle.Text.Word

/-!
# Blocks

The script and style blocks of a component: an opening tag, a body up to the first closing tag, and
the closing tag. Tag names are compared up to case. A text splits into its blocks and the texts
between them, and joining what a split gives returns the text.
-/
namespace ComponentBundle.Markup

/-- The two tags whose bodies are not markup. -/
inductive Tag where
  | script
  | style
  deriving DecidableEq, Repr

def Tag.name : Tag → Text
  | .script => "script".toList
  | .style => "style".toList

/-- What follows the name in an opening tag that a text begins with. The name must be a whole
word. -/
def afterOpening? (name text : Text) : Option Text :=
  match Text.dropPrefixFold? ('<' :: name) text with
  | some rest => if Text.atWordEnd rest then some rest else none
  | none => none

def afterClosing? (tag : Tag) (text : Text) : Option Text :=
  Text.dropPrefixFold? ('<' :: '/' :: tag.name ++ ['>']) text

/-- The part of the text before the first closing tag, and what follows the tag. -/
def untilClosing? (tag : Tag) : Text → Option (Text × Text)
  | [] => none
  | c :: rest =>
    match afterClosing? tag (c :: rest) with
    | some after => some ([], after)
    | none => (untilClosing? tag rest).map fun (body, after) => (c :: body, after)

structure Block where
  /-- The opening tag up to its attributes. -/
  opening : Text
  attributes : Text
  body : Text
  closing : Text
  deriving DecidableEq, Repr

namespace Block

def text (block : Block) : Text :=
  block.opening ++ block.attributes ++ '>' :: block.body ++ block.closing

def ofText? (tag : Tag) (text : Text) : Option (Block × Text) := do
  let rest ← afterOpening? tag.name text
  let opening := text.take (tag.name.length + 1)
  let attributes := rest.takeWhile (· ≠ '>')
  match rest.dropWhile (· ≠ '>') with
  | [] => none
  | _ :: content =>
    let (body, after) ← untilClosing? tag content
    some (⟨opening, attributes, body, (content.drop body.length).take (tag.name.length + 3)⟩, after)

end Block

/-- A stretch of a component: a text outside all blocks of a tag, or such a block. -/
inductive Piece where
  | outside (text : Text)
  | block (found : Block)
  deriving DecidableEq, Repr

def Piece.text : Piece → Text
  | .outside text => text
  | .block found => found.text

/-- Puts a character in front of the pieces, in the text that comes first. -/
def consOutside (c : Char) : List Piece → List Piece
  | .outside text :: pieces => .outside (c :: text) :: pieces
  | pieces => .outside [c] :: pieces

/-- Splits the text, at most `n` blocks and characters between them. -/
def piecesUpTo (tag : Tag) : Nat → Text → List Piece
  | 0, _ => []
  | _ + 1, [] => []
  | n + 1, c :: rest =>
    match Block.ofText? tag (c :: rest) with
    | some (found, after) => .block found :: piecesUpTo tag n after
    | none => consOutside c (piecesUpTo tag n rest)

/-- The blocks of a tag in a component and the texts between them, in order. -/
def pieces (tag : Tag) (component : Text) : List Piece :=
  piecesUpTo tag component.length component

/-- The blocks of a tag, each with the text of the component before it. -/
def blocksAfter (before : Text) : List Piece → List (Text × Block)
  | [] => []
  | .outside text :: pieces => blocksAfter (before ++ text) pieces
  | .block found :: pieces => (before, found) :: blocksAfter (before ++ found.text) pieces

def outside (pieces : List Piece) : Text :=
  pieces.flatMap fun
    | .outside text => text
    | .block _ => []

end ComponentBundle.Markup
