import ComponentBundle.Text.Basic

/-!
# Positions

A place in a text for a reader: a line counted from one and a column counted from zero, the column in
characters. Only line feeds end lines.
-/
namespace ComponentBundle

/-- A line and a column. -/
structure Position where
  line : Int
  column : Int
  deriving DecidableEq, Repr, Inhabited

namespace Position

def none : Position := ⟨-1, -1⟩

/-- The position of a failure whose place was not reported. -/
def zero : Position := ⟨0, 0⟩

def after (before : Text) : Position :=
  ⟨before.count '\n' + 1, (before.reverse.takeWhile (· ≠ '\n')).length⟩

/-- The position of a byte offset of the source. An offset inside a character counts as the
beginning of that character, an offset past the end as the end. -/
def ofOffset (source : Text) (offset : Nat) : Position := after (source.takeBytes offset)

/-- The position in a file of a place given relative to a block that begins at `origin`: only on the
first line of the block does the column of its beginning count. -/
def shift (inner origin : Position) : Position :=
  if inner.line ≤ 1 then ⟨origin.line, origin.column + inner.column⟩
  else ⟨origin.line + inner.line - 1, inner.column⟩

end Position

end ComponentBundle
