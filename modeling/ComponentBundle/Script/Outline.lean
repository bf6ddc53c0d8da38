import ComponentBundle.Text.Basic

/-!
# Outlines of scripts

The top-level statements of a script by where they begin and end, as far as a component needs to know
them.
-/
namespace ComponentBundle.Script

/-- Why a script is refused: a message and, as a byte offset, a place. -/
structure Failure where
  message : Text
  offset : Option Nat
  deriving DecidableEq

inductive ItemKind where
  | directive
  | importDeclaration
  | defaultExport
  | statement
  deriving DecidableEq

/-- A top-level statement and the bytes that it takes. -/
structure Item where
  kind : ItemKind
  first : Nat
  last : Nat
  deriving DecidableEq

/-- The text of a statement in its script. -/
def Item.text (script : Text) (item : Item) : Text :=
  (script.dropBytes item.first).takeBytes (item.last - item.first)

end ComponentBundle.Script
