import ComponentBundle.Path
import ComponentBundle.Text.Position

/-!
# Diagnostics

What a preview reports to its reader: a message, where it belongs, and whether it is an error.
-/
namespace ComponentBundle

inductive Severity where
  | error
  | warning
  deriving DecidableEq

/-- A message about a place, and the file it is in when that is known. -/
structure Diagnostic where
  start : Position
  message : Text
  severity : Severity
  file : Option Text := none
  deriving DecidableEq

namespace Diagnostic

/-- An error whose file is not known yet. -/
def error (start : Position) (message : Text) : Diagnostic := ⟨start, message, .error, none⟩

/-- A warning whose file is not known yet. -/
def warning (start : Position) (message : Text) : Diagnostic := ⟨start, message, .warning, none⟩

/-- The diagnostic about a place in the file. -/
def inFile (diagnostic : Diagnostic) (file : Path) : Diagnostic :=
  { diagnostic with file := some file.text }

def isError (diagnostic : Diagnostic) : Bool := diagnostic.severity == .error

end Diagnostic

def hasErrors (diagnostics : List Diagnostic) : Bool := diagnostics.any (·.isError)

end ComponentBundle
