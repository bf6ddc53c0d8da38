import ComponentBundle.Json.Value
import ComponentBundle.Unit

/-!
# Bundles

A bundle holds the scripts of all units that an entry reaches, each under the chain of specifiers that
leads to it, the paths of the units, and their styles and diagnostics in the order of discovery.
-/
namespace ComponentBundle

/-- A chain of specifiers from the entry to a unit: each of them behind a separator. The chain of the
entry is empty. -/
abbrev Breadcrumb := Text

namespace Breadcrumb

/-- The character in front of every specifier of a chain. -/
def separator : Char := '>'

def entry : Breadcrumb := []

/-- The chain of what a unit imports by a specifier. -/
def child (crumb : Breadcrumb) (specifier : Text) : Breadcrumb := crumb ++ separator :: specifier

/-- The number of separators in a chain. -/
def depth (crumb : Breadcrumb) : Nat := crumb.count separator

end Breadcrumb

abbrev TextMap := List (Text × Text)

namespace TextMap

def get? (map : TextMap) (key : Text) : Option Text :=
  (map.find? fun entry => entry.1 = key).map (·.2)

/-- Puts a text under a key, in place of the one that was there. -/
def insert (key value : Text) : TextMap → TextMap
  | [] => [(key, value)]
  | entry :: rest =>
    if entry.1 = key then (key, value) :: rest
    else if key < entry.1 then (key, value) :: entry :: rest
    else entry :: insert key value rest

def toJson (map : TextMap) : Json := .object (map.map fun entry => (entry.1, .string entry.2))

end TextMap

/-- What a preview shows. -/
structure Bundle where
  scripts : TextMap := []
  style : Text := []
  diagnostics : List Diagnostic := []
  paths : TextMap := []

namespace Bundle

/-- A bundle with nothing but diagnostics. -/
def failed (diagnostics : List Diagnostic) : Bundle := { diagnostics }

/-- The bundle with the script of a chain, if it has one, and its path. -/
def place (bundle : Bundle) (crumb : Breadcrumb) (path : Text) (script : Option Text) : Bundle :=
  { bundle with
    paths := bundle.paths.insert crumb path
    scripts := match script with
      | some script => bundle.scripts.insert crumb script
      | none => bundle.scripts }

/-- The bundle with a unit under its chain. -/
def record (bundle : Bundle) (crumb : Breadcrumb) (unit : CompiledUnit) : Bundle :=
  { bundle.place crumb unit.path.text unit.script with
    style := bundle.style ++ unit.style
    diagnostics := bundle.diagnostics ++ unit.diagnostics }

def script? (bundle : Bundle) (crumb : Breadcrumb) : Option Text := bundle.scripts.get? crumb

/-- Whether some diagnostic of the bundle is an error. -/
def hasErrors (bundle : Bundle) : Bool := ComponentBundle.hasErrors bundle.diagnostics

end Bundle

def Position.toJson (position : Position) : Json :=
  .object [("line".toList, .number (.integer position.line)),
    ("column".toList, .number (.integer position.column))]

def Severity.toJson : Severity → Json
  | .error => .string "error".toList
  | .warning => .string "warning".toList

def Diagnostic.toJson (diagnostic : Diagnostic) : Json :=
  .object ([("start".toList, diagnostic.start.toJson),
    ("message".toList, .string diagnostic.message),
    ("severity".toList, diagnostic.severity.toJson)] ++
    match diagnostic.file with
    | some file => [("file".toList, .string file)]
    | none => [])

def Bundle.toJson (bundle : Bundle) : Json :=
  .object [("js".toList, bundle.scripts.toJson), ("css".toList, .string bundle.style),
    ("err".toList, .array (bundle.diagnostics.map Diagnostic.toJson)),
    ("sourceMap".toList, bundle.paths.toJson)]

end ComponentBundle
