import ComponentBundle.Json.Describe
import ComponentBundle.Path

/-!
# Options

What a caller asks for besides a bundle, and how it is read from data: an object with a member for
each field, or an array of the fields in order.
-/
namespace ComponentBundle

/-- What is done to the script of a compiled component. -/
structure CompileOptions where
  stripImports : Bool := false
  /-- Whether the component is mounted instead of exported. -/
  autoMount : Bool := false
  mountTarget : Text := "body".toList
  deriving DecidableEq

structure GenerateOptions where
  /-- The directory of packages; when absent, the nearest one above the entry. -/
  moduleDirectory : Option Path := none
  stripImports : Bool := false
  autoMount : Bool := false
  mountTarget : Text := "body".toList
  deriving DecidableEq

/-- What is asked of the entry of a bundle. -/
def GenerateOptions.compileOptions (options : GenerateOptions) : CompileOptions :=
  ⟨options.stripImports, options.autoMount, options.mountTarget⟩

/-- Why data gives no options. -/
inductive OptionsFault where
  | invalidType (found : Json) (expected : Text)
  | invalidLength (length : Nat) (expected : Text)
  | missingField (name : Text)

/-- The wording of a fault. -/
def OptionsFault.message : OptionsFault → Text
  | .invalidType found expected =>
    "invalid type: ".toList ++ found.describe ++ ", expected ".toList ++ expected
  | .invalidLength length expected =>
    "invalid length ".toList ++ Text.ofNat length ++ ", expected ".toList ++ expected
  | .missingField name => "missing field `".toList ++ name ++ ['`']

namespace Options

abbrev Decoded := Except OptionsFault

def bool : Json → Decoded Bool
  | .bool value => .ok value
  | other => .error (.invalidType other "a boolean".toList)

def text : Json → Decoded Text
  | .string value => .ok value
  | other => .error (.invalidType other "a string".toList)

/-- A path, or null for none. -/
def path? : Json → Decoded (Option Path)
  | .null => .ok none
  | .string value => .ok (some ⟨value⟩)
  | other => .error (.invalidType other "path string".toList)

/-- Reads a field into a record; a name of no field leaves it. -/
abbrev SetField (α : Type) := α → Text → Json → Decoded α

/-- Reads the members of an object into a record. -/
def ofMembers {α : Type} (set : SetField α) (start : α) (members : List (Text × Json)) : Decoded α :=
  members.foldlM (fun record (name, value) => set record name value) start

/-- Reads the items of an array into a record, as the values of its fields in order. -/
def ofItems {α : Type} (set : SetField α) (start : α) (names : List Text) (items : List Json) :
    Decoded α := do
  let record ← (names.zip items).foldlM (fun record (name, value) => set record name value) start
  if names.length < items.length then
    .error (.invalidLength items.length "fewer elements in array".toList)
  else pure record

end Options

namespace GenerateOptions

def fieldNames : List Text :=
  ["moduleDir".toList, "stripImports".toList, "autoMount".toList, "mountTarget".toList]

def setField : Options.SetField GenerateOptions := fun options name value =>
  if name = "moduleDir".toList then
    return { options with moduleDirectory := ← Options.path? value }
  else if name = "stripImports".toList then
    return { options with stripImports := ← Options.bool value }
  else if name = "autoMount".toList then return { options with autoMount := ← Options.bool value }
  else if name = "mountTarget".toList then
    return { options with mountTarget := ← Options.text value }
  else return options

/-- The options that data gives. -/
def ofJson : Json → Options.Decoded GenerateOptions
  | .object members => Options.ofMembers setField {} members
  | .array items => Options.ofItems setField {} fieldNames items
  | other => .error (.invalidType other "struct GenerateOptions".toList)

def toJson (options : GenerateOptions) : Json :=
  .object [
    ("moduleDir".toList, match options.moduleDirectory with
      | some directory => .string directory.text
      | none => .null),
    ("stripImports".toList, .bool options.stripImports),
    ("autoMount".toList, .bool options.autoMount),
    ("mountTarget".toList, .string options.mountTarget)]

end GenerateOptions

namespace CompileOptions

def fieldNames : List Text := ["stripImports".toList, "autoMount".toList, "mountTarget".toList]

def setField : Options.SetField CompileOptions := fun options name value =>
  if name = "stripImports".toList then
    return { options with stripImports := ← Options.bool value }
  else if name = "autoMount".toList then return { options with autoMount := ← Options.bool value }
  else if name = "mountTarget".toList then
    return { options with mountTarget := ← Options.text value }
  else return options

/-- The options that data gives; every field must be there. -/
def ofJson : Json → Options.Decoded CompileOptions
  | .object members => do
    let options ← Options.ofMembers setField {} members
    match fieldNames.find? fun name => !members.any fun member => member.1 = name with
    | some name => .error (.missingField name)
    | none => pure options
  | .array items => do
    let options ← Options.ofItems setField {} fieldNames items
    if items.length < fieldNames.length then
      .error (.invalidLength items.length "struct CompileOptions with 3 elements".toList)
    else pure options
  | other => .error (.invalidType other "struct CompileOptions".toList)

end CompileOptions

end ComponentBundle
