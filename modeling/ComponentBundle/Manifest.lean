import ComponentBundle.Json.Reader
import ComponentBundle.Json.Describe
import ComponentBundle.Workspace

/-!
# Package manifests

The three entries of a package that its manifest may declare. A manifest is an object with these
members among others, or an array of their values in order.
-/
namespace ComponentBundle

structure Manifest where
  module : Option Text := none
  svelte : Option Text := none
  main : Option Text := none
  deriving DecidableEq

namespace Manifest

open Json Json.Reader

def fileName : Text := "package.json".toList

def expected : Text := "struct PackageManifest".toList

/-- Refuses the value at the cursor for its type, once it has been read. -/
def refuse {α : Type} (expected : Text) : Reader α := do
  match ← peekToken with
  | some '[' => failHere (.invalidType "sequence".toList expected)
  | some '\x7b' => failHere (.invalidType "map".toList expected)
  | _ => do
    let value ← valueUpTo ((← left) + 1) 0
    failHere (.invalidType value.describe expected)

/-- Reads an entry: a string, or null for none. -/
def entry : Reader (Option Text) := do
  match ← peekToken with
  | none => failNext .endInValue
  | some 'n' => skip; word "ull".toList; pure none
  | some '"' => skip; pure (some (← string))
  | some _ => refuse "a string".toList

/-- The fields that the reader has met, each with its entry. -/
structure Fields where
  module : Option (Option Text) := none
  svelte : Option (Option Text) := none
  main : Option (Option Text) := none

def Fields.manifest (fields : Fields) : Manifest :=
  ⟨fields.module.getD none, fields.svelte.getD none, fields.main.getD none⟩

/-- Reads the value of a field that has not been met before. -/
def field (name : Text) (met : Option (Option Text)) : Reader (Option (Option Text)) := do
  if met.isSome then
    discard peekToken
    failHere (.duplicateField name)
  else
    colon
    pure (some (← entry))

/-- Reads the members of a manifest and the end of the object. -/
def membersUpTo : Nat → (first : Bool) → Fields → Reader Manifest
  | 0, _, fields => pure fields.manifest
  | n + 1, first, fields => do
    match ← nextKey? first with
    | none =>
      endObject
      pure fields.manifest
    | some name =>
      if name = "module".toList then
        membersUpTo n false { fields with module := ← field name fields.module }
      else if name = "svelte".toList then
        membersUpTo n false { fields with svelte := ← field name fields.svelte }
      else if name = "main".toList then
        membersUpTo n false { fields with main := ← field name fields.main }
      else do
        colon
        skipValue
        membersUpTo n false fields

/-- Reads an item of a manifest in an array, if there is one. -/
def item (first : Bool) : Reader (Option Text) := do
  if ← nextItem first then entry else pure none

def reader : Reader Manifest := do
  match ← peekToken with
  | none => failNext .endInValue
  | some '\x7b' =>
    skip
    membersUpTo ((← left) + 1) true {}
  | some '[' =>
    skip
    let module ← item true
    if (← peekToken) == some ']' then
      endArray
      pure { module }
    else
      let svelte ← item false
      if (← peekToken) == some ']' then
        endArray
        pure { module, svelte }
      else
        let main ← item false
        endArray
        pure { module, svelte, main }
  | some _ => refuse expected

def parse (text : Text) : Except Failure Manifest :=
  Reader.run (do
    let manifest ← reader
    endText
    pure manifest) text

/-- Why a directory has no usable manifest. -/
inductive Failure where
  | unreadable
  | malformed (failure : Json.Failure)

def read (tree : FileTree) (directory : Path) : Except Failure Manifest :=
  match tree.read? (directory.child fileName) with
  | none => .error .unreadable
  | some text =>
    match parse text with
    | .ok manifest => .ok manifest
    | .error failure => .error (.malformed failure)

/-- The manifest of a directory, if it has a usable one. -/
def read? (tree : FileTree) (directory : Path) : Option Manifest := (read tree directory).toOption

/-- The entry that counts: the module, else the component, else the main file. -/
def primary? (manifest : Manifest) : Option Text :=
  manifest.module.or (manifest.svelte.or manifest.main)

def entryPath? (manifest : Manifest) (directory : Path) : Option Path :=
  manifest.primary?.map directory.child

end Manifest

end ComponentBundle
