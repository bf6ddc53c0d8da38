import ComponentBundle.Alias.Glob
import ComponentBundle.Json.Lenient
import ComponentBundle.Workspace

/-!
# Path aliases

A project configuration gives names to places: patterns of specifiers with the templates of the paths
that they stand for. Of all patterns that match a specifier and lead to a file the last one counts,
within a pattern the first template that leads to a file, within a template the first suffix.
-/
namespace ComponentBundle

/-- The first existing regular file among the path with each of the suffixes. -/
def FileTree.probe? (tree : FileTree) (base : Path) (suffixes : List Text) : Option Path :=
  (suffixes.map base.withSuffix).find? tree.isFile

namespace Alias

/-- A pattern and the templates of the paths that it stands for. -/
structure Entry where
  pattern : Text
  templates : List Text
  deriving DecidableEq

/-- The aliases of a configuration file. -/
structure Table where
  configPath : Path
  baseDirectory : Path
  entries : List Entry

def configNames : List Text := ["tsconfig.json".toList, "jsconfig.json".toList]

def suffixes : List Text := [[], ".js".toList, ".cjs".toList, ".ts".toList, ".svelte".toList]

structure Declared where
  baseUrl : Option Text
  paths : List (Text × Json)

/-- The only value of a field, if no other member has its name. -/
def field? (members : List (Text × Json)) (name : Text) : Option (Option Json) :=
  match members.filter fun member => member.1 = name with
  | [] => some none
  | [member] => some (some member.2)
  | _ => none

def optionalText? : Option Json → Option (Option Text)
  | none => some none
  | some .null => some none
  | some (.string text) => some (some text)
  | _ => none

/-- The members of an object, a later value of a name in the place of the earlier one. -/
def uniqueMembers (members : List (Text × Json)) : List (Text × Json) :=
  members.foldl (fun found member =>
    if found.any fun old => old.1 = member.1 then
      found.map fun old => if old.1 = member.1 then member else old
    else found ++ [member]) []

/-- The members of the alias object; nothing and null declare none. -/
def pathMembers? : Option Json → Option (List (Text × Json))
  | none => some []
  | some .null => some []
  | some (.object members) => some (uniqueMembers members)
  | _ => none

/-- The compiler options, as an object or as an array of the two fields in order. -/
def compilerOptions? : Option Json → Option Declared
  | none => some ⟨none, []⟩
  | some (.object members) => do
    let baseUrl ← optionalText? (← field? members "baseUrl".toList)
    let paths ← pathMembers? (← field? members "paths".toList)
    some ⟨baseUrl, paths⟩
  | some (.array items) => do
    some ⟨← optionalText? items[0]?, ← pathMembers? items[1]?⟩
  | _ => none

/-- The whole configuration, as an object or as an array of the two fields in order. A base URL of
the compiler options hides one beside them. -/
def declared? : Json → Option Declared
  | .object members => do
    let inner ← compilerOptions? (← field? members "compilerOptions".toList)
    let outer ← optionalText? (← field? members "baseUrl".toList)
    some ⟨inner.baseUrl.or outer, inner.paths⟩
  | .array items => do
    let inner ← compilerOptions? items[0]?
    let outer ← optionalText? items[1]?
    some ⟨inner.baseUrl.or outer, inner.paths⟩
  | _ => none

/-- The templates that a value lists; anything but texts is passed over. -/
def templates : Json → List Text
  | .array items => items.filterMap fun
    | .string text => some text
    | _ => none
  | .string text => [text]
  | _ => []

/-- Why a configuration file gives no aliases. -/
inductive Failure where
  | unreadable
  | malformed
  deriving DecidableEq

namespace Table

def load (tree : FileTree) (configPath : Path) : Except Failure Table :=
  match tree.read? configPath with
  | none => .error .unreadable
  | some text =>
    match (Json.Lenient.parse? text).bind declared? with
    | none => .error .malformed
    | some declared =>
      let directory := configPath.parent?.getD (Path.ofString ".")
      .ok {
        configPath
        baseDirectory := directory.child (declared.baseUrl.getD ['.'])
        entries := declared.paths.map fun member => ⟨member.1, templates member.2⟩ }

def configAbove? (tree : FileTree) (start : Path) : Option Path :=
  start.ancestors.findSome? fun directory => (configNames.map directory.child).find? tree.isFile

/-- The aliases of the nearest configuration file, if it can be used. -/
def discover? (tree : FileTree) (start : Path) : Option Table :=
  (configAbove? tree start).bind fun config => (load tree config).toOption

end Table

def substitute (replacement : Text) : Text → Text
  | [] => []
  | c :: rest => if c = '*' then replacement ++ rest else c :: substitute replacement rest

/-- The path that a template stands for, without its suffix. -/
def candidate (base : Path) (wildcard template : Text) : Path :=
  (base.child (substitute wildcard template)).normal

def Entry.resolve? (tree : FileTree) (base : Path) (specifier : Text) (entry : Entry) :
    Option Path :=
  (Glob.ofPattern entry.pattern).captures? specifier |>.bind fun captures =>
    entry.templates.findSome? fun template =>
      tree.probe? (candidate base (captures.head?.getD []) template) suffixes

def Table.resolve? (tree : FileTree) (table : Table) (specifier : Text) : Option Path :=
  table.entries.foldl
    (fun found entry => (entry.resolve? tree table.baseDirectory specifier).or found) none

end Alias

end ComponentBundle
