import ComponentBundle.Bundle
import ComponentBundle.Resolver

/-!
# The walk

A bundle is made by compiling the entry and walking its imports depth first, from left to right. A
file that is already on the way from the entry to an import is not walked again: the import gets the
script that the file has there. The first import that leads nowhere ends the walk, and nothing but its
name is reported.
-/
namespace ComponentBundle

/-- Why a walk ended early. -/
inductive WalkFailure where
  | moduleNotFound (specifier : Text)
  /-- The way to a unit became longer than there are files to be on it. -/
  | endless
  deriving DecidableEq

def WalkFailure.message : WalkFailure → Text
  | .moduleNotFound specifier => "module not found: ".toList ++ specifier
  | .endless => "imports do not end".toList

def WalkFailure.diagnostic (failure : WalkFailure) : Diagnostic := .error .zero failure.message

/-- The specifier that a given script answers, whatever the files say. -/
def runtimeSpecifier : Text := "svelte/internal".toList

def Workspace.require (workspace : Workspace) (path : Path) (specifier : Text) :
    Except WalkFailure Text :=
  match workspace.load? path with
  | some text => .ok text
  | none => .error (.moduleNotFound specifier)

/-- The units on the way from the entry to the one that is walked, the last one first, with the
scripts recorded for them. -/
abbrev Chain := List (Path × Option Text)

namespace Chain

/-- The script recorded for a file on the way, if the file is on it. -/
def script? (chain : Chain) (path : Path) : Option (Option Text) :=
  (chain.find? fun unit => unit.1.components = path.components).map (·.2)

def remove (chain : Chain) (path : Path) : Chain :=
  chain.filter fun unit => unit.1.components ≠ path.components

/-- The way with a file at its end, in the place of what was recorded for it. -/
def insert (chain : Chain) (path : Path) (script : Option Text) : Chain :=
  (path, script) :: chain.remove path

end Chain

structure Walk where
  workspace : Workspace
  compiler : UnitCompiler
  resolver : Resolver
  hasRuntime : Bool

namespace Walk

/-- What a walk changes: the bundle, and which units are on the way. -/
structure State where
  bundle : Bundle
  inProgress : Chain

namespace State

/-- Records a file that is on the way already, with the script that it has there. -/
def reuse (state : State) (crumb : Breadcrumb) (path : Path) (script : Option Text) : State :=
  { state with bundle := state.bundle.place crumb path.text script }

def enter (state : State) (crumb : Breadcrumb) (path : Path) (unit : CompiledUnit) : State :=
  ⟨state.bundle.record crumb unit, state.inProgress.insert path unit.script⟩

def leave (state : State) (path : Path) : State :=
  { state with inProgress := state.inProgress.remove path }

end State

abbrev Outcome := Except WalkFailure Unit × State

/-- A walk of the imports in a script of a file, under the chain that leads to it. -/
abbrev Visit := Text → Path → Breadcrumb → State → Outcome

/-- The text in which the imports of a unit are looked for: its script unless that is empty, else its
source. -/
def scanned (unit : CompiledUnit) (source : Text) : Text :=
  match unit.script with
  | some (c :: script) => c :: script
  | _ => source

def compile (walk : Walk) (source : Text) (path : Path) : CompiledUnit :=
  walk.compiler.compileDependency (.ofTree walk.workspace.files) source path

/-- Walks one import after another; `visit` walks the imports of a unit that one of them leads to. -/
def visitAll (walk : Walk) (visit : Visit) (file : Path) (crumb : Breadcrumb) :
    List Text → State → Outcome
  | [], state => (.ok (), state)
  | specifier :: specifiers, state =>
    if walk.hasRuntime ∧ specifier = runtimeSpecifier then
      walk.visitAll visit file crumb specifiers state
    else
      match walk.resolver.resolve? walk.workspace.files specifier file with
      | none => (.error (.moduleNotFound specifier), state)
      | some ⟨path, _⟩ =>
        let next := crumb.child specifier
        match state.inProgress.script? path with
        | some script => walk.visitAll visit file crumb specifiers (state.reuse next path script)
        | none =>
          match walk.workspace.require path specifier with
          | .error failure => (.error failure, state)
          | .ok source =>
            let unit := walk.compile source path
            match visit (scanned unit source) path next (state.enter next path unit) with
            | (.ok (), state) => walk.visitAll visit file crumb specifiers (state.leave path)
            | (.error failure, state) => (.error failure, state.leave path)

/-- Walks the imports in a script, on a way that gets at most `n` units longer. -/
def visitWithin (walk : Walk) : (n : Nat) → Visit
  | 0, _, _, _, state => (.error .endless, state)
  | n + 1, script, file, crumb, state =>
    walk.visitAll (walk.visitWithin n) file crumb (Import.specifiers script) state

/-- How many units the way can still take up: the spellings of what can be loaded that are not on it. -/
def room (walk : Walk) (chain : Chain) : Nat :=
  (walk.workspace.spellings.filter fun spelling =>
    chain.all fun unit => unit.1.components ≠ spelling).length

def visit (walk : Walk) : Visit := fun script file crumb state =>
  walk.visitWithin (walk.room state.inProgress + 1) script file crumb state

end Walk

/-- How bundles are made: a compiler and the script that answers the runtime specifier. -/
structure Bundler where
  compiler : UnitCompiler
  runtime : Option Text := none

namespace Bundler

def recordRuntime (bundler : Bundler) (bundle : Bundle) : Bundle :=
  match bundler.runtime with
  | some runtime =>
    bundle.place (Breadcrumb.entry.child runtimeSpecifier) runtimeSpecifier (some runtime)
  | none => bundle

/-- The aliases of the project that the directory of packages, or else the entry, is in. -/
def aliases? (tree : FileTree) (moduleDirectory : Option Path) (file : Path) :
    Option Alias.Table :=
  ((moduleDirectory.bind Path.parent?).or file.parent?).bind (Alias.Table.discover? tree)

def entry (bundler : Bundler) (workspace : Workspace) (source : Text) (file : Path)
    (options : GenerateOptions) : CompiledUnit :=
  bundler.compiler.compileComponent (.ofTree workspace.files) source file
    { options.compileOptions with stripImports := false }

def walk (bundler : Bundler) (workspace : Workspace) (file : Path) (options : GenerateOptions) :
    Walk :=
  let tree := workspace.files
  let moduleDirectory := options.moduleDirectory.or (tree.moduleDirectory? file)
  { workspace
    compiler := bundler.compiler
    resolver := .make tree moduleDirectory (aliases? tree moduleDirectory file)
    hasRuntime := bundler.runtime.isSome }

/-- The entry as it is recorded, without the imports at its front if they are to go. -/
def recorded (entry : CompiledUnit) (options : GenerateOptions) : CompiledUnit :=
  if options.stripImports then { entry with script := entry.script.map Import.stripLeading }
  else entry

/-- What a walk begins with: the entry is recorded and on the way, and the runtime script is there. -/
def start (bundler : Bundler) (entry : CompiledUnit) (file : Path) : Walk.State :=
  ⟨bundler.recordRuntime (({} : Bundle).record .entry entry), Chain.insert [] file entry.script⟩

/-- The bundle of an entry. Imports are looked for before the entry loses its own. -/
def generate (bundler : Bundler) (workspace : Workspace) (source : Text) (path : Path)
    (options : GenerateOptions) : Bundle :=
  let file := path.absolute workspace.files.workingDirectory
  let entry := bundler.entry workspace source file options
  if entry.hasErrors then .failed entry.diagnostics
  else
    match (bundler.walk workspace file options).visit (entry.script.getD []) file .entry
        (bundler.start (recorded entry options) file) with
    | (.ok (), state) => state.bundle
    | (.error failure, _) => .failed [failure.diagnostic]

end Bundler

end ComponentBundle
