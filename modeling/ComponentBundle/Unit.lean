import ComponentBundle.Diagnostic
import ComponentBundle.Import.Mount
import ComponentBundle.Import.Specifier
import ComponentBundle.Options
import ComponentBundle.Preprocess

/-!
# Units

A unit is one source file of a bundle, compiled to a script, a style and diagnostics. What its kind
is, its path tells. A unit that cannot be compiled is a unit too: it has an empty script, no style and
one error.
-/
namespace ComponentBundle

/-- What a source file is compiled as. -/
inductive UnitKind where
  | component
  | typeScript
  | javaScript
  | unrecognized
  deriving DecidableEq

def UnitKind.ofPath (p : Path) : UnitKind :=
  match p.extension? with
  | none => .unrecognized
  | some ending =>
    if ending = "svelte".toList then .component
    else if ending = "ts".toList then .typeScript
    else if ending = "js".toList ∨ ending = "mjs".toList then .javaScript
    else .unrecognized

/-- A compiled source file; no script when its kind has none. -/
structure CompiledUnit where
  path : Path
  kind : UnitKind
  script : Option Text
  style : Text
  diagnostics : List Diagnostic

/-- Why a component or script was refused, and where. -/
structure CompileFailure where
  message : Text
  position : Option Position
  deriving DecidableEq

def CompileFailure.diagnostic (failure : CompileFailure) : Diagnostic :=
  .error (failure.position.getD .zero) failure.message

/-- A failed preprocessor makes compilation fail at the same place. -/
def PreprocessFailure.compileFailure (failure : PreprocessFailure) : CompileFailure :=
  ⟨failure.display, failure.position⟩

structure MarkupOutput where
  script : Text
  style : Text
  warnings : List Diagnostic

/-- A compiler of preprocessed components. -/
abbrev MarkupCompiler := Text → Path → Except CompileFailure MarkupOutput

abbrev ScriptCompiler := Text → Except CompileFailure Text

structure UnitCompiler where
  pipeline : Pipeline
  markup : MarkupCompiler
  script : ScriptCompiler

namespace CompiledUnit

/-- Whether some diagnostic of the unit is an error. -/
def hasErrors (unit : CompiledUnit) : Bool := ComponentBundle.hasErrors unit.diagnostics

/-- A unit that could not be compiled. -/
def failed (path : Path) (kind : UnitKind) (diagnostic : Diagnostic) : CompiledUnit :=
  ⟨path, kind, some [], [], [diagnostic.inFile path]⟩

def plain (path : Path) (kind : UnitKind) (script : Option Text) : CompiledUnit :=
  ⟨path, kind, script, [], []⟩

end CompiledUnit

namespace UnitCompiler

/-- The script of a component with the options carried out. -/
def finish (options : CompileOptions) (script : Text) : Text :=
  let script := if options.stripImports then Import.stripLeading script else script
  if options.autoMount then Import.mount options.mountTarget script else script

def compileComponent (compiler : UnitCompiler) (files : Style.Files) (source : Text) (path : Path)
    (options : CompileOptions) : CompiledUnit :=
  match compiler.pipeline.run files source path with
  | .error failure => .failed path .component failure.compileFailure.diagnostic
  | .ok none => .failed path .component (.error .none "failed to preprocess".toList)
  | .ok (some code) =>
    match compiler.markup code path with
    | .error failure => .failed path .component failure.diagnostic
    | .ok output =>
      ⟨path, .component, some (finish options output.script), output.style,
        output.warnings.map (·.inFile path)⟩

/-- Compiles a unit that an import asks for, as its kind says. -/
def compileDependency (compiler : UnitCompiler) (files : Style.Files) (source : Text) (path : Path) :
    CompiledUnit :=
  match UnitKind.ofPath path with
  | .component => compiler.compileComponent files source path {}
  | .typeScript =>
    match compiler.script source with
    | .ok script => .plain path .typeScript (some script)
    | .error failure => .failed path .typeScript (.error .zero failure.message)
  | .javaScript => .plain path .javaScript (some source)
  | .unrecognized => .plain path .unrecognized none

end UnitCompiler

end ComponentBundle
