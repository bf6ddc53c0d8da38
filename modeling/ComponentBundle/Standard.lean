import ComponentBundle.Markup.Component
import ComponentBundle.Script.Toolchain
import ComponentBundle.Style.Compile
import ComponentBundle.Walk

/-!
# The standard compiler

The preprocessors for typed scripts and for the two notations of nested styles, and the compiler that
uses them.
-/
namespace ComponentBundle

open Markup

def Script.Failure.position (failure : Script.Failure) (script : Text) : Option Position :=
  failure.offset.map (Position.ofOffset script)

/-- Whether the attributes of a block name a language, by itself or as the kind of text. -/
def hasLanguage (attributes : Attributes) (language : Text) : Bool :=
  attributes.get? "lang".toList == some language ||
    attributes.get? "type".toList == some ("text/".toList ++ language)

def isTyped (attributes : Attributes) : Bool :=
  attributes.get? "lang".toList == some "ts".toList || hasLanguage attributes "typescript".toList

/-- Takes the types out of typed scripts. Imports stay, since markup may use them. -/
def typedScripts : Preprocessor where
  name := "typescript".toList
  script content attributes _ :=
    if isTyped attributes then
      match Script.lower true content with
      | .ok script => .ok (some script)
      | .error failure =>
        .error ⟨"typescript".toList, failure.message, failure.position content⟩
    else .ok none

def nestedStyles (name : Text) (form : Style.Form) : Preprocessor where
  name := name
  style files content attributes file :=
    if hasLanguage attributes name then
      match Style.compile form files file content with
      | .ok style => .ok (some style)
      | .error message => .error ⟨name, message, none⟩
    else .ok none

def standardPipeline : Pipeline :=
  [nestedStyles "scss".toList .braces, typedScripts, nestedStyles "sass".toList .indented]

/-- The compiler of typed scripts outside components. An import whose names are not used as values
goes. -/
def compileScript : ScriptCompiler := fun source =>
  match Script.lower false source with
  | .ok script => .ok script
  | .error failure => .error ⟨failure.message, failure.position source⟩

/-- A compiler with the given preprocessors and the standard treatment of all else. -/
def UnitCompiler.ofPipeline (pipeline : Pipeline) : UnitCompiler :=
  ⟨pipeline, Markup.compile, compileScript⟩

def UnitCompiler.standard : UnitCompiler := .ofPipeline standardPipeline

/-- Makes bundles with the standard compiler and without a runtime script. -/
def Bundler.standard : Bundler := { compiler := .standard }

end ComponentBundle
