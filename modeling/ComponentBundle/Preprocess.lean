import ComponentBundle.Markup.Attribute
import ComponentBundle.Markup.Block
import ComponentBundle.Style.Files
import ComponentBundle.Text.Position

/-!
# Preprocessing

A pipeline of preprocessors rewrites a component before it is compiled: all of them look at the whole
text, then all of them at each script block, then at each style block. One that has nothing to say
leaves what it is given.
-/
namespace ComponentBundle

open Markup

/-- Why a preprocessor gave up, and where in what it was given. -/
structure PreprocessFailure where
  preprocessor : Text
  message : Text
  position : Option Position
  deriving DecidableEq

/-- The wording of a failure, with the name of the preprocessor. -/
def PreprocessFailure.display (failure : PreprocessFailure) : Text :=
  '[' :: failure.preprocessor ++ ']' :: ' ' :: failure.message

/-- What a preprocessor answers: a new text, nothing, or a failure. -/
abbrev Rewriting := Except PreprocessFailure (Option Text)

structure Preprocessor where
  name : Text
  markup : Text → Path → Rewriting := fun _ _ => .ok none
  script : Text → Attributes → Path → Rewriting := fun _ _ _ => .ok none
  style : Style.Files → Text → Attributes → Path → Rewriting := fun _ _ _ _ => .ok none

abbrev Pipeline := List Preprocessor

namespace Pipeline

/-- Runs the hooks one after the other, each on what the ones before it have made of the text. -/
def chain (hooks : List (Text → Rewriting)) (text : Text) : Except PreprocessFailure Text :=
  hooks.foldlM (fun text hook => (hook text).map (·.getD text)) text

def render (tag : Tag) (attributes body : Text) : Text :=
  '<' :: tag.name ++ attributes ++ '>' :: body ++ '<' :: '/' :: tag.name ++ ['>']

def moveFailure (before : Text) (failure : PreprocessFailure) : PreprocessFailure :=
  { failure with position := failure.position.map (·.shift (Position.after before)) }

/-- Rewrites the bodies of the blocks among the pieces that follow `before`. -/
def rewriteAfter (tag : Tag) (hooks : Attributes → List (Text → Rewriting)) (before : Text) :
    List Piece → Except PreprocessFailure Text
  | [] => .ok []
  | .outside text :: pieces =>
    (rewriteAfter tag hooks (before ++ text) pieces).map (text ++ ·)
  | .block found :: pieces =>
    match chain (hooks (Attributes.ofText found.attributes)) found.body with
    | .error failure =>
      .error (moveFailure (before ++ found.opening ++ found.attributes ++ ['>']) failure)
    | .ok body =>
      (rewriteAfter tag hooks (before ++ found.text) pieces).map
        (render tag found.attributes body ++ ·)

def rewriteBlocks (tag : Tag) (hooks : Attributes → List (Text → Rewriting)) (component : Text) :
    Except PreprocessFailure Text :=
  rewriteAfter tag hooks [] (pieces tag component)

/-- Runs the pipeline over a component; nothing when only blanks come out. -/
def run (pipeline : Pipeline) (files : Style.Files) (source : Text) (file : Path) : Rewriting := do
  let code ← chain (pipeline.map fun p text => p.markup text file) source
  let code ← rewriteBlocks .script
    (fun attributes => pipeline.map fun p body => p.script body attributes file) code
  let code ← rewriteBlocks .style
    (fun attributes => pipeline.map fun p body => p.style files body attributes file) code
  pure (if code.all Text.isBlank then none else some code)

end Pipeline

end ComponentBundle
