import ComponentBundle.Style.Evaluate.State

/-!
# Interpreters

Values, functions and blocks refer to each other. Each rule of the evaluation is given an interpreter
of what it refers to.
-/
namespace ComponentBundle.Style

/-- What evaluates the parts of a style. -/
structure Interpreter where
  term : Context → Term → Eval Value
  /-- The value that a block returns, if it does. -/
  body : Context → List Statement → Eval (Option Value)

namespace Eval

variable (i : Interpreter) (c : Context)

def piecesText (pieces : List Piece) : Eval String :=
  pieces.foldlM (fun text piece => do
    match piece with
    | .text value => return text ++ value
    | .term t =>
      let value ← i.term c t
      return text ++ (← ofOutcome (value.written false) t.span)) ""

/-- The text of a string that holds expressions, which take the characters of other strings as they
are. -/
def stringText (pieces : List Piece) : Eval String :=
  let c := { c with isInSupports := false }
  pieces.foldlM (fun text piece => do
    match piece with
    | .text value => return text ++ value
    | .term t =>
      let value ← i.term c t
      return text ++ (← ofOutcome value.inserted t.span)) ""

def trimmed (text : String) : String :=
  let front : Text := text.toList.dropWhile isGap
  String.ofList (front.reverse.dropWhile isGap).reverse

/-- The value of an expression in a style sheet; a value that cannot stand there is reported at the
span. -/
def css (t : Term) (span : Span) : Eval String := do
  let value ← i.term c t
  ofOutcome value.css span

end Eval

end ComponentBundle.Style
