import ComponentBundle.Style.Parser.Reader
import ComponentBundle.Style.Tree

/-!
# Leaving parts of a style sheet

A block may leave the parts of the style sheet that it stands in: rules, or what a query names.
-/
namespace ComponentBundle.Style

/-- What a block leaves: the parts named, or all but those. -/
structure Leaving where
  isWith : Bool := false
  names : List String := ["rule"]

namespace Leaving

def leavesName (l : Leaving) (name : String) : Bool :=
  (l.names.contains "all" || l.names.contains name) != l.isWith

/-- Whether a part of a style sheet is left. -/
def leaves (l : Leaving) (kind : NodeKind) : Bool :=
  match kind with
  | .rule _ => l.leavesName "rule"
  | .media _ => l.leavesName "media"
  | .supports _ => l.leavesName "supports"
  | .atRule name _ _ => l.leavesName name.toLower
  | _ => l.names.contains "all" && !l.isWith

open Style.Parser

def reader : Parser Leaving := do
  expect '('
  skipGaps
  let isWith ← scanName "with"
  if !isWith then expectName "without"
  skipGaps
  expect ':'
  skipGaps
  let names ← iterate (fun (found : List String) => do
    let found := (← name).toLower :: found
    skipGaps
    if ← isAtName then return .inl found
    return .inr found) []
  expect ')'
  if (← peek).isSome then stop "expected no more input."
  return { isWith, names }

/-- Reads a query that expressions at a place result in. -/
def parse (text : String) (span : Span) : Except Fault Leaving :=
  (reader (.ofText .braces text span)).map (·.1)

end Leaving

end ComponentBundle.Style
