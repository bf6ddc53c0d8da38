import ComponentBundle.Style.Evaluate.Statement
import ComponentBundle.Style.Sheet

/-!
# Compiling styles

A style is parsed and evaluated, and the style sheet is written.
-/
namespace ComponentBundle.Style

/-- Evaluates what is nested at most `n` deep. -/
def interpreter : (n : Nat) → Interpreter
  | 0 => {
      term := fun _ t => Eval.stop "Maximum call stack size exceeded." t.span
      body := fun c _ => Eval.stop "Maximum call stack size exceeded." c.front }
  | n + 1 =>
    let inner := interpreter n
    { term := Eval.term inner, body := Eval.body inner }

/-- How deep calls and blocks may be nested. -/
def depthLimit : Nat := 4000

def evaluate (files : Files) (directory : Option Path) (source : Source)
    (statements : List Statement) : Except Fault Tree := do
  let context : Context := { files, directory, front := ⟨source, 0, 0⟩ }
  let (_, result) ← Eval.body (interpreter depthLimit) context statements {}
  return result.tree

def compile (form : Form) (files : Files) (file : Path) (text : Text) : Except Text Text :=
  let source : Source := { name := "stdin".toList, text }
  let result : Except Fault String := do
    let tree ← evaluate files file.parent? source (← parse form source)
    tree.text
  match result with
  | .ok text => .ok text.toList
  | .error fault => .error fault.text

end ComponentBundle.Style
