import ComponentBundle.Script.Printer.Statement

/-!
# Printing scripts
-/
namespace ComponentBundle.Script

/-- Prints phrases that are nested at most `n` deep. -/
def phraseText (comments : List Comment) : (n : Nat) → (depth : Nat) → Phrase → String
  | 0, _, _ => ""
  | n + 1, depth, phrase =>
    let w : Writer := ⟨comments, depth, phraseText comments n⟩
    match phrase with
    | .expr place value => Printer.expr w place value
    | .pattern binds value => Printer.pattern w binds value
    | .statements body => String.join (body.map (Printer.line w))
    | .statement value => Printer.node w value.node

def Program.text (program : Program) : String :=
  let w : Writer := ⟨program.comments, 0, phraseText program.comments (64 * (program.length + 64))⟩
  let directives := program.directives.map fun (start, _, text) =>
    w.line start (Literal.directive text ++ ";")
  ((program.hashbang.map fun line => "#!" ++ line ++ "\n").getD "") ++ String.join directives ++
    w.statements program.body ++ w.commentsAt program.length

end ComponentBundle.Script
