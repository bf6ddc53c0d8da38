import ComponentBundle.Script.Outline
import ComponentBundle.Script.Parser.Statement

/-!
# Parsing scripts

The rules of the grammar tied together, with a bound on how deep they may be nested that no script
reaches, and the scripts that they accept.
-/
namespace ComponentBundle.Script

open Script.Parser

/-- The rules of the grammar, nested at most `n` deep. -/
def rules : (n : Nat) → (goal : Goal) → Parser goal.Result
  | 0, _ => unexpected
  | n + 1, goal =>
    let g : Grammar := ⟨rules n⟩
    match goal with
    | .expression => expressionRule g
    | .assignment returns => assignmentRule g returns
    | .binary strength => binaryRule g strength
    | .unary => unaryRule g
    | .member => memberRule g
    | .statement isSingle => statementRule g isSingle
    | .pattern => patternRule g
    | .type => typeRule g

def requireDistinctExports (exports : List (String × Nat)) : Parser Unit :=
  (repeatedNames [] exports).forM fun (name, offset) =>
    note ("Duplicated export '" ++ name ++ "'") offset

def programRule (g : Grammar) : Parser Program := do
  let statements ← iterate (fun found => do
    if ← isFinish then return .inr found.reverse else return .inl ((← g.statement) :: found)) []
  let s ← get
  for offset in s.covers do
    note "Invalid assignment in object literal" offset
  if s.failures.isEmpty && s.faults.isEmpty && s.covers.isEmpty && !s.context.isTyped then
    requireDistinctExports s.exports
  let s ← get
  match s.failures, s.faults with
  | [], [] =>
    let (directives, body) := splitDirectives statements
    return {
      directives, body, comments := s.comments.reverse, names := s.names, declared := s.declared
      length := s.token.start }
  | _, _ => stopAt "" 0

/-- The first line of a script if it names a program that runs it. -/
def hashbang? : Text → Option Text
  | '#' :: '!' :: rest => some (rest.takeWhile (!Lexer.isLineEnd ·))
  | _ => none

def parse (isTyped : Bool) (text : Text) : Except Failure Program :=
  let hashbang := hashbang? text
  let skipped := match hashbang with
    | some line => '#' :: '!' :: line
    | none => []
  let place := Text.byteLength skipped
  let start : State := {
    context := { isTyped }, token := { (Lexer.token false 0 []).token with stop := place }
    here := text, rest := [] }
  let start := start.next false { sawNewline := true } place (text.drop skipped.length)
  match programRule ⟨rules (32 * (text.length + 1))⟩ start with
  | .ok (program, _) => .ok { program with hashbang := hashbang.map String.ofList }
  | .error halt => .error ⟨halt.fault.message.toList, some halt.fault.offset⟩

def Stmt.itemKind (stmt : Stmt) : ItemKind :=
  match stmt.node with
  | .importDecl .. => .importDeclaration
  | .exportDefault _ | .exportDefaultDecl _ => .defaultExport
  | _ => .statement

/-- The statements at the top of a script without types. -/
def outline (text : Text) : Except Failure (List Item) := do
  let program ← parse false text
  return program.directives.map (fun (start, stop, _) => ⟨.directive, start, stop⟩) ++
    program.body.map fun stmt => ⟨stmt.itemKind, stmt.start, stmt.stop⟩

end ComponentBundle.Script
