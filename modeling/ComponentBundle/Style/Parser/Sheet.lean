import ComponentBundle.Style.Parser.AtRule

/-!
# Parser of styles

The rules of the grammar tied together, with a bound on how deep they may be nested that no style
reaches.
-/
namespace ComponentBundle.Style

namespace Parser

variable (g : Grammar)

/-- A statement that is no comment and gives no value to a variable of its own file. -/
def statement : Parser Statement := do
  match ← peek with
  | some '@' => atRule g
  | some '+' =>
    if !(← isIndented) || !(← isAtNameFrom 1) then return ← styleRule g [] (← place)
    let start ← place
    skip
    includeRule g start
  | some '=' =>
    if !(← isIndented) then return ← styleRule g [] (← place)
    let start ← place
    skip
    skipBlanks
    mixinRule g start
  | some '\x7d' => stop "unmatched \"\x7d\"."
  | _ =>
    let s ← surroundings
    if s.isInRule || s.isInAtRule || s.isInMixin || s.isInContent then declarationOrRule g
    else assignmentOrRule g

def functionChild : Parser Statement := do
  if ← isAt '@' then return ← innerAtRule g .function
  let before ← get
  match ← catching (do
    let start ← place
    let space ← name
    let span ← spanFrom start
    expect '.'
    assignment g (some (space, span)) start) with
  | .inl found => return found
  | .inr fault =>
    match ← attempt (declarationOrRule g) with
    | none => throw fault
    | some found =>
      set before
      let what := match found.node with
        | .rule .. => "style rules"
        | _ => "declarations"
      stopAt ("@function rules may not contain " ++ what ++ ".") found.span

/-- A statement of a block of a kind. Comments up to the end of a line are none. -/
def childRule (kind : Child) : Parser (Option Statement) := do
  match ← peek with
  | some '$' => return some (← assignment g none (← place))
  | some '/' =>
    match ← peekAt 1 with
    | some '/' =>
      lineComment
      return none
    | some '*' => return some (← comment g)
    | _ => other
  | some c => if (← isIndented) && isLineEnd c then return none else other
  | none => other
where
  /-- What is neither a comment nor gives a value to a variable. -/
  other : Parser (Option Statement) := do
    match kind with
    | .statement => return some (← statement g)
    | .declaration =>
      if ← isAt '@' then return some (← innerAtRule g .declaration)
      return some (← propertyOrAssignment g false)
    | .function => return some (← functionChild g)

/-- The rules of the grammar, nested at most `n` deep. -/
def rules : (n : Nat) → (goal : Goal) → Parser goal.Result
  | 0, _ => stop "Expected expression."
  | n + 1, goal =>
    let g : Grammar := ⟨rules n⟩
    match goal with
    | .term limit isBracketed hasSingleEqual => termRule g limit isBracketed hasSingleEqual
    | .sum => calculationSum g
    | .child kind => childRule g kind
    | .condition isPart => if isPart then conditionPartRule g else conditionRule g
    | .feature => featureRule g

def topChild : Parser (Option Statement) := do
  if ← scanText "@charset" then
    skipGaps
    let _ ← plainString
    return none
  childRule g .statement

end Parser

def parse (form : Form) (source : Source) : Except Fault (List Statement) :=
  let g : Grammar := ⟨Parser.rules (4 * (source.length + 2))⟩
  let isMarked := source.text.head? == some (Char.ofNat 0xFEFF)
  let rest := if isMarked then source.text.drop 1 else source.text
  let skipped := source.length - rest.length
  let reader : Reader := { form, source, rest, length := source.length, place := skipped }
  match Parser.sheet (Parser.topChild g) reader with
  | .ok (statements, _) => .ok statements
  | .error fault => .error fault

end ComponentBundle.Style
