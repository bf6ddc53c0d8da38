import ComponentBundle.Style.Evaluate.Loading
import ComponentBundle.Style.Evaluate.Term

/-!
# Statements

What the statements of a style do: they give values to names, repeat blocks, use mixins, bring other
files in, and add to the style sheet.
-/
namespace ComponentBundle.Style.Eval

variable (i : Interpreter) (c : Context)

def branches (otherwise : Option (List Statement)) :
    List (Term × List Statement) → Eval (Option Value)
  | [] => do
    match otherwise with
    | some body => i.body (← inFrame c true) body
    | none => return none
  | (test, body) :: rest => do
    if (← i.term c test).isTruthy then i.body (← inFrame c true) body
    else branches otherwise rest

/-- A block for each value, until one returns. All share one frame. -/
def forEach {α : Type} (declare : Nat → α → Eval Unit) (body : List Statement) (list : List α) :
    Eval (Option Value) := do
  let inner ← inFrame c true
  list.foldlM (fun (result : Option Value) a => do
    if result.isSome then return result
    declare (inner.scopes.headD 0) a
    i.body inner body) none

/-- A block as long as a condition holds, at most `n` times. -/
def repeated (test : Term) (body : List Statement) : (n : Nat) → Eval (Option Value)
  | 0 => stop "The loop is too long." test.span
  | n + 1 => do
    if !(← i.term c test).isTruthy then return none
    match ← i.body c body with
    | some value => return some value
    | none => repeated test body n

def range (first last : Int) (isExclusive : Bool) : List Int :=
  let length := (last - first).natAbs + (if isExclusive then 0 else 1)
  (List.range length).map fun (n : Nat) =>
    if first ≤ last then first + (n : Int) else first - (n : Int)

def bound (t : Term) : Eval Measure := do
  match ← i.term c t with
  | .number m _ => return m
  | value => stop (value.shown ++ " is not a number.") t.span

def count (name : String) (first last : Term) (isExclusive : Bool) (body : List Statement) :
    Eval (Option Value) := do
  let low ← bound i c first
  let high ← bound i c last
  let some value := high.valueIn? low
    | stop "to and from values have incompatible units" last.span
  let start ← ofOutcome (low.asInteger "") first.span
  let final ← ofOutcome ({ high with value }.asInteger "") last.span
  forEach i c (fun owner (n : Int) => do
    match Value.ofInt n with
    | .number m _ => define owner name (.number (Measure.withUnits m.value low) none)
    | value => define owner name value) body (range start final isExclusive)

/-- A block for each item of a list, whose parts go to names. -/
def each (names : List String) (items : Term) (body : List Statement) : Eval (Option Value) := do
  let value ← i.term c items
  forEach i c (fun owner (item : Value) => do
    match names with
    | [only] => define owner only item.withoutQuotient
    | several =>
      for (name, n) in several.zipIdx do
        define owner name ((item.items[n]?).getD .null).withoutQuotient) body value.items

/-- Whether a variable has a value that a default does not replace. -/
def hasValue (r : Reference) (span : Span) : Eval Bool := do
  let found ← match r.space with
    | some _ => findVariable c r span
    | none => localVariable? c r.name
  return match found with
    | none | some .null => false
    | some _ => true

/-- Gives a value to a variable, unless it is a default and the variable has one. -/
def assignVariable (r : Reference) (value : Term) (isDefault isGlobal : Bool) (span : Span) :
    Eval Unit := do
  if isDefault then
    if r.space.isNone && c.isAtTop then
      if let some given ← takeSetting c.settings r.name then
        return ← assign c r.name given true span
    if ← hasValue c r span then return ()
  let found := (← i.term c value).withoutQuotient
  match r.space with
  | none => assign c r.name found isGlobal span
  | some space => assignInModule c r space found span

def useMixin (r : Reference) (span : Span) (arguments : Arguments)
    (content : Option (Parameters × List Statement)) : Eval Unit := do
  match ← findMixin c r span with
  | none => stop "Undefined mixin." span
  | some .loadStyles =>
    if content.isSome then stop "Mixin doesn't accept a content block." span
    loadStyles i c (← passed i c arguments span)
  | some (.written m) =>
    if content.isSome && !m.takesContent then stop "Mixin doesn't accept a content block." span
    let c := { c with isInMixin := true }
    let given ← passed i c arguments span
    let block := content.map fun (parameters, body) =>
      Content.mk parameters body c.scopes c.content
    let inner ← inFrame { c with scopes := m.scopes, content := block } false
    withArguments i inner m.parameters given (run i inner m.body)

def useContent (arguments : Arguments) : Eval Unit := do
  match c.content with
  | none => return ()
  | some (.mk parameters body scopes outer) =>
    let given ← passed i c arguments arguments.span
    let inner ← inFrame { c with scopes, content := outer } false
    withArguments i inner parameters given (run i inner body)

def column (span : Span) : Nat := (span.source.location span.start).2

/-- Evaluates a statement; the value is the one that it returns, if it does. -/
def statement (s : Statement) : Eval (Option Value) := do
  match s.node with
  | .assign name value isDefault isGlobal =>
    assignVariable i c name value isDefault isGlobal s.span
    return none
  | .rule selector selectorSpan body =>
    rule i c selector selectorSpan body s.span
    return none
  | .property name value body isCustom =>
    property i c name value body isCustom s.span
    return none
  | .comment pieces =>
    if !c.isInFunction then
      addNode c (.comment (← piecesText i c pieces) (column s.span))
    return none
  | .branches list otherwise => branches i c otherwise list
  | .each names items body => each i c names items body
  | .count name first last isExclusive body => count i c name first last isExclusive body
  | .repetition test body => repeated i (← inFrame c true) test body 100000
  | .mixin name parameters body takesContent =>
    modifyFrame (c.scopes.headD 0) fun f =>
      { f with mixins := put f.mixins name ⟨parameters, body, c.scopes, takesContent⟩ }
    return none
  | .function name parameters body =>
    let place := (← get).functions.size
    modify fun e => { e with functions := e.functions.push ⟨parameters, body, c.scopes, false⟩ }
    modifyFrame (c.scopes.headD 0) fun f => { f with functions := put f.functions name place }
    return none
  | .useMixin reference nameSpan arguments content =>
    useMixin i c reference nameSpan arguments content
    return none
  | .content arguments =>
    useContent i c arguments
    return none
  | .result value => return some (← i.term c value).withoutQuotient
  | .inherit selector span _ =>
    inherit i c selector span
    return none
  | .importing items =>
    importAll i c items
    return none
  | .useModule url space settings =>
    useModule i c url space settings s.span
    return none
  | .forward url selection settings =>
    forward i c url selection settings s.span
    return none
  | .media query querySpan body =>
    media i c query querySpan body s.span
    return none
  | .supports condition body =>
    supports i c condition body s.span
    return none
  | .atRule name value body =>
    otherRule i c name value body s.span
    return none
  | .atRoot query body =>
    atRoot i c query body
    return none
  | .note value isWarning =>
    let found ← i.term c value
    if isWarning then
      let _ ← ofOutcome found.css value.span
    return none
  | .stop value => stop (← i.term c value).shown value.span

def body : List Statement → Eval (Option Value)
  | [] => return none
  | s :: rest => do
    match ← statement i c s with
    | some value => return some value
    | none => body rest

end ComponentBundle.Style.Eval
