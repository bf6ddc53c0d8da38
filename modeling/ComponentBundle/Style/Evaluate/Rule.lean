import ComponentBundle.Style.Evaluate.Interpreter
import ComponentBundle.Style.Keyframe
import ComponentBundle.Style.Leaving

/-!
# Rules

What rules add to the style sheet, and where. A rule in a rule stands behind it; a rule for a medium
in a rule stands behind it too, with the rule in it.
-/
namespace ComponentBundle.Style.Eval

variable (i : Interpreter) (c : Context)

/-- Evaluates a block. What a function returns is returned in no other block. -/
def run (body : List Statement) : Eval Unit := do
  let _ ← i.body c body

/-- Evaluates a block in a new part of the style sheet. -/
def inNode (leaves : NodeKind → Bool) (kind : NodeKind) (change : Context → Context)
    (body : Context → Eval Unit) : Eval Unit := do
  let id ← addOutside c leaves kind
  body (← inFrame (change { c with parent := id }) false)

/-- Evaluates a block in a copy of the rule around, if there is one. -/
def inCopiedRule (body : List Statement) (c : Context) : Eval Unit := do
  match c.rule, c.hasRule with
  | some place, true =>
    let (tree, id) := (← get).tree.add (.rule place) c.parent
    modify fun s => { s with tree }
    run i { c with parent := id } body
  | _, _ => run i c body

def ofParser {α : Type} (found : Except Fault α) : Eval α :=
  match found with
  | .ok a => return a
  | .error fault => throw fault

/-- Notes the selector of a rule, with what is extended in it, and tells its number. -/
def addSelector (selector : Selector) : Eval Nat := do
  let s ← get
  let (found, extender) := (s.extenders.getD c.extender {}).addRule selector
  let place := s.tree.selectors.size
  let tree := { s.tree with selectors := s.tree.selectors.push ⟨c.extender, found⟩ }
  set { s with tree, extenders := s.extenders.set! c.extender extender }
  return place

def rule (pieces : List Piece) (selectorSpan : Span) (body : List Statement) (span : Span) :
    Eval Unit := do
  if c.property.isSome then
    stop "Style rules may not be used within nested declarations." span
  let text := trimmed (← piecesText i c pieces)
  if c.isInKeyframes then
    let frames ← ofParser (Keyframe.parse text selectorSpan)
    inNode c NodeKind.isRule (.keyframe (", ".intercalate frames)) id fun inner => run i inner body
  else
    let selector ← ofParser (parseSelector ⟨!c.isPlain, !c.isPlain, selectorSpan⟩ text)
    let parent ← ruleSelector c
    let selector ← ofOutcome (selector.nestedIn parent !c.isOutsideRule) selectorSpan
    let place ← addSelector c selector
    inNode c NodeKind.isRule (.rule place)
      (fun c => { c with rule := some place, isOutsideRule := false })
      fun inner => run i inner body
    if !c.hasRule then modifyTree fun tree => tree.endGroup c.parent

def property (pieces : List Piece) (value : Option Term) (body : List Statement) (isCustom : Bool)
    (span : Span) : Eval Unit := do
  if !c.hasRule && !c.isInAtRule && !c.isInKeyframes then
    stop "Declarations may only be used within style rules." span
  let name ← piecesText i c pieces
  let name := match c.property with
    | some outer => outer ++ "-" ++ name
    | none => name
  if let some t := value then
    let found ← i.term c t
    if !found.isBlank || found.items.isEmpty then
      addNode c (.declaration name found t.span isCustom)
    else if name.startsWith "--" then stop "Custom property values may not be empty." span
  if !body.isEmpty then
    let inner ← inFrame c false
    run i { inner with property := some name } body

def media (pieces : List Piece) (querySpan : Span) (body : List Statement) (span : Span) :
    Eval Unit := do
  if c.property.isSome then
    stop "Media rules may not be used within nested declarations." span
  let queries ← ofParser (MediaQuery.parse (← piecesText i c pieces) querySpan)
  let merged := c.queries.bind fun outer => MediaQuery.mergeAll outer queries
  if merged.any List.isEmpty then return ()
  let sources := if merged.isSome then c.sources ++ c.queries.getD [] ++ queries else []
  let leaves (kind : NodeKind) : Bool := match kind with
    | .rule _ => true
    | .media found => !sources.isEmpty && found.all sources.contains
    | _ => false
  let found := merged.getD queries
  inNode c leaves (.media found) (fun c => { c with queries := some found, sources })
    (inCopiedRule i body)

def parenthesized (condition : Condition) (operator : Option String) (text : String) : String :=
  match condition with
  | .negation _ => "(" ++ text ++ ")"
  | .both inner _ _ => if operator == some inner then text else "(" ++ text ++ ")"
  | _ => text

def namesCustom (name : Term) : Bool :=
  match name.node with
  | .string pieces false => (Piece.initial pieces).startsWith "--"
  | _ => false

/-- The condition of an `@supports` rule as it is written. What is wrong with a value is reported in
front of the whole style. -/
def conditionText : Condition → Eval String
  | .both operator left right => do
    let first := parenthesized left (some operator) (← conditionText left)
    let second := parenthesized right (some operator) (← conditionText right)
    return first ++ " " ++ operator ++ " " ++ second
  | .negation inner => do return "not " ++ parenthesized inner none (← conditionText inner)
  | .piece t => do ofOutcome ((← i.term c t).written false) c.front
  | .declaration name value => do
    let c := { c with isInSupports := true }
    let first ← css i c name c.front
    return "(" ++ first ++ (if namesCustom name then ":" else ": ") ++ (← css i c value c.front) ++ ")"
  | .function name argument => do
    return (← piecesText i c name) ++ "(" ++ (← piecesText i c argument) ++ ")"
  | .anything pieces => do return "(" ++ (← piecesText i c pieces) ++ ")"

def supports (condition : Condition) (body : List Statement) (span : Span) : Eval Unit := do
  if c.property.isSome then
    stop "Supports rules may not be used within nested declarations." span
  let text ← conditionText i c condition
  inNode c NodeKind.isRule (.supports text) id (inCopiedRule i body)

def isKeyframes (name : String) : Bool := unprefixed name == "keyframes"

def otherRule (pieces : List Piece) (value : Option (List Piece)) (body : Option (List Statement))
    (span : Span) : Eval Unit := do
  if c.property.isSome then stop "At-rules may not be used within nested declarations." span
  let name ← piecesText i c pieces
  let parameters ← match value with
    | some value => do pure (trimmed (← piecesText i c value))
    | none => pure ""
  match body with
  | none => addNode c (.atRule name parameters false)
  | some body =>
    let inKeyframes := isKeyframes name
    inNode c NodeKind.isRule (.atRule name parameters true)
      (fun c => { c with
        isInKeyframes := c.isInKeyframes || inKeyframes
        isInAtRule := c.isInAtRule || !inKeyframes })
      fun inner => if inner.isInKeyframes then run i inner body else inCopiedRule i body inner

/-- The parts around a part and that part itself, the outermost one first; at most `n`. -/
def chain (tree : Tree) : (n : Nat) → (id : Nat) → List Nat
  | 0, _ => []
  | n + 1, id => if id = 0 then [] else chain tree n (tree.node id).parent ++ [id]

/-- Begins the parts again that are not left, behind the last one with only such around. -/
def rebuilt (leaves : NodeKind → Bool) : Eval Nat := do
  let tree := (← get).tree
  let around := chain tree tree.nodes.size c.parent
  let kept := around.takeWhile fun id => !leaves (tree.node id).kind
  let rest := (around.drop kept.length).filter fun id => !leaves (tree.node id).kind
  rest.foldlM (fun parent id => do
    let (tree, copy) := (← get).tree.add (tree.node id).kind parent
    modify fun s => { s with tree }
    return copy) (kept.getLastD 0)

def atRoot (query : Option (List Piece × Span)) (body : List Statement) : Eval Unit := do
  let leaving ← match query with
    | some (pieces, span) => do ofParser (Leaving.parse (← piecesText i c pieces) span)
    | none => pure {}
  let parent ← rebuilt c leaving.leaves
  let leavesMedia := leaving.leavesName "media"
  let inner ← inFrame { c with
    parent
    isOutsideRule := c.isOutsideRule || leaving.leavesName "rule"
    queries := if leavesMedia then none else c.queries
    sources := if leavesMedia then [] else c.sources
    isInKeyframes := c.isInKeyframes && !leaving.leavesName "keyframes" } false
  run i inner body

/-- Lets the rule around take on the styles of a simple selector, in all rules of the file. -/
def addExtension (source : Selector) (target : Simple) : Eval Unit := do
  let s ← get
  let (extender, added) := (s.extenders.getD c.extender {}).addExtension source target
  let (selectors, extender) := s.tree.selectors.foldl (fun (found, extender) rule =>
    if added.isEmpty || rule.owner != c.extender then (found.push rule, extender)
    else
      let (selector, extender) := extender.extend added rule.selector
      (found.push { rule with selector }, extender))
    ((#[], extender) : Array RuleSelector × Extender)
  set { s with
    tree := { s.tree with selectors }
    extenders := s.extenders.set! c.extender extender }

def inherit (pieces : List Piece) (span : Span) : Eval Unit := do
  if !c.hasRule || c.property.isSome then
    stop "@extend may only be used within style rules." span
  let targets ← ofParser (parseSelector ⟨false, true, span⟩ (← piecesText i c pieces))
  for target in targets do
    match target.parts with
    | [.compound [simple]] => addExtension c ((← ruleSelector c).getD []) simple
    | [.compound simples] =>
      stop ("compound selectors may no longer be extended.\nConsider `@extend " ++
        ", ".intercalate (simples.map Simple.text) ++ "` instead.\n") span
    | _ => stop "complex selectors may not be extended." span

end ComponentBundle.Style.Eval
