import ComponentBundle.Style.Builtin.Given
import ComponentBundle.Style.Selector.Extend
import ComponentBundle.Style.Selector.Nesting
import ComponentBundle.Style.Selector.Parser

/-!
# Functions of selectors

A selector is given as a text, or as a list of texts or of lists of them, and results in a list of
lists of texts.
-/
namespace ComponentBundle.Style

/-- A selector as a list of lists of texts. -/
def Selector.value (selector : Selector) : Value :=
  .list (selector.map fun complex =>
    .list (complex.parts.map fun part => .plain (partsText [part])) .space false) .comma false

namespace Builtin

open Value

/-- The texts of strings with a mark between them. -/
def joinedTexts? (mark : String) (values : List Value) : Option String :=
  (values.mapM fun (value : Value) => match value with
    | .string text _ => some text
    | _ => none).map mark.intercalate

def selectorText? : Value → Option String
  | .string text _ => some text
  | .list [] _ _ => none
  | .list items .comma _ =>
    (items.mapM fun (item : Value) => match item with
      | .string text _ => some text
      | .list [] _ _ | .list _ .comma _ | .list _ .slash _ => none
      | .list inner _ _ => joinedTexts? " " inner
      | _ => none).map ", ".intercalate
  | .list _ .slash _ => none
  | .list items _ _ => joinedTexts? " " items
  | _ => none

def selectorOf (value : Value) (name : String) (allowsParent : Bool) : Call Selector := do
  match selectorText? value with
  | some text =>
    let span := (← get).span
    match parseSelector ⟨allowsParent, true, span⟩ text with
    | .ok found => return found
    | .error fault => throw fault
  | none =>
    Call.stop ("$" ++ name ++ ": " ++ value.shown ++ " is not a valid selector: it must be a string, " ++
      "a list of strings, or a list of lists of strings.")

def selectorAt (place : Nat) (name : String) (allowsParent : Bool) : Call Selector := do
  selectorOf (← Call.arg place name) name allowsParent

def allSelectors (allowsParent : Bool) : Call (List Selector) := do
  let values ← Call.others
  if values.isEmpty then Call.stop "$selectors: At least one selector must be passed."
  values.mapM fun value => selectorOf value "selectors" allowsParent

/-- Whether a selector matches all that another one matches. -/
def isSuperselector : Builtin := do
  Call.atMost 2
  let general ← selectorAt 0 "super" false
  let special ← selectorAt 1 "sub" false
  return .bool (general.covers special)

def simpleSelectors : Builtin := do
  Call.atMost 1
  match ← selectorAt 0 "selector" false with
  | [complex] =>
    match complex.parts with
    | .compound simples :: _ =>
      return .list (simples.map fun simple => plain simple.text) .comma false
    | _ => Call.stop "$selector: expected selector."
  | _ => Call.stop "$selector: expected selector."

def parsedSelector : Builtin := do
  Call.atMost 1
  return (← selectorAt 0 "selector" false).value

/-- Selectors nested in each other, the first one outside. -/
def nestedSelectors : Builtin := do
  let selectors ← allSelectors true
  let found ← selectors.foldlM (fun (parent : Option Selector) (child : Selector) => do
    return some (← (child.nestedIn parent true : Outcome Selector))) none
  return (found.getD []).value

/-- A complex selector that goes on with another one without a blank. -/
def behindParent? (complex : Complex) : Option Complex :=
  match complex.parts with
  | .compound (.universal _ :: _) :: _ | .compound (.type (some _) _ :: _) :: _ => none
  | .compound (.type none name :: more) :: rest =>
    some (.mk (.compound (.parent (some name) :: more) :: rest) false)
  | .compound simples :: rest => some (.mk (.compound (.parent none :: simples) :: rest) false)
  | _ => none

/-- Selectors written behind each other without blanks. -/
def appendedSelectors : Builtin := do
  match ← allSelectors false with
  | [] => return .null
  | first :: rest =>
    let found ← rest.foldlM (fun (parent : Selector) (child : Selector) => do
      let joined ← child.mapM fun complex =>
        match behindParent? complex with
        | some found => pure found
        | none =>
          Call.stop ("Can't append " ++ complex.text ++ " to " ++ selectorText parent ++ ".")
      (Selector.nestedIn joined (some parent) false : Outcome Selector)) first
    return found.value

def changedSelector (mode : ExtendMode) (target source : String) (allowsParent : Bool) : Builtin := do
  Call.atMost 3
  let list ← selectorAt 0 "selector" allowsParent
  let targets ← selectorAt 1 target allowsParent
  let found ← selectorAt 2 source allowsParent
  return (← (list.extended found targets mode : Outcome Selector)).value

def unifiedSelector : Builtin := do
  Call.atMost 2
  let one (place : Nat) (name : String) : Call Selector := do
    let found ← selectorAt place name true
    if selectorRefersToParent found then
      Call.stop ("$" ++ name ++ ": Parent selectors aren't allowed here.")
    return found
  let first ← one 0 "selector1"
  let second ← one 1 "selector2"
  return match first.unify second with
    | some found => found.value
    | none => .null

def selectorFunctions : List (String × String × Builtin) := [
  ("is-superselector", "is-superselector", isSuperselector),
  ("simple-selectors", "simple-selectors", simpleSelectors),
  ("selector-parse", "parse", parsedSelector), ("selector-nest", "nest", nestedSelectors),
  ("selector-append", "append", appendedSelectors),
  ("selector-extend", "extend", changedSelector .nextToAll "extendee" "extender" false),
  ("selector-replace", "replace", changedSelector .instead "original" "replacement" true),
  ("selector-unify", "unify", unifiedSelector)]

end Builtin

end ComponentBundle.Style
