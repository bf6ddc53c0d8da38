import ComponentBundle.Style.Parser.Reader
import ComponentBundle.Style.Selector.Basic

/-!
# Parser of selectors

A selector is read once the expressions in it have been evaluated.
-/
namespace ComponentBundle.Style

namespace SelectorParser

open Style.Parser

/-- What a selector may hold, and where it stands. -/
structure Rules where
  allowsParent : Bool
  allowsPlaceholder : Bool
  span : Span

variable (rules : Rules)

def stopWhole {α : Type} (message : String) : Parser α := stopAt message rules.span

/-- A name of an element or an attribute, perhaps with a name space in front of it. -/
def qualifiedName : Parser (Option String × String) := do
  let space ← do
    if ← scan '*' then pure (some "*")
    else if ← isAt '|' then pure (some "")
    else pure none
  match space with
  | some space =>
    expect '|'
    return (some space, ← name)
  | none =>
    let first ← name
    if (← isAt '|') && (← peekAt 1) != some '=' then
      skip
      return (some first, ← name)
    return (none, first)

/-- An operator between the name of an attribute and its value. -/
def attributeOperator : Parser String := do
  match ← peek with
  | some '=' =>
    skip
    return "="
  | some c =>
    if "~|^$*".contains c then
      skip
      expect '='
      return c.toString ++ "="
    else stopWhole rules "Expected \"]\"."
  | none => stopWhole rules "Expected \"]\"."

/-- The characters of a string in quotes. -/
def quotedText : Parser String := do
  match ← peek with
  | some quote =>
    skip
    iterate (fun (found : String) => do
      match ← peek with
      | none => stop ("Expected " ++ quote.toString ++ ".")
      | some c =>
        if c = quote then
          skip
          return .inr found
        else if c = '\\' then return .inl (found.push (← escapedChar))
        else
          skip
          return .inl (found.push c)) ""
  | none => stop "Expected string."

/-- Whether a text could be read as a name that does not begin with two dashes. -/
def isName (text : String) : Bool :=
  let rest := if text.startsWith "-" then text.toList.drop 1 else text.toList
  match rest with
  | c :: rest => isNameStart c && rest.all isNamePart
  | [] => false

/-- The value of an attribute, in quotes unless it is a name. -/
def attributeValue (value : String) : String :=
  if isName value then value
  else
    let quote := if value.contains '"' && !value.contains '\'' then "'" else "\""
    let escaped (c : Char) : String :=
      if c.toString == quote || c = '\\' then "\\" ++ c.toString else c.toString
    quote ++ String.join (value.toList.map escaped) ++ quote

def attributeTest : Parser Simple := do
  skip
  skipGaps
  let (space, named) ← qualifiedName
  let named := qualified space named
  skipGaps
  if ← scan ']' then return .attribute ("[" ++ named ++ "]")
  let operator ← attributeOperator rules
  skipGaps
  let value ← if (← isAt '"') || (← isAt '\'') then quotedText else name
  skipGaps
  let modifier ← match ← peek with
    | some c =>
      if c.isAlpha then
        skip
        pure (" " ++ c.toString)
      else pure ""
    | none => pure ""
  skipGaps
  expect ']'
  return .attribute ("[" ++ named ++ operator ++ attributeValue value ++ modifier ++ "]")

/-- A text with its brackets closed, up to the parenthesis that closes it. -/
def balanced : Parser String :=
  iterate (fun (found, closers) => do
    let raw (p : Parser Unit) : Parser ((String × List Char) ⊕ String) := do
      return .inl (found ++ (← rawText p), closers)
    match ← peek with
    | none =>
      match closers with
      | [] => return .inr found
      | closer :: _ =>
        expect closer
        return .inr found
    | some '\\' => return .inl (found ++ (← escape true), closers)
    | some '"' | some '\'' => raw (do let _ ← quotedText)
    | some '/' => if ← isAtText "/*".toList then raw skipBlockComment else raw skip
    | some c =>
      if c = '(' || c = '[' || c = '\x7b' then
        skip
        let closer := if c = '(' then ')' else if c = '[' then ']' else '\x7d'
        return .inl (found.push c, closer :: closers)
      else if c = ')' || c = ']' || c = '\x7d' then
        match closers with
        | [] => return .inr found
        | closer :: rest =>
          expect closer
          return .inl (found.push c, rest)
      else if c = ';' && closers.isEmpty then return .inr found
      else if ← isAtName then return .inl (found ++ (← name), closers)
      else if isGap c then
        let _ ← takeWhile isGap
        return .inl (found.push (if isLineEnd c then '\n' else ' '), closers)
      else raw skip) (("", []) : String × List Char)

/-- A formula for the places of elements, without blanks. -/
def formula : Parser String := do
  if ← scanName "even" then return "even"
  if ← scanName "odd" then return "odd"
  let sign ← if ← scan '+' then pure "+" else if ← scan '-' then pure "-" else pure ""
  let digits ← takeWhile Char.isDigit
  let first := sign ++ String.ofList digits
  if !digits.isEmpty then skipGaps
  match ← peek with
  | some c =>
    if c = 'n' || c = 'N' then
      skip
      skipGaps
      match ← peek with
      | some d =>
        if d = '+' || d = '-' then
          skip
          skipGaps
          let last ← takeWhile Char.isDigit
          if last.isEmpty then stopWhole rules "Expected a number."
          return first ++ "n" ++ d.toString ++ String.ofList last
        else return first ++ "n"
      | none => return first ++ "n"
    else if digits.isEmpty then stopWhole rules "Expected \"n\"."
    else return first
  | none => if digits.isEmpty then stopWhole rules "Expected \"n\"." else return first

def selectorClasses : List String :=
  ["not", "is", "matches", "where", "current", "any", "has", "host", "host-context"]

variable (selector : Parser Selector)

def pseudo : Parser Simple := do
  skip
  let isElement ← scan ':'
  let named ← name
  if !(← scan '(') then return .pseudo named isElement none none
  skipGaps
  let plain := unprefixed named
  let finish (argument : Option String) (inner : Option Selector) : Parser Simple := do
    expect ')'
    return .pseudo named isElement argument inner
  if isElement then
    if plain == "slotted" then finish none (some (← selector))
    else finish (some (← balanced)) none
  else if selectorClasses.contains plain then finish none (some (← selector))
  else if plain == "nth-child" || plain == "nth-last-child" then
    let found ← formula rules
    skipGaps
    if isGap (← get).last && !(← isAt ')') then
      expectName "of"
      skipGaps
      finish (some (found ++ " of")) (some (← selector))
    else finish (some found) none
  else
    let found : Text := (← balanced).toList.reverse.dropWhile isGap
    finish (some (String.ofList found.reverse)) none

def typeOrUniversal : Parser Simple := do
  if ← scan '*' then
    if !(← scan '|') then return .universal none
    if ← scan '*' then return .universal (some "*")
    return .type (some "*") (← name)
  if ← scan '|' then
    if ← scan '*' then return .universal (some "")
    return .type (some "") (← name)
  let first ← name
  if !(← scan '|') then return .type none first
  if ← scan '*' then return .universal (some first)
  return .type (some first) (← name)

def simple (allowsParent : Bool) : Parser Simple := do
  match ← peek with
  | some '[' => attributeTest rules
  | some '.' =>
    skip
    return .hasClass (← name)
  | some '#' =>
    skip
    return .id (← name)
  | some '%' =>
    skip
    let named ← name
    if !rules.allowsPlaceholder then stopWhole rules "Placeholder selectors aren't allowed here."
    return .placeholder named
  | some ':' => pseudo rules selector
  | some '&' =>
    skip
    let suffix ← nameBody false
    if !allowsParent then stopWhole rules "Parent selectors aren't allowed here."
    return .parent (if suffix.isEmpty then none else some suffix)
  | _ => typeOrUniversal

def compound : Parser (List Simple) := do
  let first ← simple rules selector rules.allowsParent
  iterate (fun (found : List Simple) => do
    match ← peek with
    | some c =>
      if "*[.#%:".contains c then return .inl ((← simple rules selector false) :: found)
      else return .inr found.reverse
    | none => return .inr found.reverse) [first]

def complex (startsLine : Bool) : Parser Complex :=
  iterate (fun (found : List Part) => do
    skipGaps
    let finish : Parser (List Part ⊕ Complex) := do
      if found.isEmpty then stopWhole rules "expected selector."
      return .inr (.mk found.reverse startsLine)
    match ← peek with
    | some '+' =>
      skip
      return .inl (.combinator .next :: found)
    | some '>' =>
      skip
      return .inl (.combinator .child :: found)
    | some '~' =>
      skip
      return .inl (.combinator .following :: found)
    | some c =>
      if "[.#%:&*|".contains c || (← isAtName) then
        let simples ← compound rules selector
        if ← isAt '&' then
          stopWhole rules "\"&\" may only used at the beginning of a compound selector."
        return .inl (.compound simples :: found)
      else finish
    | none => finish) []

def list : Parser Selector := do
  let first ← complex rules selector false
  skipGaps
  iterate (fun (startsLine, found) => do
    if !(← scan ',') then return .inr found.reverse
    let blanks ← takeWhile isGap
    let startsLine := startsLine || blanks.any isLineEnd
    match ← peek with
    | some ',' => return .inl (startsLine, found)
    | some _ =>
      let next ← complex rules selector startsLine
      skipGaps
      return .inl (false, next :: found)
    | none => return .inr found.reverse) ((false, [first]) : Bool × List Complex)

/-- A list of selectors whose arguments are nested at most `n` deep. -/
def nested : (n : Nat) → Parser Selector
  | 0 => stopWhole rules "expected selector."
  | n + 1 => list rules (nested n)

end SelectorParser

def parseSelector (rules : SelectorParser.Rules) (text : String) : Except Fault Selector :=
  let whole : Parser Selector := do
    let found ← SelectorParser.nested rules (text.length + 1)
    if (← Parser.peek).isSome then SelectorParser.stopWhole rules "expected selector."
    return found
  (whole (.ofText .braces text rules.span)).map (·.1)

end ComponentBundle.Style
