import ComponentBundle.Style.Selector.Specificity
import ComponentBundle.Style.Selector.Weave

/-!
# Extended selectors

A rule may take on the styles of a simple selector. Then wherever that one stands in the selector of a
rule, the selector of the first rule may stand too. What others cover anyway is left out, unless that
would make a rule less specific than the selector that it comes from.
-/
namespace ComponentBundle.Style

abbrev Extensions := List (String × List Complex)

/-- What becomes of a simple selector that is extended. -/
inductive ExtendMode where
  | next
  /-- It does too, but only in compounds that hold all of the selectors that are extended. -/
  | nextToAll
  | instead
  deriving DecidableEq

namespace Extend

/-- What selectors are extended with. -/
structure Setup where
  mode : ExtendMode := .next
  extensions : Extensions
  sources : List (String × Nat) := []

/-- A step that knows which complex selectors were written in a style, by their keys. -/
abbrev Step := StateM (List String)

/-- A complex selector that may stand in the place of a simple one, or stands for it. -/
structure Choice where
  complex : Complex
  isOriginal : Bool := false

def Choice.ofCompound (simples : List Simple) : Choice := ⟨.ofCompound simples, true⟩

def Choice.compound (choice : Choice) : List Simple :=
  match choice.complex.parts.getLast? with
  | some (.compound simples) => simples
  | _ => []

variable (s : Setup)

def requiredSpecificity (complex : Complex) : Nat :=
  let simples := complex.parts.flatMap fun
    | .compound simples => simples
    | .combinator _ => []
  simples.foldl (fun n simple => max n ((s.sources.lookup simple.key).getD 0)) 0

def trimLimit : Nat := 100

/-- Leaves out selectors that others cover. Of those that were written in a style none is, but each
stands there once. -/
def trim (isOriginal : Complex → Bool) (selectors : List Complex) : List Complex :=
  if trimLimit < selectors.length then selectors else go selectors.reverse [] 0
where
  /-- Goes from the last selector to the first one; the originals found stand in front. -/
  go : (before kept : List Complex) → (originals : Nat) → List Complex
    | [], kept, _ => kept
    | complex :: before, kept, originals =>
      if isOriginal complex then
        match (kept.take originals).findIdx? (· == complex) with
        | some n => go before ((kept[n]?).toList ++ kept.eraseIdx n) originals
        | none => go before (complex :: kept) (originals + 1)
      else
        let least := requiredSpecificity s complex
        let covers (other : Complex) : Bool :=
          least ≤ other.specificity.least && other.covers complex
        if kept.any covers || before.any covers then go before kept originals
        else go before (complex :: kept) originals

def choices? (simple : Simple) : Option (List Choice) :=
  (s.extensions.lookup simple.key).map fun extenders =>
    let found := extenders.map fun complex => (⟨complex, false⟩ : Choice)
    if s.mode = .instead then found else .ofCompound [simple] :: found

def inlined (name : String) (argument : Option String) (complex : Complex) : List Complex :=
  match complex.parts with
  | [.compound [.pseudo inner _ innerArgument (some selector)]] =>
    match unprefixed name with
    | "not" => if ["is", "matches", "where"].contains (unprefixed inner) then selector else []
    | "is" | "matches" | "where" | "any" | "current" | "nth-child" | "nth-last-child" =>
      if inner == name && innerArgument == argument then selector else []
    | "has" | "host" | "host-context" | "slotted" => [complex]
    | _ => []
  | _ => [complex]

def isLong (complex : Complex) : Bool := 1 < complex.parts.length

/-- What becomes of a pseudo selector if its arguments are extended by the function given. -/
def pseudos (inner : Selector → Step Selector) (name : String) (isElement : Bool)
    (argument : Option String) (selector : Selector) : Step (List Simple) := do
  let extended ← inner selector
  if selectorKey extended == selectorKey selector then return []
  let isNegation := unprefixed name == "not"
  let found :=
    if isNegation && !selector.any isLong && extended.any (!isLong ·) then
      extended.filter (!isLong ·)
    else extended
  let found := found.flatMap (inlined name argument)
  let make (selector : Selector) : Simple := .pseudo name isElement argument (some selector)
  if isNegation && selector.length = 1 then return found.map fun complex => make [complex]
  return [make found]

/-- The choices for a simple selector, or for each of those that it becomes, if any of it is
extended, and the keys of those that are. -/
def simple (inner : Selector → Step Selector) (simple : Simple) :
    Step (Option (List (List Choice) × List String)) := do
  let found ← match simple with
    | .pseudo name isElement argument (some selector) =>
      pseudos inner name isElement argument selector
    | _ => pure []
  if found.isEmpty then
    return (choices? s simple).map fun choices => ([choices], [simple.key])
  let parts := found.map fun changed => match choices? s changed with
    | some choices => (choices, [changed.key])
    | none => ([Choice.ofCompound [changed]], [])
  return some (parts.map (·.1), parts.flatMap (·.2))

/-- The choices for the simple selectors of a compound, if one of them is extended. The others are
one choice as long as none is. -/
def options (inner : Selector → Step Selector) :
    (before rest : List Simple) → (isExtended : Bool) → Step (List (List Choice) × List String)
  | _, [], _ => return ([], [])
  | before, first :: rest, isExtended => do
    match ← simple s inner first with
    | some (found, used) =>
      let opening := if isExtended || before.isEmpty then [] else [[Choice.ofCompound before]]
      let (more, others) ← options inner [] rest true
      return (opening ++ found ++ more, used ++ others)
    | none =>
      if isExtended then
        let (more, used) ← options inner [] rest true
        return ([Choice.ofCompound [first]] :: more, used)
      else options inner (before ++ [first]) rest false

/-- The complex selectors of one choice for each simple selector of a compound, if an element may
match all of them. -/
def united (path : List Choice) : List (List Part) :=
  let (originals, extenders) := path.partition (·.isOriginal)
  let opening := if originals.isEmpty then []
    else [[Part.compound (originals.flatMap Choice.compound)]]
  (unifyParts (opening ++ extenders.map (·.complex.parts))).getD []

/-- What becomes of a compound, if any of it is extended. -/
def compound (inner : Selector → Step Selector) (simples : List Simple) (isOriginal : Bool) :
    Step (Option (List Complex)) := do
  let (options, used) ← options s inner [] simples false
  if options.isEmpty then return none
  if s.mode ≠ .next && !used.isEmpty && used.eraseDups.length ≠ s.extensions.length then
    return none
  if let [only] := options then return some (only.map (·.complex))
  let complexes (path : List Choice) (parts : List (List Part)) : List Complex :=
    let startsLine := path.any (·.complex.startsLine)
    parts.map fun parts => .mk parts startsLine
  let found := match Weave.paths options with
    | [] => []
    | first :: rest =>
      let opening := if s.mode = .instead then united first
        else [[Part.compound (first.flatMap Choice.compound)]]
      complexes first opening ++ rest.flatMap fun path => complexes path (united path)
  let isKept (complex : Complex) : Bool :=
    isOriginal && s.mode ≠ .instead && found.head? == some complex
  return some (trim s isKept found)

def partChoices (inner : Selector → Step Selector) (isOriginal startsLine : Bool) :
    (before rest : List Part) → (isExtended : Bool) → Step (List (List Complex))
  | _, [], _ => return []
  | before, first :: rest, isExtended => do
    let found? ← match first with
      | .compound simples => compound s inner simples isOriginal
      | .combinator _ => pure none
    match found? with
    | some found =>
      let opening := before.map fun part => [Complex.mk [part] startsLine]
      return opening ++ found :: (← partChoices inner isOriginal startsLine [] rest true)
    | none =>
      if isExtended then
        return [.mk [first] false] :: (← partChoices inner isOriginal startsLine [] rest true)
      else partChoices inner isOriginal startsLine (before ++ [first]) rest false

/-- What becomes of a complex selector, if any of it is extended. What it becomes first is as much
written in the style as the selector itself. -/
def complex (inner : Selector → Step Selector) (complex : Complex) : Step (List Complex) := do
  let isOriginal := (← get).contains complex.key
  let choices ← partChoices s inner isOriginal complex.startsLine [] complex.parts false
  if choices.isEmpty then return []
  let found := (Weave.paths choices).flatMap fun path =>
    let startsLine := complex.startsLine || path.any Complex.startsLine
    (weave (path.map Complex.parts)).map fun parts => Complex.mk parts startsLine
  if let some first := found.head? then
    if isOriginal then modify (first.key :: ·)
  return found

/-- What becomes of a selector; selectors in it are looked into at most `n` deep. -/
def selector : (n : Nat) → Selector → Step Selector
  | 0, selector => return selector
  | n + 1, list => do
    let results ← list.mapM (complex s (selector n))
    if results.all List.isEmpty then return list
    let found := (list.zip results).flatMap fun (complex, found) =>
      if found.isEmpty then [complex] else found
    let originals ← get
    return trim s (fun complex => originals.contains complex.key) found

end Extend

/-- A selector whose parts that match the targets are extended by, or replaced by, another one. The
message tells why it cannot be. -/
def Selector.extended (list source targets : Selector) (mode : ExtendMode) :
    Except String Selector := do
  let compounds ← targets.mapM fun (target : Complex) =>
    match target.parts with
    | [.compound simples] => pure simples
    | _ => throw ("Can't extend complex selector " ++ target.text ++ ".")
  let keys := (compounds.flatten.map Simple.key).eraseDups
  let originals := if areInvisible list then [] else list.map Complex.key
  let setup : Extend.Setup := { mode, extensions := keys.map fun key => (key, source) }
  return ((Extend.selector setup (selectorHeight list + 1) list).run originals).1

structure Extender where
  extensions : Extensions := []
  /-- Where a simple selector is a part of what extends others: the complex selector, and the key of
  what it extends. -/
  uses : List (String × Complex × String) := []
  sources : List (String × Nat) := []
  originals : List String := []

namespace Extender

def insert (extensions : Extensions) (target : String) (complex : Complex) : Extensions :=
  if extensions.any fun (key, _) => key == target then
    extensions.map fun (key, found) => (key, if key == target then found ++ [complex] else found)
  else extensions ++ [(target, [complex])]

def extends? (e : Extender) (target : String) (complex : Complex) : Bool :=
  ((e.extensions.lookup target).getD []).any (· == complex)

def simpleKeys (complex : Complex) : List String :=
  complex.parts.flatMap fun
    | .compound simples => simples.map Simple.key
    | .combinator _ => []

def note (e : Extender) (target : String) (complex : Complex) : Extender :=
  { e with
    extensions := insert e.extensions target complex
    uses := e.uses ++ (simpleKeys complex).map fun key => (key, complex, target) }

def extend (e : Extender) (extensions : Extensions) (list : Selector) : Selector × Extender :=
  let setup : Extend.Setup := { extensions, sources := e.sources }
  let (found, originals) := (Extend.selector setup (selectorHeight list + 1) list).run e.originals
  (found, { e with originals })

def addRule (e : Extender) (list : Selector) : Selector × Extender :=
  let e := if areInvisible list then e
    else { e with originals := list.map Complex.key ++ e.originals }
  if e.extensions.isEmpty then (list, e) else e.extend e.extensions list

/-- Extends what extends other selectors itself, which may give more extensions. -/
def chain (e : Extender) (added : Extensions) (extender : Complex) (target : String) :
    Extender × Extensions :=
  let setup : Extend.Setup := { extensions := added, sources := e.sources }
  let inner := Extend.selector setup (extender.height + 1)
  let (found, originals) := (Extend.complex setup inner extender).run e.originals
  let e := { e with originals }
  if found.isEmpty then (e, [])
  else
    let (e, more) := found.foldl (fun (e, more) complex =>
      if extends? e target complex then (e, more) else (e.note target complex, complex :: more))
      ((e, []) : Extender × List Complex)
    let e := if found.head? == some extender then e
      else { e with
        extensions := e.extensions.map fun (key, list) =>
          (key, if key == target then list.filter (· != extender) else list) }
    (e, if added.any fun (key, _) => key == target then [(target, more.reverse)] else [])

/-- Lets a selector take on the styles of a simple one. The result holds the extensions that have to
be carried out in the selectors of rules that are there already. -/
def addExtension (e : Extender) (source : Selector) (target : Simple) : Extender × Extensions :=
  let existing := e.uses.filter fun (key, _) => key == target.key
  let (e, added) := source.foldl (fun (e, added) complex =>
    if extends? e target.key complex then (e, added)
    else
      let weight := complex.specificity.greatest
      let known := (simpleKeys complex).map fun key => (key, weight)
      ({ e.note target.key complex with sources := e.sources ++ known }, added ++ [complex]))
    ((e, []) : Extender × List Complex)
  if added.isEmpty then (e, [])
  else
    let first : Extensions := [(target.key, added)]
    existing.foldl (fun (e, found) (_, extender, other) =>
      let (e, more) := e.chain first extender other
      (e, more.foldl (fun found (key, list) =>
        list.foldl (fun found complex => insert found key complex) found) found)) (e, first)

end Extender

end ComponentBundle.Style
