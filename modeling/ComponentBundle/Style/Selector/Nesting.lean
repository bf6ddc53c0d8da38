import ComponentBundle.Style.Selector.Basic

/-!
# Nested selectors

The selector of a rule in another rule stands below the selector of that rule, unless it refers to it
by an ampersand.
-/
namespace ComponentBundle.Style

/-- Takes the first items of all lists, then the second ones, and so on. -/
def flattenVertically {α : Type} (lists : List (List α)) : List α :=
  let longest := lists.foldl (fun n list => max n list.length) 0
  (List.range longest).flatMap fun i => lists.filterMap (·[i]?)

def Simple.withSuffix? (simple : Simple) (suffix : String) : Option Simple :=
  match simple with
  | .type space name => some (.type space (name ++ suffix))
  | .hasClass name => some (.hasClass (name ++ suffix))
  | .id name => some (.id (name ++ suffix))
  | .placeholder name => some (.placeholder (name ++ suffix))
  | .pseudo name isElement none none => some (.pseudo (name ++ suffix) isElement none none)
  | _ => none

/-- A complex selector with more simple selectors in its last compound, the first of which may go on
with the characters given. -/
def Complex.extended (complex : Complex) (suffix : Option String) (more : List Simple) :
    Except String Complex :=
  let mismatch : Except String Complex :=
    .error ("Parent \"" ++ complex.text ++ "\" is incompatible with this selector.")
  match complex.parts.reverse with
  | .compound simples :: before =>
    let simples? : Option (List Simple) := match suffix with
      | none => some simples
      | some suffix => do
        let last ← simples.getLast?
        let changed ← last.withSuffix? suffix
        return simples.dropLast ++ [changed]
    match simples? with
    | some simples =>
      .ok (.mk (before.reverse ++ [.compound (simples ++ more)]) complex.startsLine)
    | none => mismatch
  | _ => mismatch

mutual

def Simple.resolved (parent : Selector) : Simple → Except String Simple
  | .pseudo name isElement argument (some selector) => do
    if selectorRefersToParent selector then
      let inner ← resolvedAll parent false selector
      return .pseudo name isElement argument (some (flattenVertically inner))
    return .pseudo name isElement argument (some selector)
  | simple => .ok simple

def resolvedSimples (parent : Selector) : List Simple → Except String (List Simple)
  | [] => .ok []
  | simple :: rest => do
    let first ← simple.resolved parent
    return first :: (← resolvedSimples parent rest)

/-- What a part stands for, if it refers to the selector around it. -/
def Part.resolved? (parent : Selector) : Part → Except String (Option Selector)
  | .combinator _ => .ok none
  | .compound simples => do
    if !compoundRefersToParent simples then return none
    let found ← resolvedSimples parent simples
    match found with
    | .parent none :: [] => return some parent
    | .parent suffix :: more =>
      return some (← parent.mapM fun complex => complex.extended suffix more)
    | _ => return some [Complex.ofCompound found]

def resolvedParts (parent : Selector) : List Part → List Complex → Except String (List Complex)
  | [], found => .ok found
  | part :: rest, found => do
    match ← part.resolved? parent with
    | none =>
      resolvedParts parent rest (found.map fun complex =>
        .mk (complex.parts ++ [part]) complex.startsLine)
    | some choices =>
      resolvedParts parent rest (found.flatMap fun complex => choices.map fun choice =>
        .mk (complex.parts ++ choice.parts) (complex.startsLine || choice.startsLine))

/-- What each of the selectors stands for. One that does not refer to the selector around it stands
below it, if it is `implied`. -/
def resolvedAll (parent : Selector) (implied : Bool) : List Complex →
    Except String (List (List Complex))
  | [] => .ok []
  | complex :: rest => do
    let first ← complex.resolved parent implied
    return first :: (← resolvedAll parent implied rest)

def Complex.resolved (parent : Selector) (implied : Bool) : Complex → Except String (List Complex)
  | .mk parts startsLine =>
    if partsReferToParent parts then resolvedParts parent parts [.mk [] false]
    else if !implied then .ok [.mk parts startsLine]
    else .ok (parent.map fun above =>
      .mk (above.parts ++ parts) (startsLine || above.startsLine))

end

def Selector.nestedIn (selector : Selector) (parent : Option Selector) (implied : Bool) :
    Except String Selector :=
  match parent with
  | none =>
    if selectorRefersToParent selector then
      .error "Top-level selectors may not contain the parent selector \"&\"."
    else .ok selector
  | some parent => do return flattenVertically (← resolvedAll parent implied selector)

end ComponentBundle.Style
