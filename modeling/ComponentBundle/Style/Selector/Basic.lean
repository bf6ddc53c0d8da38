import ComponentBundle.Text.Basic

/-!
# Selectors

A selector is a list of complex ones, any of which an element may match. A complex selector describes
an element and elements around it, each of them by a compound of simple selectors.
-/
namespace ComponentBundle.Style

/-- How an element stands to the one described next. -/
inductive Combinator where
  | child
  | next
  | following
  deriving DecidableEq

def Combinator.text : Combinator → String
  | .child => ">"
  | .next => "+"
  | .following => "~"

mutual

inductive Simple where
  | universal (space : Option String)
  | type (space : Option String) (name : String)
  | hasClass (name : String)
  | id (name : String)
  | placeholder (name : String)
  | attribute (text : String)
  | pseudo (name : String) (isElement : Bool) (argument : Option String)
      (selector : Option (List Complex))
  | parent (suffix : Option String)

/-- A part of a complex selector: what an element is like, or how it stands to the next one. -/
inductive Part where
  | compound (simples : List Simple)
  | combinator (value : Combinator)

/-- Elements one after the other, and whether a line begins with them. -/
inductive Complex where
  | mk (parts : List Part) (startsLine : Bool)

end

/-- Complex selectors any of which may match. -/
abbrev Selector := List Complex

def Complex.parts : Complex → List Part
  | .mk parts _ => parts

/-- Whether a line begins with a complex selector. -/
def Complex.startsLine : Complex → Bool
  | .mk _ startsLine => startsLine

def qualified (space : Option String) (name : String) : String :=
  match space with
  | some space => space ++ "|" ++ name
  | none => name

mutual

/-- Whether a simple selector matches nothing that can be written. -/
def Simple.isInvisible : Simple → Bool
  | .placeholder _ => true
  | .pseudo "not" _ _ _ => false
  | .pseudo _ _ _ (some selector) => areInvisible selector
  | _ => false

def anyInvisible : List Simple → Bool
  | [] => false
  | simple :: rest => simple.isInvisible || anyInvisible rest

def partsInvisible : List Part → Bool
  | [] => false
  | .compound simples :: rest => anyInvisible simples || partsInvisible rest
  | .combinator _ :: rest => partsInvisible rest

def Complex.isInvisible : Complex → Bool
  | .mk parts _ => partsInvisible parts

def areInvisible : List Complex → Bool
  | [] => true
  | complex :: rest => complex.isInvisible && areInvisible rest

end

mutual

/-- How deep selectors are nested in a simple selector. -/
def Simple.height : Simple → Nat
  | .pseudo _ _ _ (some selector) => selectorHeight selector + 1
  | _ => 0

def simplesHeight : List Simple → Nat
  | [] => 0
  | simple :: rest => max simple.height (simplesHeight rest)

def partsHeight : List Part → Nat
  | [] => 0
  | .compound simples :: rest => max (simplesHeight simples) (partsHeight rest)
  | .combinator _ :: rest => partsHeight rest

def Complex.height : Complex → Nat
  | .mk parts _ => partsHeight parts

def selectorHeight : List Complex → Nat
  | [] => 0
  | complex :: rest => max complex.height (selectorHeight rest)

end

mutual

def Simple.text : Simple → String
  | .universal space => qualified space "*"
  | .type space name => qualified space name
  | .hasClass name => "." ++ name
  | .id name => "#" ++ name
  | .placeholder name => "%" ++ name
  | .attribute text => text
  | .parent suffix => "&" ++ suffix.getD ""
  | .pseudo name isElement argument selector =>
    match selector with
    | some inner =>
      if name == "not" && areInvisible inner then ""
      else
        (if isElement then "::" else ":") ++ name ++ "(" ++
          (match argument with | some text => text ++ " " | none => "") ++ selectorText inner ++ ")"
    | none =>
      (if isElement then "::" else ":") ++ name ++
        match argument with
        | some text => "(" ++ text ++ ")"
        | none => ""

def simplesText : List Simple → String
  | [] => ""
  | simple :: rest => simple.text ++ simplesText rest

/-- Parts as they are written. A compound of which nothing is written matches everything. -/
def partsText : List Part → String
  | [] => ""
  | part :: rest =>
    let first := match part with
      | .compound simples => if (simplesText simples).isEmpty then "*" else simplesText simples
      | .combinator value => value.text
    match rest with
    | [] => first
    | _ :: _ => first ++ " " ++ partsText rest

def Complex.text : Complex → String
  | .mk parts _ => partsText parts

/-- Complex selectors behind others, each with a comma in front of it. -/
def selectorTail : List Complex → String
  | [] => ""
  | complex :: rest =>
    (if complex.isInvisible then ""
      else (if complex.startsLine then ",\n" else ", ") ++ complex.text) ++ selectorTail rest

/-- A selector as it is written, without what is invisible. -/
def selectorText : List Complex → String
  | [] => ""
  | complex :: rest =>
    if complex.isInvisible then selectorText rest else complex.text ++ selectorTail rest

end

mutual

/-- A text that tells a simple selector from all others. -/
def Simple.key : Simple → String
  | .universal space => qualified space "*"
  | .type space name => qualified space name
  | .hasClass name => "." ++ name
  | .id name => "#" ++ name
  | .placeholder name => "%" ++ name
  | .attribute text => text
  | .parent suffix => "&" ++ suffix.getD ""
  | .pseudo name isElement argument selector =>
    (if isElement then "::" else ":") ++ name ++
      (match argument with | some text => "(" ++ text ++ ")" | none => "") ++
      (match selector with | some inner => "(" ++ selectorKey inner ++ ")" | none => "")

/-- A text that tells a compound from all others. -/
def simplesKey : List Simple → String
  | [] => ""
  | simple :: rest => simple.key ++ simplesKey rest

def partsKey : List Part → String
  | [] => ""
  | .compound simples :: rest => simplesKey simples ++ " " ++ partsKey rest
  | .combinator value :: rest => value.text ++ " " ++ partsKey rest

/-- A text that tells a complex selector from all others, wherever its line begins. -/
def Complex.key : Complex → String
  | .mk parts _ => partsKey parts

def selectorKey : List Complex → String
  | [] => ""
  | complex :: rest => complex.key ++ "," ++ selectorKey rest

end

instance : BEq Simple := ⟨fun first second => first.key == second.key⟩

instance : BEq Complex := ⟨fun first second => first.key == second.key⟩

def Part.isCompound : Part → Bool
  | .compound _ => true
  | .combinator _ => false

/-- The name of a pseudo class without what says whose it is. -/
def unprefixed (text : String) : String :=
  match text.toList with
  | '-' :: c :: rest =>
    if c = '-' then text
    else match rest.dropWhile (· ≠ '-') with
      | _ :: name => String.ofList name
      | [] => text
  | _ => text

/-- Whether a pseudo selector is an element, perhaps written like a class. -/
def isElementName (name : String) (isElement : Bool) : Bool :=
  isElement || ["before", "after", "first-line", "first-letter"].contains name.toLower

/-- Whether a simple selector is a pseudo class or a pseudo element. -/
def Simple.isPseudo : Simple → Bool
  | .pseudo .. => true
  | _ => false

def Simple.isElement : Simple → Bool
  | .pseudo name isElement _ _ => isElementName name isElement
  | _ => false

def Complex.ofCompound (simples : List Simple) : Complex := .mk [.compound simples] false

mutual

/-- Whether a simple selector refers to the rule around it. -/
def Simple.refersToParent : Simple → Bool
  | .parent _ => true
  | .pseudo _ _ _ (some selector) => selectorRefersToParent selector
  | _ => false

def compoundRefersToParent : List Simple → Bool
  | [] => false
  | simple :: rest => simple.refersToParent || compoundRefersToParent rest

def partsReferToParent : List Part → Bool
  | [] => false
  | .compound simples :: rest => compoundRefersToParent simples || partsReferToParent rest
  | .combinator _ :: rest => partsReferToParent rest

/-- Whether a complex selector refers to the rule around it. -/
def Complex.refersToParent : Complex → Bool
  | .mk parts _ => partsReferToParent parts

def selectorRefersToParent : List Complex → Bool
  | [] => false
  | complex :: rest => complex.refersToParent || selectorRefersToParent rest

end

end ComponentBundle.Style
