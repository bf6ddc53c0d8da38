import ComponentBundle.Style.Selector.Basic

/-!
# Selectors that match more

Whether one selector matches all elements that another one matches, as far as both selectors tell.
-/
namespace ComponentBundle.Style

namespace Cover

/-- Whether the parts of one selector match all that the parts of another one match. -/
abbrev Relation := (general special : List Part) → Bool

def listCovers (covers : Relation) (general special : Selector) : Bool :=
  special.all fun one => general.any fun other => covers other.parts one.parts

def subselectorClasses : List String :=
  ["is", "matches", "where", "any", "nth-child", "nth-last-child"]

/-- Whether a compound holds a simple selector, or only matches where that one does. -/
def holds (compound : List Simple) (simple : Simple) : Bool :=
  compound.any fun other =>
    simple == other ||
      match other with
      | .pseudo name _ _ (some selector) =>
        subselectorClasses.contains (unprefixed name) &&
          selector.all fun complex => match complex.parts with
            | [.compound inner] => inner.contains simple
            | _ => false
      | _ => false

def argumentsOf (compound : List Simple) (name : String) (isElement : Bool) : List Selector :=
  compound.filterMap fun
    | .pseudo other element _ (some selector) =>
      if other == name && isElementName other element == isElement then some selector else none
    | _ => none

/-- Whether what `:not` excludes is excluded by a compound too. -/
def excludes (covers : Relation) (name : String) (complex : Complex) (compound : List Simple) :
    Bool :=
  let last : List Simple := match complex.parts.getLast? with
    | some (.compound simples) => simples
    | _ => []
  compound.any fun simple => match simple with
    | .type .. => last.any fun other => match other with
      | .type .. => other != simple
      | _ => false
    | .id _ => last.any fun other => match other with
      | .id _ => other != simple
      | _ => false
    | .pseudo other _ _ (some selector) => other == name && listCovers covers selector [complex]
    | _ => false

/-- Whether a pseudo selector with selectors matches all that a compound below other parts does. -/
def pseudoCovers (covers : Relation) (name : String) (argument : Option String)
    (selector : Selector) (compound : List Simple) (parents : List Part) : Bool :=
  let taken (isElement : Bool) : Bool :=
    (argumentsOf compound name isElement).any fun other => listCovers covers selector other
  match unprefixed name with
  | "is" | "matches" | "any" | "where" =>
    taken false || selector.any fun complex => covers complex.parts (parents ++ [.compound compound])
  | "has" | "host" | "host-context" => taken false
  | "slotted" => taken true
  | "not" => selector.all fun complex => excludes covers name complex compound
  | "current" =>
    (argumentsOf compound name false).any fun other => selectorKey other == selectorKey selector
  | _ => compound.any fun
    | .pseudo other _ argument' (some selector') =>
      other == name && argument' == argument && listCovers covers selector selector'
    | _ => false

def compoundCovers (covers : Relation) (general special : List Simple) (parents : List Part) :
    Bool :=
  (general.all fun simple => match simple with
    | .pseudo name _ argument (some selector) =>
      pseudoCovers covers name argument selector special parents
    | _ => holds special simple) &&
  special.all fun simple => match simple with
    | .pseudo name isElement _ none => !isElementName name isElement || holds general simple
    | _ => true

/-- The number of parts up to the first compound that the compound covers, if more follow it. -/
def firstCovered? (covers : Relation) (compound : List Simple) (special : List Part) : Option Nat :=
  (List.range (special.length - 1)).find? fun n => match special[n]? with
    | some (.compound other) => compoundCovers covers compound other (special.take n)
    | _ => false

/-- Whether the elements may stand to each other as the second combinator says where the first one
is asked for. -/
def combinatorCovers (general special : Combinator) : Bool :=
  if general = .following then special ≠ .child else general = special

/-- Whether parts match all that other parts match, going on behind at most `n` compounds. -/
def alongParts (covers : Relation) : (n : Nat) → Relation
  | 0, _, _ => false
  | n + 1, general, special =>
    match general, special with
    | .compound compound :: rest, .compound _ :: _ =>
      if special.length < general.length then false
      else match rest with
        | [] =>
          match special.getLast? with
          | some (.compound last) => compoundCovers covers compound last special.dropLast
          | _ => false
        | next :: following =>
          match firstCovered? covers compound special with
          | none => false
          | some place =>
            match next, special[place + 1]? with
            | .combinator c, some (.combinator d) =>
              combinatorCovers c d && !(general.length = 3 && 3 < special.length) &&
                alongParts covers n following (special.drop (place + 2))
            | .combinator _, _ => false
            | .compound _, some (.combinator d) =>
              d = .child && alongParts covers n rest (special.drop (place + 2))
            | .compound _, _ => alongParts covers n rest (special.drop (place + 1))
    | _, _ => false

def endsInCompound (parts : List Part) : Bool := parts.getLast?.any Part.isCompound

/-- Whether parts match all that other parts match; selectors in selectors are looked into at most
`n` deep. -/
def parts : (n : Nat) → Relation
  | 0, _, _ => false
  | n + 1, general, special =>
    endsInCompound general && endsInCompound special &&
      alongParts (parts n) (general.length + special.length) general special

end Cover

/-- Whether parts match all that other parts match. Each step into selectors in selectors makes what is
left less deep. -/
def partsCover : Cover.Relation := fun general special =>
  Cover.parts (partsHeight general + partsHeight special + 1) general special

def compoundCovers (general special : List Simple) : Bool :=
  Cover.compoundCovers partsCover general special []

/-- Whether parts, followed by the same compound, match all that other parts match. -/
def parentsCover (general special : List Part) : Bool :=
  match general, special with
  | .compound _ :: _, .compound _ :: _ =>
    let base : Part := .compound [.placeholder "<temp>"]
    general.length ≤ special.length && partsCover (general ++ [base]) (special ++ [base])
  | _, _ => false

def Complex.covers (general special : Complex) : Bool := partsCover general.parts special.parts

def Selector.covers (general special : Selector) : Bool := Cover.listCovers partsCover general special

end ComponentBundle.Style
