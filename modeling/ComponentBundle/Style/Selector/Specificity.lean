import ComponentBundle.Style.Selector.Basic

/-!
# Specificity of selectors

How specific a selector is at least and at most. They differ where a pseudo class takes a list of
selectors, any of which may be the one that matches.
-/
namespace ComponentBundle.Style

/-- The least and the greatest specificity. -/
structure Specificity where
  least : Nat
  greatest : Nat

namespace Specificity

/-- A specificity that is known. -/
def exactly (n : Nat) : Specificity := ⟨n, n⟩

instance : Add Specificity := ⟨fun first second =>
  ⟨first.least + second.least, first.greatest + second.greatest⟩⟩

/-- What a class counts. A thousand types count as much. -/
def base : Nat := 1000

end Specificity

mutual

/-- How specific a simple selector is. -/
def Simple.specificity : Simple → Specificity
  | .universal _ | .parent _ => .exactly 0
  | .type .. => .exactly 1
  | .id _ => .exactly (Specificity.base * Specificity.base)
  | .hasClass _ | .placeholder _ | .attribute _ => .exactly Specificity.base
  | .pseudo name isElement _ selector =>
    if isElementName name isElement then .exactly 1
    else match selector with
      | none => .exactly Specificity.base
      | some list =>
        let found := specificities list
        let least :=
          if name == "not" then found.foldl (fun n s => max n s.least) 0
          else found.foldl (fun n s => min n s.least)
            (Specificity.base * Specificity.base * Specificity.base)
        ⟨least, found.foldl (fun n s => max n s.greatest) 0⟩

def simplesSpecificity : List Simple → Specificity
  | [] => .exactly 0
  | simple :: rest => simple.specificity + simplesSpecificity rest

def partsSpecificity : List Part → Specificity
  | [] => .exactly 0
  | .compound simples :: rest => simplesSpecificity simples + partsSpecificity rest
  | .combinator _ :: rest => partsSpecificity rest

def Complex.specificity : Complex → Specificity
  | .mk parts _ => partsSpecificity parts

def specificities : List Complex → List Specificity
  | [] => []
  | complex :: rest => complex.specificity :: specificities rest

end

end ComponentBundle.Style
