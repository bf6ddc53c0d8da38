import ComponentBundle.Style.Selector.Basic

/-!
# Selectors of one element

A compound that matches what two compounds match, if there is one.
-/
namespace ComponentBundle.Style

namespace Unify

def space? (first second : Option String) : Option (Option String) :=
  if first == second || second == some "*" then some first
  else if first == some "*" then some second
  else none

/-- The type of elements, or any of them, that both ask for. -/
def type? (first second : Simple) : Option Simple :=
  let parts : Simple → Option (Option String × Option String)
    | .universal space => some (space, none)
    | .type space name => some (space, some name)
    | _ => none
  do
    let (space, name) ← parts first
    let (space', name') ← parts second
    let found ← space? space space'
    match name, name' with
    | some name, some name' => if name == name' then some (.type found name) else none
    | some name, none | none, some name => some (.type found name)
    | none, none => some (.universal found)

/-- Whether a compound begins with a type of elements, or any of them. -/
def beginsWithType : List Simple → Bool
  | .universal _ :: _ | .type .. :: _ => true
  | _ => false

def insertBefore (test : Simple → Bool) (simple : Simple) (compound : List Simple) : List Simple :=
  let (before, after) := compound.span (!test ·)
  before ++ simple :: after

/-- Adds a type of elements, or any of them, to a compound. -/
def addType (simple : Simple) (compound : List Simple) : Option (List Simple) :=
  match compound with
  | first :: rest =>
    if beginsWithType compound then (type? simple first).map (· :: rest)
    else match simple with
      | .universal none | .universal (some "*") => some compound
      | _ => some (simple :: compound)
  | [] => some [simple]

/-- Adds a simple selector to a compound, in front of pseudo classes and pseudo elements. -/
def addSimple (simple : Simple) (compound : List Simple) : Option (List Simple) :=
  if compound.contains simple then some compound
  else some (insertBefore Simple.isPseudo simple compound)

def addPseudo (simple : Simple) (compound : List Simple) : Option (List Simple) :=
  if compound.contains simple then some compound
  else if simple.isElement && compound.any Simple.isElement then none
  else some (insertBefore Simple.isElement simple compound)

def add (simple : Simple) (compound : List Simple) : Option (List Simple) :=
  match simple, compound with
  | .universal _, _ | .type .., _ => addType simple compound
  | _, [.universal space] => addUniversal simple (.universal space)
  | .id _, _ =>
    let clashes := compound.any fun other => match other with
      | .id _ => other != simple
      | _ => false
    if clashes then none else addSimple simple compound
  | .pseudo .., _ => addPseudo simple compound
  | _, _ => addSimple simple compound
where
  /-- What becomes of a compound that matches any element. -/
  addUniversal (simple universal : Simple) : Option (List Simple) :=
    match universal with
    | .universal none | .universal (some "*") => some [simple]
    | _ => some [universal, simple]

def compounds (first second : List Simple) : Option (List Simple) :=
  second.foldlM (fun compound simple => add simple compound) first

end Unify

end ComponentBundle.Style
