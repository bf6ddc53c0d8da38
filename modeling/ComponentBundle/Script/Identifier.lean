import ComponentBundle.Text.Identifier

/-!
# Names

A name of a script, without the way in which it is written, has no characters but those that identifiers
are made of.
-/
namespace ComponentBundle.Script

def isNameCharacter (c : Char) : Bool := Text.isIdentifierStart c || Text.isIdentifierPart c

def IsPlain (text : String) : Prop := ∀ c ∈ text.toList, isNameCharacter c

instance (text : String) : Decidable (IsPlain text) :=
  List.decidableBAll _ text.toList

/-- A name. -/
structure Identifier where
  text : String
  isPlain : IsPlain text

/-- The name that a text is, without the characters that no name has. -/
def Identifier.of (text : String) : Identifier where
  text := String.ofList (text.toList.filter isNameCharacter)
  isPlain _ hc := (List.mem_filter.mp (String.toList_ofList ▸ hc)).2

end ComponentBundle.Script
