import ComponentBundle.Text.Blank
import ComponentBundle.Text.Word

/-!
# Attributes

The attributes of a tag, read wherever a name stands: a name of letters, digits, colons and hyphens,
then possibly an equals sign with a value between quotes or a bare one up to a blank or the end of the
tag. A name without a value is true.
-/
namespace ComponentBundle.Markup

/-- Values by name, one value per name. -/
abbrev Attributes := List (Text × Text)

namespace Attributes

def get? (attributes : Attributes) (name : Text) : Option Text :=
  (attributes.find? fun entry => entry.1 = name).map (·.2)

/-- Gives the name the value, in place of the one it had. -/
def insert (attributes : Attributes) (name value : Text) : Attributes :=
  if attributes.any (fun entry => entry.1 = name) then
    attributes.map fun entry => if entry.1 = name then (name, value) else entry
  else attributes ++ [(name, value)]

def isNameChar (c : Char) : Bool :=
  let c := Text.foldCase c
  ('a' ≤ c && c ≤ 'z') || c.isDigit || c == ':' || c == '-'

/-- Whether the character may stand in a value without quotes. -/
def isBareChar (c : Char) : Bool := c != '>' && !Text.isBlank c

/-- The value between two quotes that a text begins with, and what follows. -/
def quoted? (quote : Char) : Text → Option (Text × Text)
  | [] => none
  | c :: rest =>
    if c = quote then
      match rest.dropWhile (· ≠ quote) with
      | [] => none
      | _ :: after => some (rest.takeWhile (· ≠ quote), after)
    else none

/-- The value without quotes that a text begins with, and what follows. -/
def bare? (text : Text) : Option (Text × Text) :=
  match text.takeWhile isBareChar with
  | [] => none
  | c :: value => some (c :: value, text.dropWhile isBareChar)

def value? : Text → Option (Text × Text)
  | '=' :: text => (quoted? '"' text).or ((quoted? '\'' text).or (bare? text))
  | _ => none

def bareName : Text := "true".toList

/-- Reads attributes off the text, at most `n` characters of it that begin one or are skipped. -/
def readUpTo : Nat → Text → Attributes → Attributes
  | 0, _, found => found
  | _ + 1, [], found => found
  | n + 1, c :: rest, found =>
    if isNameChar c then
      let name := (c :: rest).takeWhile isNameChar
      let after := (c :: rest).dropWhile isNameChar
      match value? after with
      | some (value, after) => readUpTo n after (found.insert name value)
      | none => readUpTo n after (found.insert name bareName)
    else readUpTo n rest found

def ofText (text : Text) : Attributes := readUpTo text.length text []

end Attributes

end ComponentBundle.Markup
