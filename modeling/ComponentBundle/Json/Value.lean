import ComponentBundle.Text.Quoted
import ComponentBundle.Number.Binary

/-!
# JSON values

Values of the data format, with the members of an object in the order in which they are written, and
their two printed forms: on one line without blanks, and with a line for every item.
-/
namespace ComponentBundle

/-- A number: a whole one that a machine integer holds, or a double with its sign. -/
inductive Json.Number where
  | integer (value : Int)
  | fraction (negative : Bool) (value : Binary)
  deriving DecidableEq

inductive Json where
  | null
  | bool (value : Bool)
  | number (value : Json.Number)
  | string (text : Text)
  | array (items : List Json)
  | object (members : List (Text × Json))

namespace Json

def get? (json : Json) (name : Text) : Option Json :=
  match json with
  | .object members => (members.find? fun member => member.1 = name).map (·.2)
  | _ => none

/-- The text of a number. A double has the fewest digits that lead back to it. -/
def Number.text : Number → Text
  | .integer value => Text.ofInt value
  | .fraction negative value =>
    let sign : Text := if negative then ['-'] else []
    let shortest := value.shortest
    let leading : Int := shortest.exponent + shortest.digitText.length
    sign ++
      if shortest.digits = 0 then "0.0".toList
      else if -5 < leading ∧ leading ≤ 16 then
        if 0 ≤ shortest.exponent then shortest.positional ++ ['.', '0'] else shortest.positional
      else shortest.scientific true

mutual

/-- The value on one line, without blanks. -/
def compact : Json → Text
  | .null => "null".toList
  | .bool true => "true".toList
  | .bool false => "false".toList
  | .number value => value.text
  | .string text => text.quote
  | .array items => '[' :: compactItems items ++ [']']
  | .object members => '\x7b' :: compactMembers members ++ ['\x7d']

/-- The items of an array, separated by commas. -/
def compactItems : List Json → Text
  | [] => []
  | [last] => compact last
  | item :: items => compact item ++ ',' :: compactItems items

def compactMembers : List (Text × Json) → Text
  | [] => []
  | [(name, last)] => name.quote ++ ':' :: compact last
  | (name, value) :: members => name.quote ++ ':' :: compact value ++ ',' :: compactMembers members

end

def newLine (depth : Nat) : Text := '\n' :: List.replicate (2 * depth) ' '

mutual

/-- The value with a line for every item, two blanks deeper than what holds it. -/
def pretty (depth : Nat) : Json → Text
  | .array [] => ['[', ']']
  | .object [] => ['\x7b', '\x7d']
  | .array items => '[' :: prettyItems (depth + 1) items ++ newLine depth ++ [']']
  | .object members => '\x7b' :: prettyMembers (depth + 1) members ++ newLine depth ++ ['\x7d']
  | .null => "null".toList
  | .bool true => "true".toList
  | .bool false => "false".toList
  | .number value => value.text
  | .string text => text.quote

def prettyItems (depth : Nat) : List Json → Text
  | [] => []
  | [last] => newLine depth ++ pretty depth last
  | item :: items => newLine depth ++ pretty depth item ++ ',' :: prettyItems depth items

def prettyMembers (depth : Nat) : List (Text × Json) → Text
  | [] => []
  | [(name, last)] => newLine depth ++ name.quote ++ ':' :: ' ' :: pretty depth last
  | (name, value) :: members =>
    newLine depth ++ name.quote ++ ':' :: ' ' :: pretty depth value ++
      ',' :: prettyMembers depth members

end

end Json

end ComponentBundle
