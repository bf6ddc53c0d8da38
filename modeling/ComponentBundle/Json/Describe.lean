import ComponentBundle.Json.Value
import ComponentBundle.Text.Printable

/-!
# Descriptions of values

How a value of the wrong type is called in a message. A text is shown between quotes with what cannot
be printed escaped.
-/
namespace ComponentBundle.Json

/-- The digits of a number to base sixteen, in lower case. -/
def hexDigits (n : Nat) : Text := (Nat.toDigits 16 n)

def shown (c : Char) : Text :=
  if c = '\x00' then ['\\', '0']
  else if c = '\t' then ['\\', 't']
  else if c = '\r' then ['\\', 'r']
  else if c = '\n' then ['\\', 'n']
  else if c = '"' then ['\\', '"']
  else if c = '\\' then ['\\', '\\']
  else if Text.isPrintable c then [c]
  else '\\' :: 'u' :: '\x7b' :: hexDigits c.toNat ++ ['\x7d']

def describe : Json → Text
  | .null => "null".toList
  | .bool true => "boolean `true`".toList
  | .bool false => "boolean `false`".toList
  | .number (.integer value) => "integer `".toList ++ Text.ofInt value ++ ['`']
  | .number value => "floating point `".toList ++ value.text ++ ['`']
  | .string text => "string \"".toList ++ text.flatMap shown ++ ['"']
  | .array _ => "sequence".toList
  | .object _ => "map".toList

end ComponentBundle.Json
