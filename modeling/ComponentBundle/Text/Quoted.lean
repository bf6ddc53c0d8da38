import ComponentBundle.Text.Basic

/-!
# Quoted texts

A text between double quotes, as data formats and scripts alike read it back: the quote and the
backslash take a backslash, control characters an escape, everything else stands for itself.
-/
namespace ComponentBundle.Text

/-- A digit of a number written to base sixteen, in lower case. -/
def hexDigit (n : Nat) : Char :=
  if n < 10 then Char.ofNat (48 + n) else Char.ofNat (87 + n)

def escape (c : Char) : Text :=
  if c = '"' then ['\\', '"']
  else if c = '\\' then ['\\', '\\']
  else if c = '\n' then ['\\', 'n']
  else if c = '\r' then ['\\', 'r']
  else if c = '\t' then ['\\', 't']
  else if c.toNat = 8 then ['\\', 'b']
  else if c.toNat = 12 then ['\\', 'f']
  else if c.toNat < 32 then
    ['\\', 'u', '0', '0', hexDigit (c.toNat / 16), hexDigit (c.toNat % 16)]
  else [c]

/-- How a unit that is not a character is kept in a text: as the replacement character and the digits
of the unit. The replacement character itself is kept in the same way. -/
def keptUnit (unit : Nat) : Text :=
  ['\uFFFD', hexDigit (unit / 4096 % 16), hexDigit (unit / 256 % 16), hexDigit (unit / 16 % 16),
    hexDigit (unit % 16)]

def quote (text : Text) : Text := '"' :: text.flatMap escape ++ ['"']

end ComponentBundle.Text
