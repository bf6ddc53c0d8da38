/-!
# Texts

A text is a list of characters. Texts are compared with regular expressions written out by hand, so
the operations here are the few that such matching needs: taking a known word off the front, ASCII
letter case, lines, and the number of bytes that a text takes when it is stored.
-/
namespace ComponentBundle

/-- A text, character by character. -/
abbrev Text := List Char

namespace Text

/-- What follows `word` in `text`, when `text` begins with it. -/
def dropPrefix? : (word text : Text) → Option Text
  | [], text => some text
  | _ :: _, [] => none
  | w :: word, c :: text => if w = c then dropPrefix? word text else none

/-- Whether `word` stands somewhere in the text. -/
def hasInfix (word : Text) : (text : Text) → Bool
  | [] => word.isEmpty
  | c :: text => word.isPrefixOf (c :: text) || hasInfix word text

/-- The pieces between the occurrences of a separating character; one more piece than separators. -/
def splitOnChar (separator : Char) : Text → List Text
  | [] => [[]]
  | c :: rest =>
    match splitOnChar separator rest with
    | [] => [[c]]
    | piece :: pieces => if c = separator then [] :: piece :: pieces else (c :: piece) :: pieces

def lines (text : Text) : List Text := text.splitOnChar '\n'

/-- The texts one after the other, with `separator` between neighbours. -/
def joinWith (separator : Text) : List Text → Text
  | [] => []
  | [last] => last
  | first :: rest => first ++ separator ++ joinWith separator rest

def byteLength : Text → Nat
  | [] => 0
  | c :: rest => c.utf8Size + byteLength rest

def takeBytes : Text → Nat → Text
  | [], _ => []
  | c :: rest, n => if c.utf8Size ≤ n then c :: takeBytes rest (n - c.utf8Size) else []

/-- The text after the given number of bytes, a character that is cut being left whole. -/
def dropBytes : Text → Nat → Text
  | [], _ => []
  | c :: rest, n => if c.utf8Size ≤ n then dropBytes rest (n - c.utf8Size) else c :: rest

/-- Cutting a text at a byte offset and putting the halves together loses nothing. -/
theorem takeBytes_append_dropBytes (text : Text) (n : Nat) :
    text.takeBytes n ++ text.dropBytes n = text := by
  induction text generalizing n with
  | nil => rfl
  | cons c rest ih =>
    by_cases h : c.utf8Size ≤ n
    · simp [takeBytes, dropBytes, h, ih]
    · simp [takeBytes, dropBytes, h]

def ofNat (n : Nat) : Text := (toString n).toList

def ofInt (n : Int) : Text := (toString n).toList

end Text

end ComponentBundle
