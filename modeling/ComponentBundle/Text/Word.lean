import ComponentBundle.Text.Basic
import ComponentBundle.Text.Alphabetic
import ComponentBundle.Text.Mark

/-!
# Words

Word characters and alphanumeric characters of every script, and letters up to case for ASCII tag
names. Two characters outside ASCII are a lower case letter of ASCII up to case: the long s and the
Kelvin sign.
-/
namespace ComponentBundle.Text

/-- Code points that only the seventeenth edition of Unicode gives to letters, marks and digits. Words
follow the edition before it. -/
def youngest : Ranges := #[
  (0x88F, 0x88F), (0xC5C, 0xC5C), (0xCDC, 0xCDC), (0x1ACF, 0x1ADD), (0x1AE0, 0x1AEB),
  (0xA7CE, 0xA7CF), (0xA7D2, 0xA7D2), (0xA7D4, 0xA7D4), (0xA7F1, 0xA7F1), (0x10940, 0x10959),
  (0x10EC5, 0x10EC7), (0x10EFA, 0x10EFB), (0x11B60, 0x11B67), (0x11DB0, 0x11DDB),
  (0x11DE0, 0x11DE9), (0x16EA0, 0x16EB8), (0x16EBB, 0x16ED3), (0x16FF2, 0x16FF6),
  (0x187F8, 0x187FF), (0x18D09, 0x18D1E), (0x18D80, 0x18DF2), (0x1E6C0, 0x1E6DE),
  (0x1E6E0, 0x1E6F5), (0x1E6FE, 0x1E6FF), (0x2B73A, 0x2B73F), (0x2CEA2, 0x2CEAD),
  (0x323B0, 0x33479)]

/-- Whether the character is part of a word: a letter, a mark, a decimal digit, a connector or a
joiner. -/
def isWord (c : Char) : Bool :=
  let n := c.toNat
  if n < 128 then c.isAlphanum || c == '_'
  else ((alphabetic.contains c || mark.contains c || decimalDigit.contains c) &&
      !youngest.contains c) ||
    n == 0x200C || n == 0x200D || n == 0x203F || n == 0x2040 || n == 0x2054 ||
    n == 0xFE33 || n == 0xFE34 || (0xFE4D ≤ n && n ≤ 0xFE4F) || n == 0xFF3F

def isAlphanumeric (c : Char) : Bool :=
  if c.toNat < 128 then c.isAlphanum
  else alphabetic.contains c || decimalDigit.contains c || otherNumber.contains c

def atWordEnd : (rest : Text) → Bool
  | [] => true
  | c :: _ => !isWord c

def foldCase (c : Char) : Char :=
  if c.toNat = 0x17F then 's' else if c.toNat = 0x212A then 'k' else c.toLower

/-- What follows `word`, a word of lower case letters, in `text`, letters being compared up to
case. -/
def dropPrefixFold? : (word text : Text) → Option (Text)
  | [], text => some text
  | _ :: _, [] => none
  | w :: word, c :: text => if w = foldCase c then dropPrefixFold? word text else none

end ComponentBundle.Text
