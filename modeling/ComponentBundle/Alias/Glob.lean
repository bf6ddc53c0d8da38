import ComponentBundle.Text.Basic

/-!
# Globs

A pattern whose stars stand for any texts without a line feed. Of all the ways to match, the first
star takes as much as it can, then the second, and so on.
-/
namespace ComponentBundle.Alias

/-- A pattern: the text before its first star and, for each star, the text behind it. -/
structure Glob where
  head : Text
  tails : List Text
  deriving DecidableEq, Repr

namespace Glob

def ofPattern (pattern : Text) : Glob :=
  match pattern.splitOnChar '*' with
  | [] => ⟨[], []⟩
  | head :: tails => ⟨head, tails⟩

/-- The ways to split a text in two whose first half has at most `n` characters and no line feed, the
longest first half first. -/
def splits (text : Text) (n : Nat) : List (Text × Text) :=
  ((List.range (n + 1)).reverse.map fun i => (text.take i, text.drop i)).filter
    fun parts => !parts.1.contains '\n'

def capturesOf : (tails : List Text) → (text : Text) → Option (List Text)
  | [], text => if text = [] then some [] else none
  | tail :: tails, text =>
    (splits text text.length).findSome? fun (taken, rest) =>
      (Text.dropPrefix? tail rest).bind fun rest => (capturesOf tails rest).map (taken :: ·)

/-- What the stars take of a specifier, when the glob matches it. -/
def captures? (glob : Glob) (specifier : Text) : Option (List Text) :=
  (Text.dropPrefix? glob.head specifier).bind (capturesOf glob.tails)

end Glob

end ComponentBundle.Alias
