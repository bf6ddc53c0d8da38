/-!
# Ranges of code points

A character class given by a standard is a sorted table of closed, disjoint ranges of code points.
Membership halves the table at each step.
-/
namespace ComponentBundle.Text

/-- Closed ranges of code points, in increasing order and apart from each other. -/
abbrev Ranges := Array (Nat × Nat)

namespace Ranges

/-- Looks for `n` between the positions `low` (included) and `high` (excluded). -/
def search (table : Ranges) (n : Nat) : Nat → Nat → Nat → Bool
  | 0, _, _ => false
  | fuel + 1, low, high =>
    if high ≤ low then false
    else
      let middle := (low + high) / 2
      match table[middle]? with
      | none => false
      | some (first, last) =>
        if n < first then search table n fuel low middle
        else if last < n then search table n fuel (middle + 1) high
        else true

def contains (table : Ranges) (c : Char) : Bool :=
  table.search c.toNat table.size 0 table.size

end Ranges

end ComponentBundle.Text
