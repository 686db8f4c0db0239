/-!
# Ranges of code points

A character property of Unicode is a set of code points. It is stored as the
ascending list of its maximal ranges, and membership walks the list only as
far as the first range above the code point asked for.
-/

namespace Switchboard.Text

/-- Code points as ascending, disjoint ranges with both ends included. -/
abbrev Ranges := List (Nat × Nat)

/-- Whether a code point lies in one of the ranges. -/
def Ranges.contains : Ranges → Nat → Bool
  | [], _ => false
  | (lo, hi) :: rest, n =>
    if n < lo then false else n ≤ hi || Ranges.contains rest n

end Switchboard.Text
