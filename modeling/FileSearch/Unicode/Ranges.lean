/-!
# Sets of code points

Properties of characters are given as lists of code point intervals.
-/

set_option autoImplicit false

namespace FileSearch.Unicode

/-- Code point intervals, both ends included. -/
abbrev Ranges := List (Nat × Nat)

/-- Whether a character's code point lies in one of the intervals. -/
def Ranges.contains (ranges : Ranges) (c : Char) : Bool :=
  ranges.any fun range => range.1 ≤ c.toNat && c.toNat ≤ range.2

end FileSearch.Unicode
