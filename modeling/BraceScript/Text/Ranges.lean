/-!
# Sets of characters given by ranges

A property of characters that a standard fixes by enumeration is kept as a list of closed
ranges of code points. `Ranges.contains` is the membership test.
-/

namespace BraceScript.Text

/-- Closed ranges of code points, in increasing order. -/
abbrev Ranges := List (Nat × Nat)

/-- Whether a code point lies in one of the ranges. -/
def Ranges.contains (rs : Ranges) (n : Nat) : Bool :=
  rs.any fun r => r.1 ≤ n && n ≤ r.2

end BraceScript.Text
