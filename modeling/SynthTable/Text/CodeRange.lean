/-!
# Tables of code points

A property of characters is a list of closed ranges of code points in increasing order.
-/

namespace SynthTable.Text

/-- The code points from the first component up to the second, both included. -/
abbrev CodeRange := Nat × Nat

/-- Whether a code point lies in one of the ranges; the search stops at the first range that
begins above it. -/
def inRanges : List CodeRange → Nat → Bool
  | [], _ => false
  | (first, last) :: rest, n => if n < first then false else n ≤ last || inRanges rest n

end SynthTable.Text
