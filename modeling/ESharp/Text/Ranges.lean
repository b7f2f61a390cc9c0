/-!
# Ranges of code points

A class of characters is a list of ranges in increasing order.
-/

namespace ESharp.Text

/-- Whether a number lies in one of the ranges. The ranges increase, so the search ends at the
first range that starts above the number. -/
def inRanges : List (Nat × Nat) → Nat → Bool
  | [], _ => false
  | (low, high) :: ranges, n => low ≤ n && (n ≤ high || inRanges ranges n)

end ESharp.Text
