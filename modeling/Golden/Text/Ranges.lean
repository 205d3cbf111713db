/-!
# Tables of code points

A set of code points is given by closed ranges in ascending order.
-/

namespace Golden

/-- Is the code point in one of the ranges? The ranges ascend, so the search ends early. -/
def inRanges (n : Nat) : List (Nat × Nat) → Bool
  | [] => false
  | (lo, hi) :: rs => if n < lo then false else n ≤ hi || inRanges n rs

end Golden
