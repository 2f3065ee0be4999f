/-!
# Sets of code points

A class of characters is a list of closed ranges of code points in increasing order.
-/

namespace AccessControl

/-- Whether a code point lies in one of some ranges, which are in increasing order. -/
def inRanges (c : Nat) : List (Nat × Nat) → Bool
  | [] => false
  | (low, high) :: rest => if c < low then false else c ≤ high || inRanges c rest

end AccessControl
