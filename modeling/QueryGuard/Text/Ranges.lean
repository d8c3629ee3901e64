/-!
Sets of characters given as closed ranges of code points, in ascending order.
-/

namespace QueryGuard.Text

/-- Whether a code point lies in one of the closed ranges of an ascending table. The scan stops
at the first range that begins above the code point. -/
def inRanges : List (Nat × Nat) → Nat → Bool
  | [], _ => false
  | (lo, hi) :: rest, n => if n < lo then false else n ≤ hi || inRanges rest n

end QueryGuard.Text
