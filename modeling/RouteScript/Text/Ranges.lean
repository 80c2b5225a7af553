/-!
Sets of characters as lists of closed ranges of code points.
-/

namespace RouteScript.Text

/-- Membership in a list of closed ranges. -/
def inRanges (ranges : List (Nat × Nat)) (n : Nat) : Bool :=
  ranges.any fun r => r.1 ≤ n && n ≤ r.2

end RouteScript.Text
