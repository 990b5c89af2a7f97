/-!
# Ranges of code points

Classes of characters are kept as lists of closed ranges of code points.
-/

namespace UaaAdmin.Text

/-- True if `n` lies in one of the closed ranges. -/
def inRanges (ranges : List (Nat × Nat)) (n : Nat) : Bool :=
  ranges.any fun r => r.1 ≤ n && n ≤ r.2

end UaaAdmin.Text
