/-! # Ranges of characters

A class of characters is given by the ranges of their numbers, both ends included. -/

namespace JobShell.Text

/-- Whether a number lies in one of the ranges. -/
def inRanges (ranges : List (Nat × Nat)) (n : Nat) : Bool :=
  ranges.any fun r => r.1 ≤ n && n ≤ r.2

end JobShell.Text
