/-
  Ranges of code points.

  * `inRanges`: whether a code point lies in one of a list of ranges.
-/
namespace IsaTable.Text

/-- Whether a code point lies in one of the ranges. They stand in ascending order and both ends
    belong to them. -/
def inRanges (n : Nat) : List (Nat × Nat) → Bool
  | [] => false
  | (lo, hi) :: rest => lo ≤ n && (n ≤ hi || inRanges n rest)

end IsaTable.Text
