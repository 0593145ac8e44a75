/-!
# Ranges of code points

* `inRanges` : whether a code point is in one of the ranges that make up a class of characters.
-/

namespace Sixteen.Text

def inRanges (ranges : List (Nat × Nat)) (n : Nat) : Bool :=
  ranges.any fun (lo, hi) => lo ≤ n && n ≤ hi

/-- A code point is in one of the ranges if one of them has it between its ends. -/
theorem inRanges_iff {ranges : List (Nat × Nat)} {n : Nat} :
    inRanges ranges n ↔ ∃ r ∈ ranges, r.1 ≤ n ∧ n ≤ r.2 := by
  simp [inRanges]

end Sixteen.Text
