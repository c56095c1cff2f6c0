/-!
# Tables of code points

A character property is a list of closed ranges of code points, and, where letters of two kinds
alternate, a list of runs that take every second code point.  Both are searched from the front.
-/

namespace SampleTypes.Text

/-- A closed range of code points, or the two ends of a run that takes every second one. -/
abbrev CodeRange := Nat × Nat

/-- `n` lies in one of the ranges. -/
def inRanges (ranges : List CodeRange) (n : Nat) : Bool :=
  ranges.any fun r => r.1 ≤ n && n ≤ r.2

/-- `n` is on one of the runs: within its ends and an even distance from its first point. -/
def inRuns (runs : List CodeRange) (n : Nat) : Bool :=
  runs.any fun r => r.1 ≤ n && n ≤ r.2 && (n - r.1) % 2 == 0

theorem inRanges_iff {ranges : List CodeRange} {n : Nat} :
    inRanges ranges n = true ↔ ∃ r ∈ ranges, r.1 ≤ n ∧ n ≤ r.2 := by
  simp [inRanges]

end SampleTypes.Text
