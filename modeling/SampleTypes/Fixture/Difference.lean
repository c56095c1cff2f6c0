import SampleTypes.Text.Lines

/-!
# Differences

The first line in which two texts differ.  Texts whose lines are equal may still differ in how the
lines end; such a difference has no line.
-/

namespace SampleTypes.Fixture

/-- A line that differs, by its number; a side that has ended there has no line. -/
structure Difference where
  line : Nat
  expected : Option String
  actual : Option String
deriving DecidableEq, Repr

namespace Difference

/-- The first difference of lines, given the number of the first line. -/
def ofLines? : Nat → List String → List String → Option Difference
  | _, [], [] => none
  | number, e :: _, [] => some ⟨number, some e, none⟩
  | number, [], a :: _ => some ⟨number, none, some a⟩
  | number, e :: es, a :: as =>
    if e = a then ofLines? (number + 1) es as else some ⟨number, some e, some a⟩

/-- The first line in which two texts differ. -/
def ofTexts? (expected actual : String) : Option Difference :=
  ofLines? 1 (Text.lines expected) (Text.lines actual)

/-- A line as it is shown. -/
def shown (line : Option String) : String :=
  line.getD "<end of file>"

/-- The report of a difference. -/
def report (d : Difference) : List String :=
  ["  line " ++ toString d.line ++ ":", "  - " ++ shown d.expected, "  + " ++ shown d.actual]

/-- Lines differ nowhere exactly when they are the same. -/
theorem ofLines?_eq_none_iff {number : Nat} {es as : List String} :
    ofLines? number es as = none ↔ es = as := by
  induction es generalizing number as with
  | nil => cases as <;> simp [ofLines?]
  | cons e es ih =>
    cases as with
    | nil => simp [ofLines?]
    | cons a as =>
      by_cases h : e = a
      · simp [ofLines?, h, ih]
      · simp [ofLines?, h]

end Difference

end SampleTypes.Fixture
