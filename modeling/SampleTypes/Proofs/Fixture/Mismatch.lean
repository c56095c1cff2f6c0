import SampleTypes.Proofs.Fixture.Step
import SampleTypes.Proofs.Text.LineEndings

/-!
# Mismatches

A fixture fails if its output is another text than the expected one.  The report explains this by
the first line that differs.

* `Difference.IsFirst`: the first line that differs, said without the search for it;
* `Explains`: the lines of a report that show it;
* `explanation_of_mismatch`: there is an explanation unless the texts differ only in line endings.
-/

namespace SampleTypes.Fixture

open Files (World)
open Text (FallsInto ended)

namespace Difference

/-- The first line in which two lists of lines differ, by its number from one. -/
structure IsFirst (d : Difference) (es as : List String) : Prop where
  counted : 0 < d.line
  before : ∀ i, i + 1 < d.line → es[i]? = as[i]?
  expected_eq : d.expected = es[d.line - 1]?
  actual_eq : d.actual = as[d.line - 1]?
  differs : d.expected ≠ d.actual

theorem IsFirst.unique {d d' : Difference} {es as : List String} (h : d.IsFirst es as)
    (h' : d'.IsFirst es as) : d = d' := by
  have hdiffers : es[d.line - 1]? ≠ as[d.line - 1]? :=
    h.expected_eq ▸ h.actual_eq ▸ h.differs
  have hdiffers' : es[d'.line - 1]? ≠ as[d'.line - 1]? :=
    h'.expected_eq ▸ h'.actual_eq ▸ h'.differs
  have hcounted := h.counted
  have hcounted' := h'.counted
  have hline : d.line = d'.line := by
    rcases Nat.lt_trichotomy d.line d'.line with hlt | heq | hlt
    · exact absurd (h'.before _ (by omega)) hdiffers
    · exact heq
    · exact absurd (h.before _ (by omega)) hdiffers'
  have hexpected : d.expected = d'.expected := by rw [h.expected_eq, h'.expected_eq, hline]
  have hactual : d.actual = d'.actual := by rw [h.actual_eq, h'.actual_eq, hline]
  cases d
  cases d'
  simp_all

/-- What is found counts on from the number of the first line. -/
theorem exists_isFirst_of_ofLines? {number : Nat} {es as : List String} {d : Difference}
    (h : ofLines? number es as = some d) :
    ∃ line, d.line = number + line ∧ IsFirst ⟨line + 1, d.expected, d.actual⟩ es as := by
  fun_induction ofLines? number es as with
  | case1 number => simp at h
  | case2 number e es =>
    obtain rfl := Option.some.inj h
    exact ⟨0, rfl, by simp, by simp, rfl, rfl, by simp⟩
  | case3 number a as =>
    obtain rfl := Option.some.inj h
    exact ⟨0, rfl, by simp, by simp, rfl, rfl, by simp⟩
  | case4 number e es as ih =>
    obtain ⟨line, hline, hfirst⟩ := ih h
    refine ⟨line + 1, by omega, by simp, fun i hi => ?_, hfirst.expected_eq, hfirst.actual_eq,
      hfirst.differs⟩
    cases i with
    | zero => rfl
    | succ i => exact hfirst.before i (by simpa using hi)
  | case5 number e es a as hne =>
    obtain rfl := Option.some.inj h
    exact ⟨0, rfl, by simp, by simp, rfl, rfl, by simpa using hne⟩

/-- The search finds the first difference. -/
theorem ofLines?_eq_some_iff {es as : List String} {d : Difference} :
    ofLines? 1 es as = some d ↔ d.IsFirst es as := by
  constructor
  · intro h
    obtain ⟨line, hline, hfirst⟩ := exists_isFirst_of_ofLines? h
    rwa [Nat.add_comm, ← hline] at hfirst
  · intro h
    cases hfound : ofLines? 1 es as with
    | none =>
      obtain rfl := ofLines?_eq_none_iff.1 hfound
      exact absurd (h.expected_eq.trans h.actual_eq.symm) h.differs
    | some found =>
      obtain ⟨line, hline, hfirst⟩ := exists_isFirst_of_ofLines? hfound
      rw [Nat.add_comm, ← hline] at hfirst
      rw [h.unique hfirst]

/-- Where two texts first differ, by the lines that they fall into. -/
theorem ofTexts?_eq_some_iff {expected actual : String} {d : Difference} :
    ofTexts? expected actual = some d ↔ ∃ es as, FallsInto expected.toList es ∧
      FallsInto actual.toList as ∧ d.IsFirst (es.map String.ofList) (as.map String.ofList) := by
  rw [ofTexts?, ofLines?_eq_some_iff]
  constructor
  · exact fun h => ⟨_, _, Text.fallsInto_splitLines _, Text.fallsInto_splitLines _, h⟩
  · rintro ⟨es, as, hes, has, h⟩
    rwa [Text.lines, Text.lines, hes.splitLines_eq, has.splitLines_eq]

/-- Texts have no first difference exactly if they differ in line endings only. -/
theorem ofTexts?_eq_none_iff {expected actual : String} :
    ofTexts? expected actual = none ↔ ended expected.toList = ended actual.toList := by
  have hinjective : Function.Injective String.ofList := fun _ _ => String.ofList_injective
  rw [ofTexts?, ofLines?_eq_none_iff, ← Text.splitLines_eq_iff_ended_eq, Text.lines, Text.lines]
  exact (List.map_injective_iff.2 hinjective).eq_iff

end Difference

/--
The lines that explain why two texts differ: the number of the first line that does, and both sides
of it.  Texts that differ in nothing but the ends of their lines are left without an explanation.
-/
def Explains (expected actual : String) (explanation : List String) : Prop :=
  if ended expected.toList = ended actual.toList then explanation = []
  else ∃ (d : Difference) (es as : List (List Char)),
    FallsInto expected.toList es ∧ FallsInto actual.toList as ∧
      d.IsFirst (es.map String.ofList) (as.map String.ofList) ∧
      explanation =
        ["  line " ++ toString d.line ++ ":", "  - " ++ d.expected.getD "<end of file>",
          "  + " ++ d.actual.getD "<end of file>"]

theorem exists_explains_report (expected actual label : String) :
    ∃ explanation, (Verdict.failed (Difference.ofTexts? expected actual)).report label =
      ("FAIL " ++ label) :: explanation ∧ Explains expected actual explanation := by
  refine ⟨_, rfl, ?_⟩
  unfold Explains
  cases hfound : Difference.ofTexts? expected actual with
  | none => rw [if_pos (Difference.ofTexts?_eq_none_iff.1 hfound)]; rfl
  | some d =>
    have hlines : ¬ ended expected.toList = ended actual.toList := by
      rw [← Difference.ofTexts?_eq_none_iff, hfound]
      simp
    obtain ⟨es, as, hes, has, hfirst⟩ := Difference.ofTexts?_eq_some_iff.1 hfound
    rw [if_neg hlines]
    exact ⟨d, es, as, hes, has, hfirst, rfl⟩

/--
An output that is another text than the expected one fails the fixture, and the report explains the
first line that differs and nothing else, unless the texts differ in the ends of their lines only.
-/
theorem explanation_of_mismatch (request : Request) (c : Case) (world : World)
    (expected actual : String) (hbless : request.bless = false)
    (hexpected : world.textAt (c.expectedPath request.directory) = .ok expected)
    (hdiffers : actual ≠ expected) :
    ∃ (verdict : Verdict) (explanation : List String),
      @Eq (Except RunError Verdict × World) ((compare World.host request c actual).run world)
        (.ok verdict, world) ∧
      verdict.report c.label = ("FAIL " ++ c.label) :: explanation ∧
      Explains expected actual explanation := by
  obtain ⟨explanation, hreport, hexplains⟩ := exists_explains_report expected actual c.label
  refine ⟨.failed (Difference.ofTexts? expected actual), explanation, ?_, hreport, hexplains⟩
  rw [run_compare World.host rfl, hexpected]
  simp [hdiffers, hbless]

/-- The second line differs, and the third is there on one side only. -/
theorem explanation_of_second_line :
    let world : World := { root := .directory [("a.ts.expected", .file "x\ny\n")] }
    ∃ (verdict : Verdict) (explanation : List String),
      @Eq (Except RunError Verdict × World)
        ((compare World.host { directory := "." } ⟨"a", "ts"⟩ "x\nz\n\n").run world)
        (.ok verdict, world) ∧
      verdict.report "a [ts]" = "FAIL a [ts]" :: explanation ∧
      Explains "x\ny\n" "x\nz\n\n" explanation :=
  explanation_of_mismatch { directory := "." } ⟨"a", "ts"⟩
    { root := .directory [("a.ts.expected", .file "x\ny\n")] } _ _ rfl (by decide +kernel)
    (by decide)

/-- A fixture whose expected text has other line endings fails without a word. -/
theorem no_explanation_of_line_endings :
    let expected := "export interface Root \x7b\r\n  A: number;\r\n\x7d\r\n"
    let actual := "export interface Root \x7b\n  A: number;\n\x7d\n"
    let files := [("s.json", .file "\x7b\"a\":1\x7d"), ("s.ts.expected", .file expected)]
    let world : World := { root := .directory files }
    actual ≠ expected ∧ conversionIn world.toTree "." ⟨"s", "ts"⟩ = .ok ⟨actual, []⟩ ∧
      (({ directory := "." } : Request).run World.host world).1 =
        { exit := .failure, stdout := "FAIL s [ts]\n1 fixtures, 1 failed\n" } := by
  intro expected actual files world
  have hdiffers : actual ≠ expected := by decide
  have hconversion : conversionIn world.toTree "." ⟨"s", "ts"⟩ = .ok ⟨actual, []⟩ :=
    conversionIn_one_member expected
  refine ⟨hdiffers, hconversion, ?_⟩
  have hnames : world.namesAt "." = .ok ["s.json", "s.ts.expected"] := by decide +kernel
  have hselected : Case.select none (Case.ofNames ["s.json", "s.ts.expected"]) = [⟨"s", "ts"⟩] := by
    decide +kernel
  have hexpected : world.textAt (Case.expectedPath "." ⟨"s", "ts"⟩) = .ok expected := by
    decide +kernel
  have hnone : Difference.ofTexts? expected actual = none :=
    Difference.ofTexts?_eq_none_iff.2 (by decide)
  have hcompare : (compare World.host { directory := "." } ⟨"s", "ts"⟩ actual).run world =
      (.ok (.failed none), world) := by
    rw [run_compare World.host rfl, hexpected]
    simp [hdiffers, hnone]
  rw [run_eq World.host rfl, hnames]
  dsimp only
  rw [hselected, runCases_cons_eq, runCase_eq World.host rfl, hconversion]
  dsimp only
  rw [hcompare]
  decide +kernel

end SampleTypes.Fixture
