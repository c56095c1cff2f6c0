import SampleTypes.Convert
import SampleTypes.Json.Reader

/-!
# What is written

Settings that pass the checks always lead to an output: the text of the graph of the shape, in the
language that they name.  What the checks promise to the writers stands here as well.
-/

namespace SampleTypes

open Target (Language)

namespace Settings

variable {settings : Settings} {language : Language}

/-- The graph that is written for a shape. -/
def graph (settings : Settings) (language : Language) (shape : Shape) : Naming.Graph :=
  ((settings.naming language).resolve shape settings.rootName).1

theorem validate_eq_ok_iff : settings.validate = .ok () ↔
    settings.rootName.toList.any Text.isAlphanumeric ∧
      (settings.nestedStyle = .inside → settings.shareIdentical = false) := by
  unfold validate
  cases settings.rootName.toList.any Text.isAlphanumeric
  · simp
  · cases settings.shareIdentical <;> cases settings.nestedStyle <;> simp

/-- **The settings that are accepted.** -/
theorem check_eq_ok_iff : settings.check = .ok language ↔
    settings.validate = .ok () ∧ Language.find? settings.targetLanguage = some language ∧
      (settings.nestedStyle = .inside → language.supportsInline) := by
  unfold check
  cases hvalid : settings.validate with
  | error e => simp [bind, Except.bind]
  | ok u =>
    cases hfind : Language.find? settings.targetLanguage with
    | none => simp [bind, Except.bind]
    | some found =>
      cases settings.nestedStyle <;> cases found <;> cases language <;>
        simp [bind, Except.bind, Language.supportsInline]

/-- Types that are declared inside others are not shared. -/
theorem not_shareIdentical_of_check (h : settings.check = .ok language)
    (hinside : settings.nestedStyle = .inside) : settings.shareIdentical = false :=
  (validate_eq_ok_iff.1 (check_eq_ok_iff.1 h).1).2 hinside

theorem convertShape_of_check (h : settings.check = .ok language) (shape : Shape) :
    ∃ warnings, settings.convertShape shape
      = .ok ⟨language.render settings (settings.graph language shape), warnings⟩ := by
  refine ⟨((settings.naming language).resolve shape settings.rootName).2, ?_⟩
  rw [convertShape, h]
  rfl

/-- One object with one number, from its text to the text of its declaration. -/
theorem convert_one_member : ∃ value, Json.parse "\x7b\"a\":1\x7d" = .ok value ∧
    ({ targetLanguage := "ts" } : Settings).convert [value] =
      .ok ⟨"export interface Root \x7b\n  A: number;\n\x7d\n", []⟩ := by
  have hshape : Shape.ofSamples [.object [("a", .number (.integer 1))]] =
      .object [⟨"a", .primitive .integer, false⟩] := by
    cbv
  have hcheck : ({ targetLanguage := "ts" } : Settings).check = .ok .typescript :=
    check_eq_ok_iff.2
      ⟨validate_eq_ok_iff.2 ⟨by decide +kernel, by simp⟩, by decide +kernel, by simp⟩
  refine ⟨.object [("a", .number (.integer 1))], by rfl, ?_⟩
  rw [convert, hshape, convertShape, hcheck]
  exact congrArg Except.ok (by decide +kernel)

end Settings

end SampleTypes
