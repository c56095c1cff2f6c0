import SampleTypes.Fixture.Case
import SampleTypes.Proofs.Files.Paths

/-!
# Names of a fixture's files

The three files of a fixture have names that are told apart, and the name of the one with the
expected text tells the fixture.

* `Case.Proper`: a fixture that a directory can have; `Case.proper_of_mem`: those found in one;
* `Case.eq_of_fileName_eq`: one name, one fixture.
-/

namespace SampleTypes

theorem Text.intercalate_splitAt (separator : Char) (cs : List Char) :
    [separator].intercalate (splitAt separator cs) = cs := by
  induction cs with
  | nil => rfl
  | cons c rest ih =>
    rw [splitAt]
    cases hparts : splitAt separator rest with
    | nil => exact absurd hparts (splitAt_ne_nil separator rest)
    | cons part more =>
      rw [hparts] at ih
      by_cases hc : c = separator
      · rw [if_pos hc, List.intercalate_cons_cons, ih, hc]
        rfl
      · rw [if_neg hc]
        cases more with
        | nil => simpa using ih
        | cons next more =>
          rw [List.intercalate_cons_cons] at ih ⊢
          simpa using ih

namespace Fixture.Case

open Files (IsName)

theorem fileName_of_ofFileName? {fileName : String} {c : Case}
    (h : ofFileName? fileName = some c) : c.fileName = fileName := by
  unfold ofFileName? at h
  split at h
  · rename_i name language hparts
    split at h
    · simp at h
    · obtain rfl := Option.some.inj h
      have hsplit : Text.splitAt '.' fileName.toList =
          [name.toList, language.toList, "expected".toList] := by
        simpa [Function.comp_def] using congrArg (List.map String.toList) hparts
      have hjoined := Text.intercalate_splitAt '.' fileName.toList
      rw [hsplit] at hjoined
      rw [← String.toList_inj, ← hjoined]
      simp [Case.fileName, List.intercalate_cons_cons]
  · simp at h

/-- A fixture that a directory can have. -/
structure Proper (c : Case) : Prop where
  of_fileName : ofFileName? c.fileName = some c
  slash_notMem : '/' ∉ c.fileName.toList

theorem mem_ofNames {names : List String} {c : Case} :
    c ∈ ofNames names ↔ ∃ fileName ∈ names, ofFileName? fileName = some c := by
  rw [ofNames, List.mem_mergeSort, List.mem_filterMap]

theorem mem_of_mem_select {filter : Option String} {cases : List Case} {c : Case}
    (h : c ∈ select filter cases) : c ∈ cases := by
  cases filter with
  | none => exact h
  | some text => exact List.mem_of_mem_filter h

/-- The fixtures that are found among names without slashes. -/
theorem proper_of_mem {names : List String} {c : Case} (h : c ∈ ofNames names)
    (hnames : ∀ name ∈ names, '/' ∉ name.toList) : c.Proper := by
  obtain ⟨fileName, hmem, hcase⟩ := mem_ofNames.1 h
  obtain rfl := fileName_of_ofFileName? hcase
  exact ⟨hcase, hnames _ hmem⟩

variable {c c' : Case}

theorem eq_of_fileName_eq (h : c.Proper) (h' : c'.Proper) (heq : c.fileName = c'.fileName) :
    c = c' :=
  Option.some.inj (h.of_fileName.symm.trans (heq ▸ h'.of_fileName))

/-- What ends in more than dots is a name, if it has no slash. -/
theorem isName_append {start ending : String} (hstart : '/' ∉ start.toList)
    (hending : '/' ∉ ending.toList) (letter : Char) (hletter : letter ∈ ending.toList)
    (hdot : letter ≠ '.') : IsName (start ++ ending) := by
  have hmem : letter ∈ (start ++ ending).toList := by simp [hletter]
  refine ⟨?_, ?_, ?_, by simp [hstart, hending]⟩
  · intro h
    simp [h] at hmem
  · intro h
    rw [h] at hmem
    simp [hdot] at hmem
  · intro h
    rw [h] at hmem
    simp [hdot] at hmem

theorem Proper.name_slash_notMem (h : c.Proper) : '/' ∉ c.name.toList := by
  have hslash := h.slash_notMem
  simp only [fileName, String.toList_append, List.mem_append, not_or] at hslash
  exact hslash.1.1.1

theorem Proper.isName_fileName (h : c.Proper) : IsName c.fileName := by
  have hslash : '/' ∉ (c.name ++ "." ++ c.language).toList := by
    intro hmem
    exact h.slash_notMem (by rw [fileName, String.toList_append]; exact List.mem_append_left _ hmem)
  exact isName_append hslash (by decide) 'e' (by decide) (by decide)

theorem Proper.isName_sample (h : c.Proper) : IsName (c.name ++ ".json") :=
  isName_append h.name_slash_notMem (by decide) 'j' (by decide) (by decide)

theorem Proper.isName_settings (h : c.Proper) : IsName (c.name ++ ".config.json") :=
  isName_append h.name_slash_notMem (by decide) 'j' (by decide) (by decide)

theorem getLast?_fileName (c : Case) : c.fileName.toList.getLast? = some 'd' := by
  have hending : ".expected".toList = ".expecte".toList ++ ['d'] := by decide
  rw [fileName, String.toList_append, hending, ← List.append_assoc, List.getLast?_concat]

/-- No expected text is in a file with a sample or with settings. -/
theorem fileName_ne_append_json (c : Case) (start : String) : c.fileName ≠ start ++ ".json" := by
  intro h
  have hlast := getLast?_fileName c
  have hending : ".json".toList = ".jso".toList ++ ['n'] := by decide
  rw [h, String.toList_append, hending, ← List.append_assoc, List.getLast?_concat] at hlast
  simp at hlast

end Fixture.Case

end SampleTypes
