import SampleTypes.Json.Lines
import SampleTypes.Proofs.Pointwise
import SampleTypes.Proofs.Results

/-!
# Documents on lines

Reading a text line by line succeeds exactly if each line that is not blank is a document; else the
mistake is the first line that is none, by its place among all lines.
-/

namespace SampleTypes.Json

open Text (isBlankLine)

/-- A line that is blank or a document. -/
def Fits (line : String) : Prop :=
  isBlankLine line ∨ ∃ value, parse line = .ok value

/-- The lines that have to be documents. -/
def documentLines (lines : List String) : List String :=
  lines.filter fun line => !isBlankLine line

/-- The first line that does not fit, by its number from one. -/
structure LineError.IsFirst (e : LineError) (lines : List String) : Prop where
  counted : 0 < e.line
  unfit : ∃ line, lines[e.line - 1]? = some line ∧ ¬ isBlankLine line ∧ parse line = .error e.cause
  before : ∀ i, i + 1 < e.line → ∀ line, lines[i]? = some line → Fits line

theorem documentLines_cons_of_blank {line : String} (h : isBlankLine line) (more : List String) :
    documentLines (line :: more) = documentLines more := by
  simp [documentLines, h]

theorem documentLines_cons {line : String} (h : ¬ isBlankLine line) (more : List String) :
    documentLines (line :: more) = line :: documentLines more := by
  simp [documentLines, h]

theorem parseNumbered_of_document {line : String} (h : ¬ isBlankLine line) {value : Value}
    (hvalue : parse line = .ok value) (number : Nat) (more : List String) :
    parseNumbered number (line :: more) =
      (parseNumbered (number + 1) more).map fun values => value :: values := by
  rw [parseNumbered, if_neg h, hvalue]
  cases parseNumbered (number + 1) more <;> rfl

theorem parseNumbered_of_error {line : String} (h : ¬ isBlankLine line) {cause : ReadError}
    (hcause : parse line = .error cause) (number : Nat) (more : List String) :
    parseNumbered number (line :: more) = .error ⟨number, cause⟩ := by
  rw [parseNumbered, if_neg h, hcause]
  rfl

/-- The documents are read one for each line that is not blank, in their order. -/
theorem parseNumbered_eq_ok_iff {number : Nat} {lines : List String} {values : List Value} :
    parseNumbered number lines = .ok values ↔
      List.Forall₂ (fun line value => parse line = .ok value) (documentLines lines) values := by
  induction lines generalizing number values with
  | nil => simp [documentLines, eq_comm]
  | cons line more ih =>
    by_cases hblank : isBlankLine line
    · rw [parseNumbered_blank hblank, documentLines_cons_of_blank hblank, ih]
    · rw [documentLines_cons hblank, List.forall₂_cons_left_iff]
      cases hparse : parse line with
      | error cause => simp [parseNumbered_of_error hblank hparse]
      | ok value =>
        rw [parseNumbered_of_document hblank hparse, except_map_eq_ok_iff]
        simp only [ih, Except.ok.injEq]
        constructor
        · rintro ⟨found, hfound, rfl⟩
          exact ⟨value, found, rfl, hfound, rfl⟩
        · rintro ⟨_, found, rfl, hfound, rfl⟩
          exact ⟨found, hfound, rfl⟩

/-- The mistake is the first line that does not fit, counted on from the number of the first. -/
theorem exists_isFirst_of_parseNumbered {number : Nat} {lines : List String} {e : LineError}
    (h : parseNumbered number lines = .error e) :
    ∃ before, e.line = number + before ∧ LineError.IsFirst ⟨before + 1, e.cause⟩ lines := by
  induction lines generalizing number with
  | nil => simp at h
  | cons line more ih =>
    have hnext : Fits line → parseNumbered (number + 1) more = .error e →
        ∃ before, e.line = number + before ∧
          LineError.IsFirst ⟨before + 1, e.cause⟩ (line :: more) := by
      intro hfits h
      obtain ⟨before, hline, hfirst⟩ := ih h
      refine ⟨before + 1, by omega, Nat.succ_pos _, hfirst.unfit, fun i hi other hother => ?_⟩
      cases i with
      | zero =>
        obtain rfl : line = other := by simpa using hother
        exact hfits
      | succ i => exact hfirst.before i (by simpa using hi) other (by simpa using hother)
    by_cases hblank : isBlankLine line
    · rw [parseNumbered_blank hblank] at h
      exact hnext (.inl hblank) h
    · cases hparse : parse line with
      | error cause =>
        rw [parseNumbered_of_error hblank hparse] at h
        obtain rfl := Except.error.inj h
        exact ⟨0, rfl, Nat.succ_pos _, ⟨line, rfl, hblank, hparse⟩, by simp⟩
      | ok value =>
        rw [parseNumbered_of_document hblank hparse] at h
        refine hnext (.inr ⟨value, hparse⟩) ?_
        cases hmore : parseNumbered (number + 1) more with
        | error e' => simpa [hmore, Except.map] using h
        | ok values => simp [hmore, Except.map] at h

theorem LineError.IsFirst.not_fits {e : LineError} {lines : List String} (h : e.IsFirst lines) :
    ∃ line, lines[e.line - 1]? = some line ∧ ¬ Fits line := by
  obtain ⟨line, hline, hblank, hparse⟩ := h.unfit
  refine ⟨line, hline, ?_⟩
  rintro (h | ⟨value, hvalue⟩)
  · exact hblank h
  · simp [hparse] at hvalue

theorem LineError.IsFirst.unique {e e' : LineError} {lines : List String} (h : e.IsFirst lines)
    (h' : e'.IsFirst lines) : e = e' := by
  obtain ⟨line, hline, hnot⟩ := h.not_fits
  obtain ⟨line', hline', hnot'⟩ := h'.not_fits
  have hcounted := h.counted
  have hcounted' := h'.counted
  have hsame : e.line = e'.line := by
    rcases Nat.lt_trichotomy e.line e'.line with hlt | heq | hlt
    · exact absurd (h'.before _ (by omega) line hline) hnot
    · exact heq
    · exact absurd (h.before _ (by omega) line' hline') hnot'
  obtain ⟨found, hfound, -, hcause⟩ := h.unfit
  obtain ⟨found', hfound', -, hcause'⟩ := h'.unfit
  rw [hsame, hfound', Option.some.injEq] at hfound
  subst hfound
  obtain ⟨number, cause⟩ := e
  obtain ⟨number', cause'⟩ := e'
  simp_all

/-- A text is read exactly if each of its lines fits, and gives the documents in their order. -/
theorem parseLines_eq_ok_iff {text : String} {values : List Value} :
    parseLines text = .ok values ↔ List.Forall₂ (fun line value => parse line = .ok value)
      (documentLines (Text.lines text)) values :=
  parseNumbered_eq_ok_iff

theorem isFirst_of_parseLines {text : String} {e : LineError} (h : parseLines text = .error e) :
    e.IsFirst (Text.lines text) := by
  obtain ⟨before, hline, hfirst⟩ := exists_isFirst_of_parseNumbered h
  rwa [Nat.add_comm, ← hline] at hfirst

theorem exists_parseLines_iff {text : String} :
    (∃ values, parseLines text = .ok values) ↔ ∀ line ∈ Text.lines text, Fits line := by
  constructor
  · rintro ⟨values, h⟩ line hline
    by_cases hblank : isBlankLine line
    · exact .inl hblank
    · have hmem : line ∈ documentLines (Text.lines text) := by simp [documentLines, hline, hblank]
      obtain ⟨value, -, hvalue⟩ := exists_right_of_forall₂ (parseLines_eq_ok_iff.1 h) line hmem
      exact .inr ⟨value, hvalue⟩
  · intro h
    cases hparse : parseLines text with
    | ok values => exact ⟨values, rfl⟩
    | error e =>
      obtain ⟨line, hline, hnot⟩ := (isFirst_of_parseLines hparse).not_fits
      exact absurd (h line (List.mem_of_getElem? hline)) hnot

/-- A text is refused for its first line that does not fit. -/
theorem parseLines_eq_error_iff {text : String} {e : LineError} :
    parseLines text = .error e ↔ e.IsFirst (Text.lines text) := by
  refine ⟨isFirst_of_parseLines, fun h => ?_⟩
  cases hparse : parseLines text with
  | ok values =>
    obtain ⟨line, hline, hnot⟩ := h.not_fits
    exact absurd (exists_parseLines_iff.1 ⟨values, hparse⟩ line (List.mem_of_getElem? hline)) hnot
  | error found => rw [h.unique (isFirst_of_parseLines hparse)]

end SampleTypes.Json
