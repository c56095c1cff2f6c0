import SampleTypes.Text.Lines
import Mathlib.Data.List.Basic

/-!
# Line endings

What the lines of a text are, said without the function that cuts them: each line but the last ends
with a newline or with a carriage return and a newline, the last one may end so.

* `FallsInto`: the lines of a text; `splitLines_eq_iff`: the function finds them;
* `splitLines_eq_iff_ended_eq`: two texts have the same lines exactly if they are equal once all
  lines end with a plain newline.
-/

namespace SampleTypes.Text

/-- A text falls into lines. -/
inductive FallsInto : List Char → List (List Char) → Prop
  | nil : FallsInto [] []
  /-- A last line that nothing ends. -/
  | last {line : List Char} : line ≠ [] → '\n' ∉ line → FallsInto line [line]
  | newline {line rest : List Char} {lines : List (List Char)} :
      '\n' ∉ line → line.getLast? ≠ some '\r' → FallsInto rest lines →
        FallsInto (line ++ '\n' :: rest) (line :: lines)
  | returned {line rest : List Char} {lines : List (List Char)} :
      '\n' ∉ line → FallsInto rest lines → FallsInto (line ++ '\r' :: '\n' :: rest) (line :: lines)

/-! ### The lines are found -/

theorem splitLines_cons {c : Char} {rest : List Char} (hnewline : c ≠ '\n')
    (hreturn : ∀ more, c = '\r' → rest ≠ '\n' :: more) {line : List Char}
    {more : List (List Char)} (h : splitLines rest = line :: more) :
    splitLines (c :: rest) = (c :: line) :: more := by
  rw [splitLines, h]
  · exact hnewline
  · exact fun more hc hrest => hreturn more hc hrest

theorem splitLines_of_notMem {line : List Char} (hne : line ≠ []) (h : '\n' ∉ line) :
    splitLines line = [line] := by
  induction line with
  | nil => exact absurd rfl hne
  | cons c rest ih =>
    simp only [List.mem_cons, not_or] at h
    by_cases hrest : rest = []
    · subst hrest
      simp [splitLines, Ne.symm h.1]
    · refine splitLines_cons (Ne.symm h.1) ?_ (ih hrest h.2)
      rintro more - rfl
      exact h.2 List.mem_cons_self

theorem splitLines_append_newline {line : List Char} (h : '\n' ∉ line)
    (hreturn : line.getLast? ≠ some '\r') (rest : List Char) :
    splitLines (line ++ '\n' :: rest) = line :: splitLines rest := by
  induction line with
  | nil => rfl
  | cons c line ih =>
    simp only [List.mem_cons, not_or] at h
    refine splitLines_cons (Ne.symm h.1) ?_ (ih h.2 ?_)
    · rintro more rfl heq
      cases line with
      | nil => exact hreturn rfl
      | cons d line => exact h.2 (by simp_all)
    · intro hlast
      cases line with
      | nil => simp at hlast
      | cons d line => exact hreturn (by simpa using hlast)

theorem splitLines_append_return {line : List Char} (h : '\n' ∉ line) (rest : List Char) :
    splitLines (line ++ '\r' :: '\n' :: rest) = line :: splitLines rest := by
  induction line with
  | nil => rfl
  | cons c line ih =>
    simp only [List.mem_cons, not_or] at h
    refine splitLines_cons (Ne.symm h.1) ?_ (ih h.2)
    rintro more - heq
    cases line with
    | nil => simp at heq
    | cons d line => exact h.2 (by simp_all)

theorem FallsInto.splitLines_eq {cs : List Char} {lines : List (List Char)}
    (h : FallsInto cs lines) : splitLines cs = lines := by
  induction h with
  | nil => rfl
  | last hne h => exact splitLines_of_notMem hne h
  | newline h hreturn _ ih => rw [splitLines_append_newline h hreturn, ih]
  | returned h _ ih => rw [splitLines_append_return h, ih]

theorem FallsInto.eq_nil {cs : List Char} (h : FallsInto cs []) : cs = [] := by
  cases h
  rfl

/-- A character before a line belongs to it, unless it is part of a line ending. -/
theorem FallsInto.cons {c : Char} {rest : List Char} (hnewline : c ≠ '\n')
    (hreturn : ∀ more, c = '\r' → rest ≠ '\n' :: more) {line : List Char}
    {more : List (List Char)} (h : FallsInto rest (line :: more)) :
    FallsInto (c :: rest) ((c :: line) :: more) := by
  cases h with
  | last _ h => exact .last (List.cons_ne_nil c rest) (by simp [Ne.symm hnewline, h])
  | @newline _ rest _ h hlast hmore =>
    refine @FallsInto.newline (c :: line) _ _ (by simp [Ne.symm hnewline, h]) ?_ hmore
    cases line with
    | nil => exact fun hc => hreturn rest (by simpa using hc) rfl
    | cons d line => simpa using hlast
  | @returned line _ _ h hmore =>
    exact @FallsInto.returned (c :: line) _ _ (by simp [Ne.symm hnewline, h]) hmore

theorem fallsInto_splitLines (cs : List Char) : FallsInto cs (splitLines cs) := by
  fun_induction splitLines cs with
  | case1 => exact .nil
  | case2 rest ih => exact @FallsInto.newline [] _ _ List.not_mem_nil (by simp) ih
  | case3 rest ih => exact @FallsInto.returned [] _ _ List.not_mem_nil ih
  | case4 c rest hnewline _ h ih =>
    rw [h] at ih
    rw [ih.eq_nil]
    exact .last (List.cons_ne_nil c []) (by simpa using Ne.symm hnewline)
  | case5 c rest hnewline hreturn line more h ih =>
    rw [h] at ih
    exact ih.cons hnewline fun more hc hrest => hreturn more hc hrest

/-- The lines of a text are those that it falls into. -/
theorem splitLines_eq_iff {cs : List Char} {lines : List (List Char)} :
    splitLines cs = lines ↔ FallsInto cs lines :=
  ⟨fun h => h ▸ fallsInto_splitLines cs, FallsInto.splitLines_eq⟩

/-! ### Endings alike -/

/-- The text without the carriage returns right before newlines. -/
def dropReturns : List Char → List Char
  | [] => []
  | '\r' :: '\n' :: rest => '\n' :: dropReturns rest
  | c :: rest => c :: dropReturns rest

/-- The text with a plain newline at the end of each line, the last one too. -/
def ended (cs : List Char) : List Char :=
  let plain := dropReturns cs
  if plain = [] ∨ plain.getLast? = some '\n' then plain else plain ++ ['\n']

theorem dropReturns_of_notMem {line : List Char} (h : '\n' ∉ line) : dropReturns line = line := by
  fun_induction dropReturns line <;> simp_all

theorem dropReturns_cons {c : Char} {rest : List Char}
    (hreturn : ∀ more, c = '\r' → rest ≠ '\n' :: more) :
    dropReturns (c :: rest) = c :: dropReturns rest := by
  rw [dropReturns]
  exact hreturn

theorem dropReturns_append_newline {line : List Char} (h : '\n' ∉ line)
    (hreturn : line.getLast? ≠ some '\r') (rest : List Char) :
    dropReturns (line ++ '\n' :: rest) = line ++ '\n' :: dropReturns rest := by
  induction line with
  | nil => simp [dropReturns]
  | cons c line ih =>
    simp only [List.mem_cons, not_or] at h
    rw [List.cons_append, dropReturns_cons, ih h.2, List.cons_append]
    · cases line with
      | nil => simp
      | cons d line => simpa using hreturn
    · rintro more rfl heq
      cases line with
      | nil => exact hreturn rfl
      | cons d line => exact h.2 (by simp_all)

theorem dropReturns_append_return {line : List Char} (h : '\n' ∉ line) (rest : List Char) :
    dropReturns (line ++ '\r' :: '\n' :: rest) = line ++ '\n' :: dropReturns rest := by
  induction line with
  | nil => rfl
  | cons c line ih =>
    simp only [List.mem_cons, not_or] at h
    rw [List.cons_append, dropReturns_cons, ih h.2, List.cons_append]
    rintro more - heq
    cases line with
    | nil => simp at heq
    | cons d line => exact h.2 (by simp_all)

theorem ended_of_append {cs line rest : List Char}
    (h : dropReturns cs = line ++ '\n' :: dropReturns rest) :
    ended cs = line ++ '\n' :: ended rest := by
  unfold ended
  rw [h]
  by_cases hrest : dropReturns rest = []
  · simp [hrest]
  · have hlast : (line ++ '\n' :: dropReturns rest).getLast? = (dropReturns rest).getLast? := by
      rw [List.append_cons, List.getLast?_append_of_ne_nil _ hrest]
    simp only [hlast, hrest, List.append_eq_nil_iff, List.cons_ne_nil, and_false, false_or]
    split <;> simp

/-- A text with all lines ended is its lines, each with a newline after it. -/
theorem FallsInto.ended_eq {cs : List Char} {lines : List (List Char)} (h : FallsInto cs lines) :
    ended cs = lines.flatMap (· ++ ['\n']) := by
  induction h with
  | nil => rfl
  | @last line hne h =>
    have hlast : line.getLast? ≠ some '\n' := fun hlast => h (List.mem_of_getLast? hlast)
    simp [ended, dropReturns_of_notMem h, hne, hlast]
  | newline h hreturn _ ih =>
    rw [ended_of_append (dropReturns_append_newline h hreturn _), ih]
    simp
  | returned h _ ih =>
    rw [ended_of_append (dropReturns_append_return h _), ih]
    simp

theorem FallsInto.newline_notMem {cs : List Char} {lines : List (List Char)}
    (h : FallsInto cs lines) : ∀ line ∈ lines, '\n' ∉ line := by
  induction h with
  | nil => exact List.forall_mem_nil _
  | last _ h => simpa using h
  | newline h _ _ ih => exact List.forall_mem_cons.2 ⟨h, ih⟩
  | returned h _ ih => exact List.forall_mem_cons.2 ⟨h, ih⟩

theorem append_newline_inj {line other rest more : List Char} (h : '\n' ∉ line)
    (h' : '\n' ∉ other) :
    line ++ '\n' :: rest = other ++ '\n' :: more ↔ line = other ∧ rest = more := by
  induction line generalizing other with
  | nil =>
    cases other with
    | nil => simp
    | cons d other =>
      simp only [List.mem_cons, not_or] at h'
      simp [h'.1]
  | cons c line ih =>
    simp only [List.mem_cons, not_or] at h
    cases other with
    | nil => simp [Ne.symm h.1]
    | cons d other =>
      simp only [List.mem_cons, not_or] at h'
      simp [ih h.2 h'.2, and_assoc]

/-- Ended lines can be told apart. -/
theorem eq_of_flatMap_eq {lines others : List (List Char)} (h : ∀ line ∈ lines, '\n' ∉ line)
    (h' : ∀ line ∈ others, '\n' ∉ line)
    (heq : lines.flatMap (· ++ ['\n']) = others.flatMap (· ++ ['\n'])) : lines = others := by
  induction lines generalizing others with
  | nil =>
    cases others with
    | nil => rfl
    | cons line others => simp at heq
  | cons line lines ih =>
    cases others with
    | nil => simp at heq
    | cons other others =>
      rw [List.forall_mem_cons] at h h'
      simp only [List.flatMap_cons, List.append_assoc, List.singleton_append] at heq
      obtain ⟨rfl, hrest⟩ := (append_newline_inj h.1 h'.1).1 heq
      rw [ih h.2 h'.2 hrest]

/-- Two texts have the same lines exactly if they differ only in how lines end. -/
theorem splitLines_eq_iff_ended_eq {cs ds : List Char} :
    splitLines cs = splitLines ds ↔ ended cs = ended ds := by
  have hcs := fallsInto_splitLines cs
  have hds := fallsInto_splitLines ds
  constructor
  · intro h
    rw [hcs.ended_eq, hds.ended_eq, h]
  · intro h
    rw [hcs.ended_eq, hds.ended_eq] at h
    exact eq_of_flatMap_eq hcs.newline_notMem hds.newline_notMem h

end SampleTypes.Text
