import Mathlib.Data.List.Chain
import SampleTypes.Target.Layout

/-!
# Lines of an output

The lines of a text that is put together from others are the lines of these, when newlines stand
between them.  That no line begins with a given character is kept when texts are put together in any
way, also in the middle of lines.

* `toList_infix_intercalate` and the lemmas before it: what texts that are put together have in
  them;
* `HasLine` tells the lines of a text, with `hasLine_intercalate_iff` for parts with newlines
  between them;
* `NoLineOpens` says that no line begins with a character, and `NoLineOpens.append` that it is kept.
-/

namespace SampleTypes

/-! ### Parts of texts -/

theorem toList_prefix_append (s t : String) : s.toList <+: (s ++ t).toList := by
  rw [String.toList_append]
  exact List.prefix_append _ _

theorem toList_infix_left {s t : String} (h : s.toList <:+: t.toList) (after : String) :
    s.toList <:+: (t ++ after).toList := by
  rw [String.toList_append]
  exact h.trans (List.prefix_append _ _).isInfix

theorem toList_infix_right {s t : String} (h : s.toList <:+: t.toList) (before : String) :
    s.toList <:+: (before ++ t).toList := by
  rw [String.toList_append]
  exact h.trans (List.suffix_append _ _).isInfix

theorem toList_infix_intercalate (separator : String) {s : String} {parts : List String}
    (h : s ∈ parts) : s.toList <:+: (separator.intercalate parts).toList := by
  rw [String.toList_intercalate, List.intercalate]
  apply List.infix_of_mem_flatten
  obtain ⟨i, hi⟩ := List.mem_iff_getElem?.1 (List.mem_map_of_mem (f := String.toList) h)
  rw [← List.getElem?_intersperse_two_mul] at hi
  exact List.mem_of_getElem? hi

namespace Target

/-! ### Lines -/

/-- The second text is a line of the first one. -/
def HasLine (text line : String) : Prop :=
  line.toList ∈ text.toList.splitOn '\n'

instance (text line : String) : Decidable (HasLine text line) :=
  inferInstanceAs (Decidable (line.toList ∈ text.toList.splitOn '\n'))

variable {line : String}

theorem hasLine_append_newline_iff (s t : String) :
    HasLine (s ++ "\n" ++ t) line ↔ HasLine s line ∨ HasLine t line := by
  have hchars : (s ++ "\n" ++ t).toList = s.toList ++ '\n' :: t.toList := by
    simp
  rw [HasLine, hchars, List.splitOn_append_cons_self, List.mem_append]
  rfl

/-- A text without newlines is one line. -/
theorem hasLine_iff_eq {s : String} (h : '\n' ∉ s.toList) : HasLine s line ↔ line = s := by
  rw [HasLine, List.splitOn_eq_singleton h, List.mem_singleton, String.toList_inj]

theorem not_hasLine_empty (h : line ≠ "") : ¬ HasLine "" line := by
  rw [hasLine_iff_eq (by decide)]
  exact h

/-- A newline at the end starts no line but an empty one. -/
theorem hasLine_append_end_iff (h : line ≠ "") (s : String) :
    HasLine (s ++ "\n") line ↔ HasLine s line := by
  rw [← String.append_empty (s := s ++ "\n"), hasLine_append_newline_iff,
    or_iff_left (not_hasLine_empty h)]

/-- Of two newlines the second ends an empty line. -/
theorem hasLine_append_blank_line_iff (h : line ≠ "") (s t : String) :
    HasLine (s ++ "\n\n" ++ t) line ↔ HasLine s line ∨ HasLine t line := by
  have hsplit : s ++ "\n\n" ++ t = s ++ "\n" ++ ("" ++ "\n" ++ t) := by
    rw [← String.toList_inj]
    simp
  rw [hsplit, hasLine_append_newline_iff, hasLine_append_newline_iff,
    or_iff_right (not_hasLine_empty h)]

theorem hasLine_append_blank_lines_iff (h : line ≠ "") (s t : String) :
    HasLine (s ++ "\n\n\n" ++ t) line ↔ HasLine s line ∨ HasLine t line := by
  have hsplit : s ++ "\n\n\n" ++ t = s ++ "\n\n" ++ ("" ++ "\n" ++ t) := by
    rw [← String.toList_inj]
    simp
  rw [hsplit, hasLine_append_blank_line_iff h, hasLine_append_newline_iff,
    or_iff_right (not_hasLine_empty h)]

/-- The lines of parts with newlines between them are those of the parts. -/
theorem hasLine_intercalate_iff {separator : String} (h : line ≠ "")
    (hseparator : ∀ s t, HasLine (s ++ separator ++ t) line ↔ HasLine s line ∨ HasLine t line)
    (parts : List String) :
    HasLine (separator.intercalate parts) line ↔ ∃ part ∈ parts, HasLine part line := by
  induction parts with
  | nil => simpa using not_hasLine_empty h
  | cons part parts ih =>
    cases parts with
    | nil => simp
    | cons next parts =>
      rw [String.intercalate_cons_cons, hseparator, List.exists_mem_cons_iff]
      exact or_congr_right ih

/-! ### What lines begin with -/

/-- No line of the text begins with the character: it stands neither first nor after a newline. -/
def NoLineOpens (c : Char) (s : String) : Prop :=
  ('\n' :: s.toList).IsChain fun a b => a = '\n' → b ≠ c

instance (c : Char) (s : String) : Decidable (NoLineOpens c s) :=
  inferInstanceAs (Decidable (List.IsChain (fun a b => a = '\n' → b ≠ c) ('\n' :: s.toList)))

variable {c : Char}

theorem head?_ne_of_isChain {d : Char} {cs : List Char}
    (h : (d :: cs).IsChain fun a b => a = '\n' → b ≠ c) :
    (d = '\n' → ∀ l ∈ (cs.splitOn '\n').head?, l.head? ≠ some c) ∧
      ∀ l ∈ (cs.splitOn '\n').tail, l.head? ≠ some c := by
  induction cs generalizing d with
  | nil => simp
  | cons e cs ih =>
    rw [List.isChain_cons_cons] at h
    obtain ⟨hfirst, hmore⟩ := ih h.2
    rw [List.splitOn_cons_eq_if_modifyHead]
    by_cases he : e = '\n'
    · rw [if_pos (by simpa using he)]
      refine ⟨by simp, ?_⟩
      intro l hl
      rw [List.tail_cons] at hl
      cases hparts : cs.splitOn '\n' with
      | nil => simp [hparts] at hl
      | cons first rest =>
        rw [hparts] at hl hfirst hmore
        rcases List.mem_cons.1 hl with rfl | hl
        · exact hfirst he l rfl
        · exact hmore l hl
    · rw [if_neg (by simpa using he)]
      refine ⟨fun hd => ?_, ?_⟩
      · cases hparts : cs.splitOn '\n' with
        | nil => simp
        | cons first rest =>
          simpa using h.1 hd
      · rwa [List.tail_modifyHead]

/-- A text in which no line begins with a character has no such line. -/
theorem NoLineOpens.not_hasLine {s : String} (h : NoLineOpens c s)
    (hline : line.toList.head? = some c) : ¬ HasLine s line := by
  intro hmem
  obtain ⟨hfirst, hmore⟩ := head?_ne_of_isChain h
  rw [HasLine] at hmem
  cases hparts : s.toList.splitOn '\n' with
  | nil => simp [hparts] at hmem
  | cons first rest =>
    rw [hparts] at hmem hfirst hmore
    rcases List.mem_cons.1 hmem with heq | hmem
    · exact hfirst rfl _ rfl (heq ▸ hline)
    · exact hmore _ hmem hline

/-- It is kept when texts are put together. -/
theorem NoLineOpens.append {s t : String} (hs : NoLineOpens c s) (ht : NoLineOpens c t) :
    NoLineOpens c (s ++ t) := by
  rw [NoLineOpens, String.toList_append, ← List.cons_append, List.isChain_append]
  obtain ⟨hhead, hchain⟩ := List.isChain_cons.1 ht
  exact ⟨hs, hchain, fun _ _ d hd _ => hhead d hd rfl⟩

theorem isChain_of_notMem {cs : List Char} (h : '\n' ∉ cs) :
    cs.IsChain fun a b => a = '\n' → b ≠ c := by
  rw [List.isChain_iff_getElem]
  intro i hi heq
  exact absurd (heq ▸ List.getElem_mem _) h

/-- A text without newlines is one line. -/
theorem noLineOpens_of_notMem {s : String} (h : '\n' ∉ s.toList) (hc : s.toList.head? ≠ some c) :
    NoLineOpens c s := by
  rw [NoLineOpens, List.isChain_cons]
  constructor
  · rintro d hd - rfl
    exact hc hd
  · exact isChain_of_notMem h

/-- What comes after a blank begins no line. -/
theorem NoLineOpens.append_blank {s t : String} (hs : NoLineOpens c (s ++ " "))
    (ht : '\n' ∉ t.toList) : NoLineOpens c (s ++ " " ++ t) := by
  rw [NoLineOpens, String.toList_append, ← List.cons_append, List.isChain_append]
  refine ⟨hs, isChain_of_notMem ht, fun d hd _ _ heq => ?_⟩
  have hblank : ('\n' :: (s ++ " ").toList).getLast? = some ' ' := by
    rw [String.toList_append, ← List.cons_append]
    exact List.getLast?_concat
  rw [hblank] at hd
  cases hd
  exact absurd heq (by decide)

theorem noLineOpens_intercalate {separator : String} (hseparator : NoLineOpens c separator)
    {parts : List String} (h : ∀ part ∈ parts, NoLineOpens c part) :
    NoLineOpens c (separator.intercalate parts) := by
  induction parts with
  | nil => exact noLineOpens_of_notMem (by simp) (by simp)
  | cons part parts ih =>
    rw [List.forall_mem_cons] at h
    cases parts with
    | nil => simpa using h.1
    | cons next parts =>
      rw [String.intercalate_cons_cons]
      exact (h.1.append hseparator).append (ih h.2)

/-! ### Indentation -/

theorem noLineOpens_indent {c : Char} (hc : c ≠ ' ') (level width : Nat) :
    NoLineOpens c (indent level width) := by
  have hblank : ∀ d ∈ (indent level width).toList, d = ' ' := by
    rw [indent, String.toList_ofList]
    exact fun d hd => List.eq_of_mem_replicate hd
  refine noLineOpens_of_notMem (fun h => ?_) fun h => ?_
  · exact absurd (hblank _ h) (by decide)
  · exact hc (hblank c (List.mem_of_head? h))

/-- A line that is not on the outermost level begins with a blank. -/
theorem noLineOpens_indent_append {c : Char} (hc : c ≠ ' ') (level : Nat) {s : String}
    (h : '\n' ∉ s.toList) : NoLineOpens c (indent (level + 1) 4 ++ s) := by
  have hindent : (indent (level + 1) 4).toList = ' ' :: List.replicate (level * 4 + 3) ' ' := by
    rw [indent, String.toList_ofList, ← List.replicate_succ]
    congr 1
    omega
  refine noLineOpens_of_notMem ?_ ?_
  · rw [String.toList_append, hindent, List.mem_append, not_or, List.mem_cons, not_or]
    exact ⟨⟨by decide, fun h => absurd (List.eq_of_mem_replicate h) (by decide)⟩, h⟩
  · rw [String.toList_append, hindent]
    simpa using hc.symm

end Target

end SampleTypes
