import SampleTypes.Proofs.Ident.Characters

/-!
# Identifiers for ASCII keys

The identifier for an ASCII key is a plain one, a letter or an underscore and then letters, digits
and underscores; the only thing that can stand before it is the mark that makes an identifier of a
keyword.

* `Ident.isPlainPart_of_mem_apply`: the convention keeps to the characters of plain identifiers;
* `Target.Language.Marked` says what an identifier looks like, `Marked.isPlain_withoutMark` that it
  is plain without its mark;
* `Naming.marked_sanitize` is the main result.
-/

namespace SampleTypes

namespace Text

/-- All characters of a text are ASCII characters. -/
def IsAscii (s : String) : Prop :=
  ∀ c ∈ s.toList, c.toNat < 0x80

instance : DecidablePred IsAscii :=
  fun s => List.decidableBAll (fun c : Char => c.toNat < 0x80) s.toList

theorem IsAscii.append {s t : String} (hs : IsAscii s) (ht : IsAscii t) : IsAscii (s ++ t) := by
  intro c hc
  rw [String.toList_append, List.mem_append] at hc
  exact hc.elim (hs c) (ht c)

/-- The characters of plain identifiers are ASCII characters. -/
theorem toNat_lt_of_isPlainPart {c : Char} (h : Ident.isPlainPart c) : c.toNat < 0x80 := by
  delta Ident.isPlainPart Char.isAlphanum Char.isAlpha Char.isUpper Char.isLower Char.isDigit at h
  simp only [Bool.or_eq_true, Bool.and_eq_true, decide_eq_true_eq, beq_iff_eq] at h
  change (((65 ≤ c.toNat ∧ c.toNat ≤ 90) ∨ (97 ≤ c.toNat ∧ c.toNat ≤ 122)) ∨
    (48 ≤ c.toNat ∧ c.toNat ≤ 57)) ∨ c = '_' at h
  rcases h with ((h | h) | h) | rfl
  · omega
  · omega
  · omega
  · decide

theorem not_isAlpha_of_isDigit {c : Char} (h : c.isDigit) : c.isAlpha = false := by
  delta Char.isDigit at h
  delta Char.isAlpha Char.isUpper Char.isLower
  simp only [Bool.and_eq_true, decide_eq_true_eq] at h
  change 48 ≤ c.toNat ∧ c.toNat ≤ 57 at h
  simp only [Bool.eq_false_iff, Ne, Bool.or_eq_true, Bool.and_eq_true, decide_eq_true_eq]
  change ¬ ((65 ≤ c.toNat ∧ c.toNat ≤ 90) ∨ (97 ≤ c.toNat ∧ c.toNat ≤ 122))
  omega

end Text

/-! ### Characters -/

namespace Ident

open Naming (startsNumeric)
open Text

/-- In ASCII the word characters are letters and digits. -/
theorem isAlphanumeric_eq_isAlphanum {c : Char} (h : c.toNat < 0x80) :
    isAlphanumeric c = c.isAlphanum := by
  rw [isAlphanumeric, isAlphabetic, isNumeric, if_pos h, if_pos h]
  rfl

theorem caseMaps_isPlainPart : CaseMaps (·.isAlphanum) (isPlainPart ·) where
  upper c hc d hd := by
    have hlt := toNat_lt_of_isPlainPart (isPlainPart_of_isAlphanum hc)
    rw [← isAlphanumeric_eq_isAlphanum hlt] at hc
    rw [toUppercase, if_pos hlt, List.mem_singleton] at hd
    rw [hd]
    exact isPlainPart_of_isAlphanum (isAlphanum_of_isAlphanumeric hlt hc).1
  lower c hc d hd := by
    have hlt := toNat_lt_of_isPlainPart (isPlainPart_of_isAlphanum hc)
    rw [← isAlphanumeric_eq_isAlphanum hlt] at hc
    rw [toLowercase, if_pos hlt, List.mem_singleton] at hd
    rw [hd]
    exact isPlainPart_of_isAlphanum (isAlphanum_of_isAlphanumeric hlt hc).2
  sigma h := absurd h (by decide)

/-- **The convention makes of an ASCII key a text of letters, digits and underscores.** -/
theorem isPlainPart_of_mem_apply (convention : Convention) {key : String} (h : IsAscii key) :
    ∀ c ∈ (convention.apply key).toList, isPlainPart c := by
  have hwords : ∀ w ∈ words key.toList, ∀ c ∈ w, c.isAlphanum := by
    refine forall_mem_wordsAfter (by simp) fun c hc hword => ?_
    rwa [isAlphanumeric_eq_isAlphanum (h c hc)] at hword
  rw [Convention.apply, String.toList_ofList]
  exact caseMaps_isPlainPart.forall_mem_joinChars (by decide) convention hwords

/-- A text of such characters is an identifier unless it is empty or starts with a digit. -/
theorem isPlain_of_forall {s : String} (hne : s ≠ "") (h : ∀ c ∈ s.toList, isPlainPart c)
    (hdigit : startsNumeric s = false) : isPlain s := by
  unfold isPlain
  unfold startsNumeric at hdigit
  cases hs : s.toList with
  | nil => exact absurd (String.toList_eq_nil_iff.1 hs) hne
  | cons c rest =>
    rw [hs, List.forall_mem_cons] at h
    rw [hs, List.head?_cons, Option.any_some, isNumeric,
      if_pos (toNat_lt_of_isPlainPart h.1)] at hdigit
    have hstart : isPlainStart c := by
      have hc := h.1
      rwa [isPlainPart, Char.isAlphanum, hdigit, Bool.or_false] at hc
    simp only [hstart, Bool.true_and]
    exact List.all_eq_true.2 h.2

theorem isPlainPart_of_isPlain {s : String} (h : isPlain s) : ∀ c ∈ s.toList, isPlainPart c := by
  unfold isPlain at h
  cases hs : s.toList with
  | nil => simp
  | cons c rest =>
    simp only [hs, Bool.and_eq_true, List.all_eq_true] at h
    rw [List.forall_mem_cons]
    refine ⟨?_, h.2⟩
    have hstart := h.1
    rw [isPlainStart, Bool.or_eq_true] at hstart
    rw [isPlainPart, Char.isAlphanum]
    rcases hstart with hstart | hstart <;> simp [hstart]

theorem isPlain_append {s t : String} (hs : isPlain s) (ht : ∀ c ∈ t.toList, isPlainPart c) :
    isPlain (s ++ t) := by
  unfold isPlain at hs ⊢
  rw [String.toList_append]
  cases h : s.toList with
  | nil => simp [h] at hs
  | cons c rest =>
    simp only [h, Bool.and_eq_true, List.all_eq_true] at hs
    simp only [List.cons_append, List.all_append, Bool.and_eq_true, List.all_eq_true]
    exact ⟨hs.1, hs.2, ht⟩

end Ident

/-! ### Marks -/

namespace Target.Language

open Ident (isPlain isPlainPart)

/-- What makes an identifier of a keyword when it stands before it. -/
def mark : Language → String
  | .csharp => "@"
  | .typescript => ""
  | .python => ""
  | .rust => "r#"

/-- The identifier without one mark before it. -/
def withoutMark (language : Language) (ident : String) : String :=
  if language.mark.toList.isPrefixOf ident.toList then
    String.ofList (ident.toList.drop language.mark.length)
  else ident

/-- A plain identifier, which may have a mark before it. -/
def Marked (language : Language) (name : String) : Prop :=
  ∃ ident, isPlain ident ∧ (name = ident ∨ name = language.mark ++ ident)

variable {language : Language}

theorem withoutMark_append (language : Language) (ident : String) :
    language.withoutMark (language.mark ++ ident) = ident := by
  have hstart : language.mark.toList.isPrefixOf (language.mark ++ ident).toList := by
    rw [String.toList_append, List.isPrefixOf_iff_prefix]
    exact List.prefix_append _ _
  rw [withoutMark, if_pos hstart, String.toList_append, ← String.length_toList, List.drop_left,
    String.ofList_toList]

/-- Only the empty mark has none but plain characters. -/
theorem mark_eq_empty_of_plainText (h : Text.PlainText language.mark) : language.mark = "" := by
  cases language with
  | csharp => exact absurd h (by decide)
  | rust => exact absurd h (by decide)
  | typescript | python => rfl

/-- Nothing is taken from a text without marks. -/
theorem withoutMark_of_plainText {ident : String} (h : Text.PlainText ident) :
    language.withoutMark ident = ident := by
  unfold withoutMark
  split
  · rename_i hstart
    rw [List.isPrefixOf_iff_prefix] at hstart
    have hmark : Text.PlainText language.mark := fun c hc => h c (hstart.subset hc)
    rw [mark_eq_empty_of_plainText hmark, String.length_empty, List.drop_zero,
      String.ofList_toList]
  · rfl

/-- A mark can be told from the identifier after it. -/
theorem Marked.isPlain_withoutMark {name : String} (h : language.Marked name) :
    isPlain (language.withoutMark name) := by
  obtain ⟨ident, hplain, rfl | rfl⟩ := h
  · rwa [withoutMark_of_plainText fun c hc _ => Ident.isPlainPart_of_isPlain hplain c hc]
  · rwa [withoutMark_append]

theorem Marked.append {name more : String} (h : language.Marked name)
    (hmore : ∀ c ∈ more.toList, isPlainPart c) : language.Marked (name ++ more) := by
  obtain ⟨ident, hplain, rfl | rfl⟩ := h
  · exact ⟨_, Ident.isPlain_append hplain hmore, .inl rfl⟩
  · exact ⟨_, Ident.isPlain_append hplain hmore, .inr String.append_assoc⟩

theorem Marked.withCounter {base : String} (h : language.Marked base)
    (convention : Ident.Convention) (n : Nat) :
    language.Marked (convention.withCounter base n) := by
  rw [Ident.Convention.withCounter_eq]
  exact h.append (convention.isPlainPart_of_mem_counter n)

theorem Marked.isAscii {name : String} (h : language.Marked name) : Text.IsAscii name := by
  obtain ⟨ident, hplain, hname⟩ := h
  have hident : Text.IsAscii ident := fun c hc =>
    Text.toNat_lt_of_isPlainPart (Ident.isPlainPart_of_isPlain hplain c hc)
  rcases hname with rfl | rfl
  · exact hident
  · have hmark : Text.IsAscii language.mark := by
      cases language <;> decide
    exact hmark.append hident

/-- A keyword is escaped by a line after it, or by a mark that has a character besides letters. -/
theorem escapeKeyword_cases {ident escaped : String}
    (h : language.escapeKeyword ident = some escaped) : escaped = ident ++ "_" ∨
      escaped = language.mark ++ ident ∧ ∃ c ∈ language.mark.toList, c.isAlpha = false := by
  unfold escapeKeyword at h
  split at h
  · cases h
    cases language with
    | csharp => exact .inr ⟨rfl, '@', by decide, by decide⟩
    | typescript | python => exact .inl rfl
    | rust =>
      simp only
      split
      · exact .inl rfl
      · exact .inr ⟨rfl, '#', by decide, by decide⟩
  · cases h

theorem marked_escapeKeyword {ident escaped : String} (h : isPlain ident)
    (he : language.escapeKeyword ident = some escaped) : language.Marked escaped := by
  rcases escapeKeyword_cases he with rfl | ⟨rfl, -⟩
  · exact ⟨_, Ident.isPlain_append h Ident.isPlainPart_of_mem_line, .inl rfl⟩
  · exact ⟨ident, h, .inr rfl⟩

end Target.Language

/-! ### Keys -/

namespace Naming

open Ident (isPlain isPlainPart)

/-- The words that stand for keys without word characters. -/
def fallbackWords : List String :=
  ["field", "type", "root"]

theorem apply_ne_of_mem_fallbackWords (convention : Ident.Convention) :
    ∀ fallback ∈ fallbackWords, convention.apply fallback ≠ "" ∧ Text.IsAscii fallback := by
  cases convention <;> decide +kernel

/-- **The identifier for an ASCII key is plain**, but for a mark. -/
theorem marked_sanitize (cx : Context) {key fallback : String} (hkey : Text.IsAscii key)
    (hfallback : fallback ∈ fallbackWords) :
    cx.language.Marked (cx.sanitize key fallback).ident := by
  obtain ⟨hne, hascii⟩ := apply_ne_of_mem_fallbackWords cx.convention fallback hfallback
  unfold Context.sanitize
  extract_lets applied word marked
  have hword : word ≠ "" ∧ ∀ c ∈ word.toList, isPlainPart c := by
    simp only [word]
    split
    · exact ⟨hne, Ident.isPlainPart_of_mem_apply cx.convention hascii⟩
    · rename_i happlied
      rw [String.isEmpty_iff] at happlied
      exact ⟨happlied, Ident.isPlainPart_of_mem_apply cx.convention hkey⟩
  have hplain : isPlain marked := by
    simp only [marked]
    split
    · have hmark : isPlain cx.convention.digitMark := by
        cases cx.convention <;> decide
      exact Ident.isPlain_append hmark hword.2
    · rename_i hdigit
      exact Ident.isPlain_of_forall hword.1 hword.2 (Bool.eq_false_iff.2 hdigit)
  split
  · rename_i escaped he
    exact Target.Language.marked_escapeKeyword hplain he
  · exact ⟨marked, hplain, .inl rfl⟩

end Naming

end SampleTypes
