import SampleTypes.Proofs.Ident.WordBreaks
import SampleTypes.Proofs.Text.Category

/-!
# Identifiers for keys of any script

The identifier for a key is made of the images of the word characters of the key.  It is made of
letters, marks, decimal digits and underscores exactly if the word characters of the key are, and it
starts as an identifier has to unless the first of them is a mark.  Word characters are more than
that: the identifier for `x²` is `x²`, which is none in any language.

* `Recasts` relates word characters to what is made of them, one by one;
* `recasts_joinChars` shows it of the conventions, with the first image in
  `exists_joinChars_eq_append`;
* `isIdentifier_sanitize_iff` is the main result.
-/

namespace SampleTypes

open Text

namespace Ident

/-- A letter or an underscore, and then letters, marks, decimal digits and underscores. -/
def isIdentifier (s : String) : Bool :=
  match s.toList with
  | [] => false
  | c :: rest => (isLetter c || c == '_') && rest.all isIdentPart

/-! ### Images of word characters -/

/-- The second characters are images of the first ones in their order, with underscores between. -/
inductive Recasts : List Char → List Char → Prop
  | nil : Recasts [] []
  | cons {c : Char} {cs image ds : List Char} (first : Recased c image) (rest : Recasts cs ds) :
    Recasts (c :: cs) (image ++ ds)
  | line {cs ds : List Char} (rest : Recasts cs ds) : Recasts cs ('_' :: ds)

namespace Recasts

theorem append {cs ds cs' ds' : List Char} (h : Recasts cs ds) (h' : Recasts cs' ds') :
    Recasts (cs ++ cs') (ds ++ ds') := by
  induction h with
  | nil => exact h'
  | cons first rest ih =>
    rw [List.append_assoc]
    exact .cons first ih
  | line rest ih => exact .line ih

/-- What is made of word characters may stand in an identifier exactly if they may. -/
theorem forall_mem_iff {cs ds : List Char} (h : Recasts cs ds) :
    (∀ d ∈ ds, isIdentPart d) ↔ ∀ c ∈ cs, isIdentPart c := by
  induction h with
  | nil => simp
  | cons first rest ih =>
    rw [List.forall_mem_append, List.forall_mem_cons, first.forall_mem_iff, ih]
  | line rest ih =>
    have hline : isIdentPart '_' := by
      simp [isIdentPart]
    rw [List.forall_mem_cons, ih, and_iff_right hline]

end Recasts

theorem recasts_flatMap_toLowercase (cs : List Char) : Recasts cs (cs.flatMap toLowercase) := by
  induction cs with
  | nil => exact .nil
  | cons c cs ih => exact .cons (recased_toLowercase c) ih

theorem recasts_capitalize (word : List Char) : Recasts word (capitalize word) := by
  cases word with
  | nil => exact .nil
  | cons c rest => exact .cons (recased_toUppercase c) (recasts_flatMap_toLowercase rest)

/-- The first character of a word in lower case. -/
theorem exists_lowercaseAfter_cons (before : List Char) (c : Char) (rest : List Char) :
    ∃ image, lowercaseAfter before (c :: rest) = image ++ lowercaseAfter (c :: before) rest ∧
      Recased c image ∧ (c ≠ 'Σ' → image = toLowercase c) := by
  rw [lowercaseAfter]
  by_cases hsigma : c = 'Σ'
  · rw [if_pos hsigma]
    refine ⟨_, rfl, ?_, fun h => absurd hsigma h⟩
    rw [hsigma]
    exact recased_sigma _
  · rw [if_neg hsigma]
    exact ⟨_, rfl, recased_toLowercase c, fun _ => rfl⟩

theorem recasts_lowercaseAfter (before word : List Char) :
    Recasts word (lowercaseAfter before word) := by
  induction word generalizing before with
  | nil => exact .nil
  | cons c rest ih =>
    obtain ⟨image, heq, hc, -⟩ := exists_lowercaseAfter_cons before c rest
    rw [heq]
    exact .cons hc (ih (c :: before))

theorem recasts_flatMap {f : List Char → List Char} (hf : ∀ w, Recasts w (f w))
    (ws : List (List Char)) : Recasts ws.flatten (ws.flatMap f) := by
  induction ws with
  | nil => exact .nil
  | cons w ws ih => exact (hf w).append ih

theorem recasts_intercalate {f : List Char → List Char} (hf : ∀ w, Recasts w (f w))
    (ws : List (List Char)) : Recasts ws.flatten (['_'].intercalate (ws.map f)) := by
  induction ws with
  | nil => exact .nil
  | cons v ws ih =>
    cases ws with
    | nil => simpa using hf v
    | cons w ws =>
      rw [List.map_cons, List.map_cons, List.intercalate_cons_cons, List.append_assoc]
      exact (hf v).append (.line ih)

/-- **A convention makes of words the images of their characters.** -/
theorem recasts_joinChars (convention : Convention) (ws : List (List Char)) :
    Recasts ws.flatten (convention.joinChars ws) := by
  cases convention with
  | pascal => exact recasts_flatMap recasts_capitalize ws
  | camel =>
    cases ws with
    | nil => exact .nil
    | cons w ws =>
      exact (recasts_lowercaseAfter [] w).append (recasts_flatMap recasts_capitalize ws)
  | snake => exact recasts_intercalate (recasts_lowercaseAfter []) ws

/-- The identifier starts with the image of the first character.  A small iota below is made a
letter in Pascal case only. -/
theorem exists_joinChars_eq_append (convention : Convention) (c : Char) (rest : List Char)
    (ws : List (List Char)) :
    ∃ image more, convention.joinChars ((c :: rest) :: ws) = image ++ more ∧ Recased c image ∧
      (c = '\u0345' → image = if convention = .pascal then ['Ι'] else [c]) := by
  obtain ⟨image, heq, hc, himage⟩ := exists_lowercaseAfter_cons [] c rest
  have hiota : c = '\u0345' → image = [c] := by
    rintro rfl
    rw [himage (by decide)]
    decide +kernel
  cases convention with
  | pascal =>
    refine ⟨toUppercase c, rest.flatMap toLowercase ++ ws.flatMap capitalize, ?_,
      recased_toUppercase c, ?_⟩
    · rw [Convention.joinChars, List.flatMap_cons, capitalize, List.append_assoc]
    · rintro rfl
      decide +kernel
  | camel =>
    refine ⟨image, lowercaseAfter [c] rest ++ ws.flatMap capitalize, ?_, hc, hiota⟩
    rw [Convention.joinChars, lowercaseWord, heq, List.append_assoc]
  | snake =>
    cases ws with
    | nil =>
      refine ⟨image, lowercaseAfter [c] rest, ?_, hc, hiota⟩
      rw [Convention.joinChars, List.map_singleton, List.intercalate_singleton, lowercaseWord, heq]
    | cons w ws =>
      refine ⟨image, lowercaseAfter [c] rest ++ ['_'] ++
        ['_'].intercalate ((w :: ws).map lowercaseWord), ?_, hc, hiota⟩
      rw [Convention.joinChars, List.map_cons, List.map_cons, List.intercalate_cons_cons,
        lowercaseWord, heq, List.append_assoc, List.append_assoc, List.append_assoc]

/-! ### Identifiers -/

theorem isIdentifier_iff {s : String} {c : Char} {rest : List Char} (h : s.toList = c :: rest) :
    isIdentifier s ↔ (isLetter c ∨ c = '_') ∧ ∀ d ∈ s.toList, isIdentPart d := by
  rw [isIdentifier, h]
  simp only [Bool.and_eq_true, Bool.or_eq_true, beq_iff_eq, List.all_eq_true, List.forall_mem_cons]
  constructor
  · rintro ⟨hc, hrest⟩
    refine ⟨hc, ?_, hrest⟩
    rcases hc with hc | rfl
    · exact isIdentPart_of_isLetter hc
    · simp [isIdentPart]
  · rintro ⟨hc, -, hrest⟩
    exact ⟨hc, hrest⟩

/-- A line at the end changes nothing. -/
theorem isIdentifier_append_line {s : String} (h : s ≠ "") :
    isIdentifier (s ++ "_") = isIdentifier s := by
  rw [isIdentifier, isIdentifier, String.toList_append]
  cases hs : s.toList with
  | nil => exact absurd (String.toList_eq_nil_iff.1 hs) h
  | cons c rest => simp [isIdentPart]

/-- The mark for digits is one letter, or one letter and an underscore. -/
theorem isIdentifier_digitMark_append (convention : Convention) (s : String) :
    isIdentifier (convention.digitMark ++ s) ↔ ∀ d ∈ s.toList, isIdentPart d := by
  rw [isIdentifier, String.toList_append]
  cases convention <;> simp [Convention.digitMark, isLetter, isIdentPart]

end Ident

namespace Naming

open Ident

/-- The identifier that the convention makes of a text, with the mark for digits. -/
def marked (convention : Convention) (text : String) : String :=
  let word := convention.apply text
  if startsNumeric word then convention.digitMark ++ word else word

/-- The first word is not empty and starts with the first word character of the text. -/
theorem exists_words_eq_cons {text : String} {c : Char}
    (h : text.toList.find? isAlphanumeric = some c) :
    ∃ rest ws, words text.toList = (c :: rest) :: ws := by
  have hflat : (words text.toList).flatten = text.toList.filter isAlphanumeric :=
    flatten_wordsAfter [] text.toList
  have hempty : [] ∉ words text.toList := nil_notMem_wordsAfter [] text.toList
  rw [← List.head?_filter, ← hflat] at h
  cases hwords : words text.toList with
  | nil =>
    rw [hwords] at h
    cases h
  | cons w ws =>
    rw [hwords] at h hempty
    cases w with
    | nil => exact absurd List.mem_cons_self hempty
    | cons d rest =>
      cases h
      exact ⟨rest, ws, rfl⟩

theorem isIdentifier_marked_iff_head {convention : Convention} {text : String} {d : Char}
    {rest : List Char} (h : (convention.apply text).toList = d :: rest) :
    isIdentifier (marked convention text) ↔
      (∀ e ∈ (convention.apply text).toList, isIdentPart e) ∧
        (isLetter d ∨ d = '_' ∨ isNumeric d) := by
  have hnumeric : startsNumeric (convention.apply text) = isNumeric d := by
    rw [startsNumeric, h]
    rfl
  rw [marked, hnumeric]
  by_cases hd : isNumeric d
  · rw [if_pos hd, isIdentifier_digitMark_append]
    simp [hd]
  · rw [if_neg hd, isIdentifier_iff h]
    simp only [hd, Bool.false_eq_true, or_false]
    exact and_comm

/-- A word character is no underscore. -/
theorem ne_line_of_isAlphanumeric {c : Char} (h : isAlphanumeric c) : c ≠ '_' := by
  rintro rfl
  revert h
  decide

/--
**Before keywords are escaped**, the identifier is one if its word characters allow it and the first
of them is a letter or a number, or the small iota below in Pascal case.
-/
theorem isIdentifier_marked_iff {convention : Convention} {text : String} {c : Char}
    (h : text.toList.find? isAlphanumeric = some c) :
    isIdentifier (marked convention text) ↔
      (∀ d ∈ text.toList, isAlphanumeric d → isIdentPart d) ∧
        (isLetter c ∨ isNumeric c ∨ convention = .pascal ∧ c = '\u0345') := by
  obtain ⟨rest, ws, hwords⟩ := exists_words_eq_cons h
  obtain ⟨image, more, hjoin, himage, hiota⟩ :=
    exists_joinChars_eq_append convention c rest ws
  have hchars : (convention.apply text).toList = image ++ more := by
    rw [Convention.apply, String.toList_ofList, hwords, hjoin]
  have hparts : (∀ d ∈ (convention.apply text).toList, isIdentPart d) ↔
      ∀ d ∈ text.toList, isAlphanumeric d → isIdentPart d := by
    have hflat : (words text.toList).flatten = text.toList.filter isAlphanumeric :=
      flatten_wordsAfter [] text.toList
    rw [Convention.apply, String.toList_ofList, (recasts_joinChars _ _).forall_mem_iff, hflat]
    simp only [List.mem_filter, and_imp]
  have hsmall : isLetter '\u0345' = false := by
    decide +kernel
  cases himage with
  | same =>
    rw [isIdentifier_marked_iff_head hchars, hparts]
    -- in Pascal case the small iota below does not stay what it is
    have hstays : ¬ (convention = .pascal ∧ c = '\u0345') := by
      rintro ⟨hpascal, rfl⟩
      have heq := hiota rfl
      rw [if_pos hpascal] at heq
      exact absurd heq (by decide)
    have hline := ne_line_of_isAlphanumeric (List.find?_some h)
    simp only [hline, hstays, false_or, or_false]
  | @letter d ds hc hd hds =>
    rw [isIdentifier_marked_iff_head hchars, hparts]
    refine and_congr_right fun _ => iff_of_true (.inl hd) ?_
    rcases hc with hc | rfl
    · exact .inl hc
    · by_cases hpascal : convention = .pascal
      · exact .inr (.inr ⟨hpascal, rfl⟩)
      · have heq := hiota rfl
        rw [if_neg hpascal] at heq
        cases heq
        rw [hsmall] at hd
        cases hd
  | @stray d hc hd =>
    rw [isIdentifier_marked_iff_head hchars, hparts]
    have hmem : c ∈ text.toList := List.mem_of_find?_eq_some h
    refine iff_of_false (fun hall => ?_) fun hall => ?_
    · rw [hall.1 c hmem (List.find?_some h)] at hc
      cases hc
    · rw [hall.1 c hmem (List.find?_some h)] at hc
      cases hc

/-! ### Keys -/

/-- The text whose words the identifier for a key is made of. -/
def Context.source (cx : Context) (key fallback : String) : String :=
  if (cx.convention.apply key).isEmpty then fallback else key

/-- Escaping a keyword adds a mark before it, or a line after it. -/
theorem isIdentifier_withoutMark_sanitize (cx : Context) (key fallback : String) :
    isIdentifier (cx.language.withoutMark (cx.sanitize key fallback).ident)
      = isIdentifier (marked cx.convention (cx.source key fallback)) := by
  have hplain : PlainText (marked cx.convention (cx.source key fallback)) := by
    have hword := cx.convention.plainText_apply (cx.source key fallback)
    have hdigit : PlainText cx.convention.digitMark := by
      cases cx.convention <;> decide
    unfold marked
    extract_lets word
    split
    · exact hdigit.append hword
    · exact hword
  have hsanitize : (cx.sanitize key fallback).ident
      = (cx.language.escapeKeyword (marked cx.convention (cx.source key fallback))).getD
          (marked cx.convention (cx.source key fallback)) := by
    rw [marked, Context.source, apply_ite cx.convention.apply]
    unfold Context.sanitize
    extract_lets applied word marked
    split
    · rename_i escaped he
      rw [he]
      rfl
    · rename_i he
      rw [he]
      rfl
  rw [hsanitize]
  cases he : cx.language.escapeKeyword (marked cx.convention (cx.source key fallback)) with
  | none => rw [Option.getD_none, Target.Language.withoutMark_of_plainText hplain]
  | some escaped =>
    rw [Option.getD_some]
    rcases Target.Language.escapeKeyword_cases he with rfl | ⟨rfl, -⟩
    · have hne : marked cx.convention (cx.source key fallback) ≠ "" := by
        intro hempty
        rw [hempty] at he
        revert he
        cases cx.language <;> decide +kernel
      have hline : PlainText "_" := by
        decide
      rw [Target.Language.withoutMark_of_plainText (hplain.append hline),
        isIdentifier_append_line hne]
    · rw [Target.Language.withoutMark_append]

/-- The words that stand for keys without word characters have ASCII letters only. -/
theorem isIdentifier_marked_fallback (convention : Convention) :
    ∀ fallback ∈ fallbackWords, isIdentifier (marked convention fallback) := by
  cases convention <;> decide +kernel

/--
**The identifier for a key is one in the sense of Unicode exactly if** the word characters of the
key are letters, marks and decimal digits, and the first of them is no mark: it is a letter, or a
number, before which a mark is put, or the small iota below, which Pascal case makes a letter.
-/
theorem isIdentifier_sanitize_iff (cx : Context) (key : String) {fallback : String}
    (h : fallback ∈ fallbackWords) :
    isIdentifier (cx.language.withoutMark (cx.sanitize key fallback).ident) ↔
      (∀ c ∈ key.toList, isAlphanumeric c → isIdentPart c) ∧
        ∀ c ∈ key.toList.find? isAlphanumeric,
          isLetter c ∨ isNumeric c ∨ cx.convention = .pascal ∧ c = '\u0345' := by
  rw [isIdentifier_withoutMark_sanitize, Context.source]
  cases hfind : key.toList.find? isAlphanumeric with
  | none =>
    have hnone : ∀ c ∈ key.toList, ¬ isAlphanumeric c := List.find?_eq_none.1 hfind
    have hempty := (cx.convention.apply_eq_empty_iff key).2 hnone
    rw [if_pos (String.isEmpty_iff.2 hempty)]
    refine iff_of_true (isIdentifier_marked_fallback cx.convention fallback h) ⟨?_, by simp⟩
    exact fun c hc hword => absurd hword (hnone c hc)
  | some c =>
    have hsome : cx.convention.apply key ≠ "" := by
      intro hempty
      rw [cx.convention.apply_eq_empty_iff] at hempty
      exact hempty c (List.mem_of_find?_eq_some hfind) (List.find?_some hfind)
    rw [if_neg (by simpa using hsome), isIdentifier_marked_iff hfind]
    simp

/-- A digit and letters that are no ASCII characters. -/
theorem isIdentifier_of_digit_and_letters :
    let cx : Context := ⟨.csharp, .pascal, false⟩
    "field" ∈ fallbackWords ∧ (cx.sanitize "٣ größe" "field").ident = "N٣Größe" ∧
      isIdentifier (cx.language.withoutMark (cx.sanitize "٣ größe" "field").ident) := by
  intro cx
  have hfallback : "field" ∈ fallbackWords := by
    decide
  have hparts : ("٣ größe".toList.all fun c => !isAlphanumeric c || isIdentPart c) = true := by
    decide +kernel
  refine ⟨hfallback, by decide +kernel,
    (isIdentifier_sanitize_iff cx "٣ größe" hfallback).2 ⟨?_, ?_⟩⟩
  · intro c hc hword
    have hpart := List.all_eq_true.1 hparts c hc
    simpa [hword] using hpart
  · have hfirst : "٣ größe".toList.find? isAlphanumeric = some '٣' := by
      decide +kernel
    rw [hfirst]
    rintro c ⟨⟩
    exact .inr (.inl (by decide +kernel))

/-- A number that is no decimal digit stays in the identifier. -/
theorem not_isIdentifier_of_superscript :
    let cx : Context := ⟨.rust, .snake, false⟩
    let ident := (cx.sanitize "x²" "field").ident
    ident = "x²" ∧ isNumeric '²' ∧ isDecimalDigit '²' = false ∧
      isIdentifier (cx.language.withoutMark ident) = false := by
  decide +kernel

end Naming

end SampleTypes
