import SampleTypes.Naming.Resolve

/-!
# The characters of identifiers

An identifier may hold characters of any script, but of ASCII only letters, digits, the underscore
and the two marks that escape keywords.  So no identifier is a path, and none holds a quote, a blank
or a line break.

* `IdentChar` says it of one character, `IdentText` of a text; `PlainChar` and `PlainText` leave the
  two marks out as well.  Case mapping keeps to plain characters, which is checked once on the
  tables (`isWordPoint_of_image?`);
* `identText_sanitize` shows it of the identifier for a key, `identText_typeName` and
  `identText_rootName` of the names of declarations.
-/

namespace SampleTypes

theorem Ident.isPlainPart_of_isAlphanum {c : Char} (h : c.isAlphanum) : isPlainPart c := by
  rw [isPlainPart, h, Bool.true_or]

namespace Text

/-- The character may stand in an identifier, as far as ASCII goes. -/
def IdentChar (c : Char) : Prop :=
  c.toNat < 0x80 → c.isAlphanum ∨ c ∈ ['_', '#', '@']

instance : DecidablePred IdentChar :=
  fun _ => inferInstanceAs (Decidable (_ → _))

/-- All characters of a text may stand in an identifier. -/
def IdentText (s : String) : Prop :=
  ∀ c ∈ s.toList, IdentChar c

instance : DecidablePred IdentText :=
  fun s => List.decidableBAll IdentChar s.toList

theorem IdentText.append {s t : String} (hs : IdentText s) (ht : IdentText t) :
    IdentText (s ++ t) := by
  intro c hc
  rw [String.toList_append, List.mem_append] at hc
  exact hc.elim (hs c) (ht c)

/-- The character may stand in an identifier before keywords are escaped, as far as ASCII goes. -/
def PlainChar (c : Char) : Prop :=
  c.toNat < 0x80 → Ident.isPlainPart c

instance : DecidablePred PlainChar :=
  fun _ => inferInstanceAs (Decidable (_ → _))

/-- All characters of a text may stand in an identifier before keywords are escaped. -/
def PlainText (s : String) : Prop :=
  ∀ c ∈ s.toList, PlainChar c

instance : DecidablePred PlainText :=
  fun s => List.decidableBAll PlainChar s.toList

theorem PlainText.append {s t : String} (hs : PlainText s) (ht : PlainText t) :
    PlainText (s ++ t) := by
  intro c hc
  rw [String.toList_append, List.mem_append] at hc
  exact hc.elim (hs c) (ht c)

theorem plainChar_of_isAlphanum {c : Char} (h : c.isAlphanum) : PlainChar c :=
  fun _ => Ident.isPlainPart_of_isAlphanum h

theorem PlainChar.identChar {c : Char} (h : PlainChar c) : IdentChar c := by
  intro hlt
  have hplain := h hlt
  rw [Ident.isPlainPart, Bool.or_eq_true, beq_iff_eq] at hplain
  rcases hplain with hword | rfl
  · exact .inl hword
  · exact .inr (by decide)

/-! ### Case mapping -/

/-- The code point of a character, which in ASCII is a letter or a digit. -/
def isWordPoint (n : Nat) : Bool :=
  (n < 0xD800 || 0xDFFF < n && n < 0x110000) && (0x80 ≤ n || (Char.ofNat n).isAlphanum)

theorem toNat_ofNat_of_isWordPoint {n : Nat} (h : isWordPoint n) : (Char.ofNat n).toNat = n := by
  simp only [isWordPoint, Bool.and_eq_true, Bool.or_eq_true, decide_eq_true_eq] at h
  rw [Char.ofNat, dif_pos h.1]
  rfl

theorem plainChar_of_isWordPoint {n : Nat} (h : isWordPoint n) : PlainChar (Char.ofNat n) := by
  intro hlt
  rw [toNat_ofNat_of_isWordPoint h] at hlt
  simp only [isWordPoint, Bool.and_eq_true, Bool.or_eq_true, decide_eq_true_eq] at h
  rcases h.2 with hge | hword
  · omega
  · exact Ident.isPlainPart_of_isAlphanum hword

/-- The images of a run are code points of word characters. -/
def CaseRun.isWordRun (r : CaseRun) : Bool :=
  r.first == r.last && isWordPoint r.image
    || 0x80 ≤ r.image && (r.image + (r.last - r.first) < 0xD800
      || 0xDFFF < r.image && r.image + (r.last - r.first) < 0x110000)

theorem isWordRun_of_mem_images :
    (∀ r ∈ uppercaseImages, r.isWordRun) ∧ ∀ r ∈ lowercaseImages, r.isWordRun := by
  decide +kernel

theorem isWordPoint_of_mem_expansions :
    ∀ e ∈ uppercaseExpansions, ∀ n ∈ e.2.1 :: e.2.2, isWordPoint n := by
  decide +kernel

theorem isWordPoint_of_image? {r : CaseRun} (hr : r.isWordRun) {n m : Nat}
    (h : r.image? n = some m) : isWordPoint m := by
  unfold CaseRun.image? at h
  split at h
  · rename_i hn
    cases h
    simp only [CaseRun.isWordRun, Bool.or_eq_true, Bool.and_eq_true, beq_iff_eq,
      decide_eq_true_eq] at hr
    rcases hr with ⟨heq, hword⟩ | ⟨hge, hvalid⟩
    · have hsame : r.image + (n - r.first) = r.image := by omega
      rwa [hsame]
    · simp only [isWordPoint, Bool.or_eq_true, Bool.and_eq_true, decide_eq_true_eq]
      omega
  · cases h

theorem plainChar_image {runs : List CaseRun} (hruns : ∀ r ∈ runs, r.isWordRun) {c : Char}
    (hc : PlainChar c) :
    PlainChar (((runs.findSome? (·.image? c.toNat)).map Char.ofNat).getD c) := by
  cases hfind : runs.findSome? (·.image? c.toNat) with
  | none => exact hc
  | some m =>
    obtain ⟨r, hr, hm⟩ := List.exists_of_findSome?_eq_some hfind
    exact plainChar_of_isWordPoint (isWordPoint_of_image? (hruns r hr) hm)

theorem plainChar_of_isAlphanumeric {c : Char} (h : isAlphanumeric c) : PlainChar c := by
  intro hlt
  rw [isAlphanumeric, isAlphabetic, isNumeric, if_pos hlt, if_pos hlt] at h
  exact plainChar_of_isAlphanum h hlt

/-- Changing the case of an ASCII letter gives a letter. -/
theorem isAlphanum_changeCase : ∀ n < 0x80, (Char.ofNat n).isAlphanum →
    (Char.ofNat n).toUpper.isAlphanum ∧ (Char.ofNat n).toLower.isAlphanum := by
  decide +kernel

theorem isAlphanum_of_isAlphanumeric {c : Char} (hlt : c.toNat < 0x80) (h : isAlphanumeric c) :
    c.toUpper.isAlphanum ∧ c.toLower.isAlphanum := by
  rw [isAlphanumeric, isAlphabetic, isNumeric, if_pos hlt, if_pos hlt] at h
  have hcase := isAlphanum_changeCase c.toNat hlt
  rw [Char.ofNat_toNat] at hcase
  exact hcase h

theorem plainChar_toUppercase {c : Char} (h : isAlphanumeric c) :
    ∀ d ∈ toUppercase c, PlainChar d := by
  intro d hd
  unfold toUppercase at hd
  split at hd
  · rename_i hlt
    rw [List.mem_singleton.1 hd]
    exact plainChar_of_isAlphanum (isAlphanum_of_isAlphanumeric hlt h).1
  · split at hd
    · rename_i e first rest hfind
      have hpoint := isWordPoint_of_mem_expansions _ (List.mem_of_find?_eq_some hfind)
      rw [← List.map_cons] at hd
      obtain ⟨n, hn, rfl⟩ := List.mem_map.1 hd
      exact plainChar_of_isWordPoint (hpoint n hn)
    · rw [List.mem_singleton.1 hd]
      exact plainChar_image isWordRun_of_mem_images.1 (plainChar_of_isAlphanumeric h)

theorem plainChar_toLowercase {c : Char} (h : isAlphanumeric c) :
    ∀ d ∈ toLowercase c, PlainChar d := by
  intro d hd
  unfold toLowercase at hd
  split at hd
  · rename_i hlt
    rw [List.mem_singleton.1 hd]
    exact plainChar_of_isAlphanum (isAlphanum_of_isAlphanumeric hlt h).2
  · split at hd
    · revert d
      rw [List.forall_mem_cons, List.forall_mem_singleton]
      decide +kernel
    · rw [List.mem_singleton.1 hd]
      exact plainChar_image isWordRun_of_mem_images.2 (plainChar_of_isAlphanumeric h)

end Text

/-! ### Words and identifiers -/

namespace Ident

open Text

/-- What holds of the word characters of a text holds of the characters of its words. -/
theorem forall_mem_wordsAfter {P : Char → Prop} {current chars : List Char}
    (hcurrent : ∀ c ∈ current, P c) (hchars : ∀ c ∈ chars, isAlphanumeric c → P c) :
    ∀ w ∈ wordsAfter current chars, ∀ c ∈ w, P c := by
  have hreverse : ∀ l : List Char, (∀ c ∈ l, P c) → ∀ c ∈ l.reverse, P c :=
    fun l hl c hc => hl c (List.mem_reverse.1 hc)
  fun_induction wordsAfter current chars with
  | case1 => simp
  | case2 current _ =>
    intro w hw
    rw [List.mem_singleton.1 hw]
    exact hreverse _ hcurrent
  | case3 current c rest _ _ ih => exact ih (by simp) (List.forall_mem_cons.1 hchars).2
  | case4 current c rest _ _ ih =>
    rw [List.forall_mem_cons]
    exact ⟨hreverse _ hcurrent, ih (by simp) (List.forall_mem_cons.1 hchars).2⟩
  | case5 c rest hc ih =>
    rw [List.forall_mem_cons] at hchars
    exact ih (by simpa using hchars.1 (by simpa using hc)) hchars.2
  | case6 c rest hc previous more _ ih =>
    rw [List.forall_mem_cons] at hchars
    rw [List.forall_mem_cons]
    exact ⟨hreverse _ hcurrent, ih (by simpa using hchars.1 (by simpa using hc)) hchars.2⟩
  | case7 c rest hc previous more _ ih =>
    rw [List.forall_mem_cons] at hchars
    refine ih ?_ hchars.2
    rw [List.forall_mem_cons]
    exact ⟨hchars.1 (by simpa using hc), hcurrent⟩

/-- Words hold word characters only. -/
theorem isAlphanumeric_of_mem_words (chars : List Char) :
    ∀ w ∈ words chars, ∀ c ∈ w, isAlphanumeric c :=
  forall_mem_wordsAfter (by simp) fun _ _ h => h

/-- Words of characters in `P` keep to characters in `Q` when their case is changed. -/
structure CaseMaps (P Q : Char → Prop) : Prop where
  upper : ∀ c, P c → ∀ d ∈ toUppercase c, Q d
  lower : ∀ c, P c → ∀ d ∈ toLowercase c, Q d
  sigma : P 'Σ' → Q 'ς' ∧ Q 'σ'

namespace CaseMaps

variable {P Q : Char → Prop} (h : CaseMaps P Q)

include h

theorem forall_mem_lowercaseAfter {before word : List Char} (hword : ∀ c ∈ word, P c) :
    ∀ d ∈ lowercaseAfter before word, Q d := by
  induction word generalizing before with
  | nil => simp [lowercaseAfter]
  | cons c rest ih =>
    rw [List.forall_mem_cons] at hword
    rw [lowercaseAfter, List.forall_mem_append]
    constructor
    · split
      · rename_i hsigma
        obtain ⟨hfinal, hinner⟩ := h.sigma (hsigma ▸ hword.1)
        split
        · exact List.forall_mem_singleton.2 hfinal
        · exact List.forall_mem_singleton.2 hinner
      · exact h.lower c hword.1
    · exact ih hword.2

theorem forall_mem_capitalize {w : List Char} (hw : ∀ c ∈ w, P c) :
    ∀ d ∈ capitalize w, Q d := by
  cases w with
  | nil => simp [capitalize]
  | cons c rest =>
    rw [List.forall_mem_cons] at hw
    rw [capitalize, List.forall_mem_append]
    constructor
    · exact h.upper c hw.1
    · intro d hd
      obtain ⟨e, he, hd⟩ := List.mem_flatMap.1 hd
      exact h.lower e (hw.2 e he) d hd

omit h in
theorem forall_mem_intercalate (hline : Q '_') {ws : List (List Char)}
    (hws : ∀ w ∈ ws, ∀ c ∈ w, Q c) : ∀ d ∈ ['_'].intercalate ws, Q d := by
  induction ws with
  | nil => simp
  | cons v ws ih =>
    rw [List.forall_mem_cons] at hws
    cases ws with
    | nil => simpa using hws.1
    | cons w ws =>
      rw [List.intercalate_cons_cons]
      simp only [List.forall_mem_append, List.forall_mem_singleton]
      exact ⟨⟨hws.1, hline⟩, ih hws.2⟩

/-- **An identifier keeps to the characters that its words are mapped to**, and the underscore. -/
theorem forall_mem_joinChars (hline : Q '_') (convention : Convention) {ws : List (List Char)}
    (hws : ∀ w ∈ ws, ∀ c ∈ w, P c) : ∀ d ∈ convention.joinChars ws, Q d := by
  have hcapital : ∀ vs ⊆ ws, ∀ d ∈ vs.flatMap capitalize, Q d := by
    intro vs hvs d hd
    obtain ⟨w, hw, hd⟩ := List.mem_flatMap.1 hd
    exact h.forall_mem_capitalize (hws w (hvs hw)) d hd
  cases convention with
  | pascal => exact hcapital ws (List.Subset.refl ws)
  | camel =>
    cases ws with
    | nil => simp [Convention.joinChars]
    | cons w vs =>
      rw [Convention.joinChars, List.forall_mem_append]
      constructor
      · exact h.forall_mem_lowercaseAfter (hws w List.mem_cons_self)
      · exact hcapital vs (List.subset_cons_self w vs)
  | snake =>
    apply forall_mem_intercalate hline
    rw [List.forall_mem_map]
    intro w hw
    exact h.forall_mem_lowercaseAfter (hws w hw)

end CaseMaps

theorem caseMaps_plainChar : CaseMaps (isAlphanumeric ·) PlainChar where
  upper _ hc := Text.plainChar_toUppercase hc
  lower _ hc := Text.plainChar_toLowercase hc
  -- both small sigmas are no ASCII characters
  sigma _ := by decide +kernel

/-- The convention puts no mark into an identifier. -/
theorem Convention.plainText_apply (convention : Convention) (key : String) :
    PlainText (convention.apply key) := by
  intro c hc
  rw [apply, String.toList_ofList] at hc
  exact caseMaps_plainChar.forall_mem_joinChars (by decide) convention
    (isAlphanumeric_of_mem_words _) c hc

theorem Convention.identText_apply (convention : Convention) (key : String) :
    IdentText (convention.apply key) :=
  fun c hc => (convention.plainText_apply key c hc).identChar

/-- The number in a name is written in digits. -/
theorem isDigit_of_mem_toString (n : Nat) : ∀ c ∈ (toString n).toList, c.isDigit := by
  intro c hc
  rw [Nat.toString_eq_repr, Nat.toList_repr] at hc
  exact Nat.isDigit_of_mem_toDigits (by decide) (by decide) hc

theorem isPlainPart_of_mem_line : ∀ c ∈ "_".toList, isPlainPart c :=
  List.forall_mem_singleton.2 (by decide)

/-- What stands for a number at the end of a name. -/
def Convention.counter : Convention → Nat → String
  | .snake, n => "_" ++ toString n
  | _, n => toString n

theorem Convention.withCounter_eq (convention : Convention) (base : String) (n : Nat) :
    convention.withCounter base n = base ++ convention.counter n := by
  cases convention with
  | pascal | camel => rfl
  | snake => exact String.append_assoc

theorem Convention.isPlainPart_of_mem_counter (convention : Convention) (n : Nat) :
    ∀ c ∈ (convention.counter n).toList, isPlainPart c := by
  have hdigits : ∀ c ∈ (toString n).toList, isPlainPart c := by
    intro c hc
    rw [isPlainPart, Char.isAlphanum, isDigit_of_mem_toString n c hc, Bool.or_true, Bool.true_or]
  cases convention with
  | pascal | camel => exact hdigits
  | snake =>
    rw [counter, String.toList_append, List.forall_mem_append]
    exact ⟨isPlainPart_of_mem_line, hdigits⟩

theorem Convention.plainText_withCounter (convention : Convention) {base : String}
    (h : PlainText base) (n : Nat) : PlainText (convention.withCounter base n) := by
  rw [withCounter_eq]
  exact h.append fun c hc _ => convention.isPlainPart_of_mem_counter n c hc

theorem Convention.identText_withCounter (convention : Convention) {base : String}
    (h : IdentText base) (n : Nat) : IdentText (convention.withCounter base n) := by
  rw [withCounter_eq]
  exact h.append fun c hc =>
    PlainChar.identChar fun _ => convention.isPlainPart_of_mem_counter n c hc

end Ident

/-! ### Names -/

namespace Naming

open Text (IdentText)

theorem identText_escapeKeyword {language : Target.Language} {ident escaped : String}
    (h : IdentText ident) (he : language.escapeKeyword ident = some escaped) :
    IdentText escaped := by
  have hmarks : IdentText "@" ∧ IdentText "_" ∧ IdentText "r#" := by
    decide
  obtain ⟨hat, hline, hraw⟩ := hmarks
  unfold Target.Language.escapeKeyword at he
  split at he
  · cases he
    cases language with
    | csharp => exact hat.append h
    | typescript | python => exact h.append hline
    | rust =>
      simp only
      split
      · exact h.append hline
      · exact hraw.append h
  · cases he

theorem identText_sanitize (cx : Context) (key fallback : String) :
    IdentText (cx.sanitize key fallback).ident := by
  unfold Context.sanitize
  extract_lets applied word marked
  have hword : IdentText word := by
    simp only [word]
    split
    · exact cx.convention.identText_apply fallback
    · exact cx.convention.identText_apply key
  have hmarked : IdentText marked := by
    have hmark : IdentText cx.convention.digitMark := by
      cases cx.convention <;> decide
    simp only [marked]
    split
    · exact hmark.append hword
    · exact hword
  split
  · rename_i escaped he
    exact identText_escapeKeyword hmarked he
  · exact hmarked

/-! The other names are identifiers for keys as well, or such identifiers with a number. -/

section Numbered

variable {cx : Context} {P : String → Prop}
  (hcounter : ∀ base n, P base → P (cx.convention.withCounter base n))

include hcounter

theorem typeName_of_sanitize {owner key : String} (hkey : P (cx.sanitize key "type").ident)
    (hqualified : P (cx.sanitize (owner ++ " " ++ key) "type").ident) (names : Names) :
    P (cx.typeName (.field owner key) names) := by
  unfold Context.typeName
  simp only
  split
  · exact hkey
  · split
    · exact hqualified
    · exact hcounter _ _ hkey

theorem rootName_of_sanitize {rootName : String} (h : P (cx.sanitize rootName "root").ident) :
    P (cx.rootName rootName).ident := by
  unfold Context.rootName
  simp only
  split
  · exact hcounter _ _ h
  · exact h

theorem forall_mem_assignNames {wanted : List String} {owner : Option String} {claims : Claims}
    {cs : List Candidate} (h : ∀ c ∈ cs, P c.ident) :
    ∀ c ∈ assignNames cx.convention wanted owner claims cs, P c.ident := by
  fun_induction assignNames cx.convention wanted owner claims cs with
  | case1 => simp
  | case2 claims c cs collides reason _ ident ih =>
    rw [List.forall_mem_cons] at h ⊢
    exact ⟨hcounter _ _ h.1, ih h.2⟩
  | case3 claims c cs collides reason _ ih =>
    rw [List.forall_mem_cons] at h ⊢
    exact ⟨h.1, ih h.2⟩

theorem forall_mem_memberNames {keys : List String}
    (h : ∀ key ∈ keys, P (cx.sanitize key "field").ident) (name : String) :
    ∀ c ∈ cx.memberNames name keys, P c.ident := by
  rw [Context.memberNames]
  apply forall_mem_assignNames hcounter
  rw [List.forall_mem_map]
  exact h

end Numbered

theorem identText_typeName (cx : Context) (owner key : String) (names : Names) :
    IdentText (cx.typeName (.field owner key) names) :=
  typeName_of_sanitize (P := IdentText) (fun _ n h => cx.convention.identText_withCounter h n)
    (identText_sanitize cx _ _) (identText_sanitize cx _ _) names

theorem identText_rootName (cx : Context) (rootName : String) :
    IdentText (cx.rootName rootName).ident :=
  rootName_of_sanitize (P := IdentText) (fun _ n h => cx.convention.identText_withCounter h n)
    (identText_sanitize cx _ _)

end Naming

end SampleTypes
