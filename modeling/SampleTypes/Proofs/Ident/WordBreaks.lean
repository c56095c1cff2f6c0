import SampleTypes.Proofs.Ident.Plain

/-!
# Where a key falls into words

The words of a key are its word characters, cut into pieces that are not empty.  Between two word
characters that follow each other there is a cut exactly if other characters stand between them, or
the second is a capital that starts a word.

* `flatten_wordsAfter` and `nil_notMem_wordsAfter`: nothing is lost, and no word is empty;
* `exists_wordsAfter_append` tells how far the words are settled when a part of the key is read, and
  `endsAt_words_iff` where they are cut;
* `apply_eq_empty_iff` and `bare_apply`: what a convention makes of the words has the same letters
  and digits;
* `splitWords_cuts_and_apply` is the main result.
-/

namespace SampleTypes.Ident

open Text

/-! ### Nothing is lost -/

theorem flatten_wordsAfter (current chars : List Char) :
    (wordsAfter current chars).flatten = current.reverse ++ chars.filter isAlphanumeric := by
  fun_induction wordsAfter current chars with
  | case1 current h => simp [List.isEmpty_iff.1 h]
  | case2 current h => simp
  | case3 current c rest hc h ih =>
    rw [ih, List.isEmpty_iff.1 h, List.filter_cons_of_neg (by simpa using hc)]
  | case4 current c rest hc h ih =>
    rw [List.flatten_cons, ih, List.filter_cons_of_neg (by simpa using hc)]
    rfl
  | case5 c rest hc ih =>
    rw [ih, List.filter_cons_of_pos (by simpa using hc)]
    rfl
  | case6 c rest hc previous more h ih =>
    rw [List.flatten_cons, ih, List.filter_cons_of_pos (by simpa using hc)]
    rfl
  | case7 c rest hc previous more h ih =>
    rw [ih, List.filter_cons_of_pos (by simpa using hc), List.reverse_cons, List.append_assoc]
    rfl

/-- No word is empty. -/
theorem nil_notMem_wordsAfter (current chars : List Char) : [] ∉ wordsAfter current chars := by
  fun_induction wordsAfter current chars with
  | case1 current h => simp
  | case2 current h => simpa using h
  | case3 current c rest hc h ih => exact ih
  | case4 current c rest hc h ih => simpa using ⟨by simpa using h, ih⟩
  | case5 c rest hc ih => exact ih
  | case6 c rest hc previous more h ih => simpa using ih
  | case7 c rest hc previous more h ih => exact ih

theorem words_eq_nil_iff {chars : List Char} :
    words chars = [] ↔ ∀ c ∈ chars, ¬ isAlphanumeric c := by
  have hflat : (words chars).flatten = chars.filter isAlphanumeric := flatten_wordsAfter [] chars
  rw [← List.filter_eq_nil_iff, ← hflat]
  constructor
  · intro h
    rw [h, List.flatten_nil]
  · intro h
    rw [List.flatten_eq_nil_iff] at h
    cases hwords : words chars with
    | nil => rfl
    | cons w ws =>
      have hmem : w ∈ words chars := by
        rw [hwords]
        exact List.mem_cons_self
      rw [h w hmem] at hmem
      exact absurd hmem (nil_notMem_wordsAfter [] chars)

/-! ### One character -/

theorem wordsAfter_cons_other {c : Char} (hc : ¬ isAlphanumeric c) {current : List Char}
    (h : current ≠ []) (rest : List Char) :
    wordsAfter current (c :: rest) = current.reverse :: wordsAfter [] rest := by
  rw [wordsAfter.eq_def]
  simp [hc, h]

theorem wordsAfter_nil_cons_other {c : Char} (hc : ¬ isAlphanumeric c) (rest : List Char) :
    wordsAfter [] (c :: rest) = wordsAfter [] rest := by
  rw [wordsAfter.eq_def]
  simp [hc]

theorem wordsAfter_nil_cons {c : Char} (hc : isAlphanumeric c) (rest : List Char) :
    wordsAfter [] (c :: rest) = wordsAfter [c] rest := by
  rw [wordsAfter.eq_def]
  simp [hc]

theorem wordsAfter_cons_cons {c : Char} (hc : isAlphanumeric c) (p : Char)
    (more rest : List Char) :
    wordsAfter (p :: more) (c :: rest) =
      if startsWord p c rest.head? then (p :: more).reverse :: wordsAfter [c] rest
      else wordsAfter (c :: p :: more) rest := by
  rw [wordsAfter.eq_def]
  simp [hc]

/--
After one more character some words have ended, and the word under way is another one.  It ends with
that character if it is a word character.
-/
theorem exists_wordsAfter_cons (current : List Char) (c : Char) (rest : List Char) :
    ∃ ended left, wordsAfter current (c :: rest) = ended ++ wordsAfter left rest ∧
      ended.flatten ++ left.reverse = current.reverse ++ [c].filter isAlphanumeric ∧
      (isAlphanumeric c → ∃ more, left = c :: more) := by
  by_cases hc : isAlphanumeric c
  · rw [List.filter_cons_of_pos hc, List.filter_nil]
    cases current with
    | nil => exact ⟨[], [c], wordsAfter_nil_cons hc rest, rfl, fun _ => ⟨[], rfl⟩⟩
    | cons p more =>
      rw [wordsAfter_cons_cons hc]
      by_cases hstart : startsWord p c rest.head?
      · rw [if_pos hstart]
        exact ⟨[(p :: more).reverse], [c], rfl, by simp, fun _ => ⟨[], rfl⟩⟩
      · rw [if_neg hstart]
        exact ⟨[], c :: p :: more, rfl, by simp, fun _ => ⟨p :: more, rfl⟩⟩
  · rw [List.filter_cons_of_neg hc, List.filter_nil, List.append_nil]
    by_cases h : current = []
    · subst h
      exact ⟨[], [], wordsAfter_nil_cons_other hc rest, rfl, fun hword => absurd hword hc⟩
    · exact ⟨[current.reverse], [], wordsAfter_cons_other hc h rest, by simp,
        fun hword => absurd hword hc⟩

/-! ### Cuts -/

/--
When the characters `read` are read, the words before the one under way are settled, and those that
follow depend on the rest.
-/
theorem exists_wordsAfter_append (current read rest : List Char) :
    ∃ ws left, wordsAfter current (read ++ rest) = ws ++ wordsAfter left rest ∧
      ws.flatten ++ left.reverse = current.reverse ++ read.filter isAlphanumeric := by
  induction read generalizing current with
  | nil => exact ⟨[], current, rfl, by simp⟩
  | cons c read ih =>
    obtain ⟨ended, left, hended, hleft, -⟩ := exists_wordsAfter_cons current c (read ++ rest)
    obtain ⟨ws, last, hws, hlast⟩ := ih left
    refine ⟨ended ++ ws, last, ?_, ?_⟩
    · rw [List.cons_append, hended, hws, List.append_assoc]
    · rw [List.flatten_append, List.append_assoc, hlast, ← List.append_assoc, hleft,
        List.append_assoc, ← List.filter_append]
      rfl

/-- The word under way ends with the word character that was read last. -/
theorem exists_words_append {p : Char} (hp : isAlphanumeric p) (read rest : List Char) :
    ∃ ws more, words (read ++ p :: rest) = ws ++ wordsAfter (p :: more) rest ∧
      ws.flatten ++ (p :: more).reverse = (read ++ [p]).filter isAlphanumeric := by
  obtain ⟨ws, left, hws, hflat⟩ := exists_wordsAfter_append [] read (p :: rest)
  obtain ⟨ended, last, hended, hlast, hword⟩ := exists_wordsAfter_cons left p rest
  obtain ⟨more, rfl⟩ := hword hp
  refine ⟨ws ++ ended, more, ?_, ?_⟩
  · rw [words, hws, hended, List.append_assoc]
  · rw [List.flatten_append, List.append_assoc, hlast, ← List.append_assoc, hflat,
      List.filter_append]
    rfl

/-- A word that is under way is the start of the next word. -/
theorem exists_wordsAfter_eq_cons {current : List Char} (h : current ≠ []) (chars : List Char) :
    ∃ more ws, wordsAfter current chars = (current.reverse ++ more) :: ws := by
  induction chars generalizing current with
  | nil => exact ⟨[], [], by simp [wordsAfter, h]⟩
  | cons c rest ih =>
    by_cases hc : isAlphanumeric c
    · obtain ⟨p, more, rfl⟩ := List.exists_cons_of_ne_nil h
      rw [wordsAfter_cons_cons hc]
      split
      · exact ⟨[], _, by rw [List.append_nil]⟩
      · obtain ⟨after, ws, hws⟩ := ih (List.cons_ne_nil c (p :: more))
        refine ⟨c :: after, ws, ?_⟩
        rw [hws, List.reverse_cons, List.append_assoc]
        rfl
    · exact ⟨[], _, by rw [wordsAfter_cons_other hc h, List.append_nil]⟩

/-- One of the words ends where the word characters `read` do. -/
def EndsAt (ws : List (List Char)) (read : List Char) : Prop :=
  ∃ ended others, ws = ended ++ others ∧ ended.flatten = read

/-- No word ends inside another one. -/
theorem not_endsAt_of_cons {ws others : List (List Char)} {start more : List Char}
    (hstart : start ≠ []) (hmore : more ≠ []) :
    ¬ EndsAt (ws ++ (start ++ more) :: others) (ws.flatten ++ start) := by
  rintro ⟨ended, rest, heq, hflat⟩
  rcases List.append_eq_append_iff.1 heq with ⟨between, rfl, hcons⟩ | ⟨between, rfl, -⟩
  · rw [List.flatten_append] at hflat
    have hbetween : between.flatten = start := List.append_cancel_left hflat
    cases between with
    | nil => exact hstart hbetween.symm
    | cons w between =>
      rw [List.cons_append, List.cons.injEq] at hcons
      rw [List.flatten_cons, ← hcons.1, List.append_assoc, List.append_right_eq_self] at hbetween
      exact hmore (List.append_eq_nil_iff.1 hbetween).1
  · rw [List.flatten_append, List.append_assoc, eq_comm, List.append_right_eq_self] at hflat
    exact hstart (List.append_eq_nil_iff.1 hflat).2

/-- **Between two word characters the words are cut** where others stand or a word starts. -/
theorem endsAt_words_iff {before gap after : List Char} {p c : Char} (hp : isAlphanumeric p)
    (hc : isAlphanumeric c) (hgap : ∀ g ∈ gap, ¬ isAlphanumeric g) :
    EndsAt (words (before ++ p :: (gap ++ c :: after))) ((before ++ [p]).filter isAlphanumeric) ↔
      gap ≠ [] ∨ startsWord p c after.head? := by
  obtain ⟨ws, more, hws, hflat⟩ := exists_words_append hp before (gap ++ c :: after)
  rw [hws, ← hflat]
  have hne : p :: more ≠ [] := List.cons_ne_nil p more
  -- a word that ends with `p` is cut off in front of the words that follow
  have hcut : ∀ others, EndsAt (ws ++ (p :: more).reverse :: others)
      (ws.flatten ++ (p :: more).reverse) := by
    intro others
    refine ⟨ws ++ [(p :: more).reverse], others, ?_, ?_⟩
    · rw [List.append_assoc]
      rfl
    · rw [List.flatten_append, List.flatten_singleton]
  cases gap with
  | cons g gap =>
    rw [List.cons_append, wordsAfter_cons_other (hgap g List.mem_cons_self) hne]
    exact iff_of_true (hcut _) (.inl (List.cons_ne_nil g gap))
  | nil =>
    rw [List.nil_append, wordsAfter_cons_cons hc]
    by_cases hstart : startsWord p c after.head?
    · rw [if_pos hstart]
      exact iff_of_true (hcut _) (.inr hstart)
    · rw [if_neg hstart]
      obtain ⟨tail, others, hcons⟩ :=
        exists_wordsAfter_eq_cons (List.cons_ne_nil c (p :: more)) after
      rw [hcons, List.reverse_cons, List.append_assoc]
      refine iff_of_false (not_endsAt_of_cons (by simp) (by simp)) ?_
      rintro (hgap | hstart')
      · exact hgap rfl
      · exact hstart hstart'

/-! ### Identifiers from words -/

theorem capitalize_eq_nil_iff {word : List Char} : capitalize word = [] ↔ word = [] := by
  cases word with
  | nil => simp [capitalize]
  | cons c rest => simp [capitalize, toUppercase_ne_nil]

theorem lowercaseWord_eq_nil_iff {word : List Char} : lowercaseWord word = [] ↔ word = [] := by
  cases word with
  | nil => simp [lowercaseWord, lowercaseAfter]
  | cons c rest =>
    rw [lowercaseWord, lowercaseAfter]
    refine iff_of_false ?_ (List.cons_ne_nil c rest)
    intro h
    have himage := (List.append_eq_nil_iff.1 h).1
    split at himage
    · split at himage <;> cases himage
    · exact toLowercase_ne_nil c himage

theorem Convention.joinChars_eq_nil_iff (convention : Convention) {ws : List (List Char)}
    (h : [] ∉ ws) : convention.joinChars ws = [] ↔ ws = [] := by
  cases ws with
  | nil => cases convention <;> simp [joinChars]
  | cons w ws =>
    have hw : w ≠ [] := fun hnil => h (hnil ▸ List.mem_cons_self)
    refine iff_of_false ?_ (List.cons_ne_nil w ws)
    cases convention with
    | pascal => simp [joinChars, capitalize_eq_nil_iff, hw]
    | camel => simp [joinChars, lowercaseWord_eq_nil_iff, hw]
    | snake =>
      cases ws with
      | nil => simp [joinChars, lowercaseWord_eq_nil_iff, hw]
      | cons v ws => simp [joinChars, List.intercalate_cons_cons]

/-- **Only a key without word characters gives an empty identifier.** -/
theorem Convention.apply_eq_empty_iff (convention : Convention) (key : String) :
    convention.apply key = "" ↔ ∀ c ∈ key.toList, ¬ isAlphanumeric c := by
  have hwords : [] ∉ words key.toList := nil_notMem_wordsAfter [] key.toList
  rw [← words_eq_nil_iff, ← convention.joinChars_eq_nil_iff hwords, ← String.toList_eq_nil_iff,
    apply, String.toList_ofList]

/-! ### Identifiers for ASCII keys -/

/-- The letters and digits of an ASCII text, all of them small. -/
def bare (chars : List Char) : List Char :=
  (chars.map Char.toLower).filter (· ≠ '_')

theorem bare_append (l m : List Char) : bare (l ++ m) = bare l ++ bare m := by
  rw [bare, List.map_append, List.filter_append]
  rfl

/-- What is small stays as it is, and a capital becomes the small letter that it is for. -/
theorem toLower_changeCase : ∀ n < 0x80, (Char.ofNat n).toLower.toLower = (Char.ofNat n).toLower ∧
    (Char.ofNat n).toUpper.toLower = (Char.ofNat n).toLower := by
  decide +kernel

theorem toLower_ne_line : ∀ n < 0x80, (Char.ofNat n).isAlphanum →
    (Char.ofNat n).toLower ≠ '_' := by
  decide +kernel

section Ascii

variable {word : List Char} (h : ∀ c ∈ word, c.toNat < 0x80)

include h

theorem map_toLower_flatMap_toLowercase :
    (word.flatMap toLowercase).map Char.toLower = word.map Char.toLower := by
  induction word with
  | nil => rfl
  | cons c word ih =>
    rw [List.forall_mem_cons] at h
    have hcase := (toLower_changeCase c.toNat h.1).1
    rw [Char.ofNat_toNat] at hcase
    rw [List.flatMap_cons, List.map_append, ih h.2, toLowercase, if_pos h.1, List.map_cons,
      List.map_nil, hcase]
    rfl

theorem bare_capitalize : bare (capitalize word) = bare word := by
  cases word with
  | nil => rfl
  | cons c rest =>
    rw [List.forall_mem_cons] at h
    have hcase := (toLower_changeCase c.toNat h.1).2
    rw [Char.ofNat_toNat] at hcase
    rw [bare, capitalize, List.map_append, map_toLower_flatMap_toLowercase h.2, toUppercase,
      if_pos h.1, List.map_cons, List.map_nil, hcase]
    rfl

/-- Without capital sigmas a word is made small character by character. -/
theorem lowercaseAfter_eq_flatMap (before : List Char) :
    lowercaseAfter before word = word.flatMap toLowercase := by
  induction word generalizing before with
  | nil => rfl
  | cons c word ih =>
    rw [List.forall_mem_cons] at h
    have hsigma : c ≠ 'Σ' := by
      rintro rfl
      exact absurd h.1 (by decide)
    rw [lowercaseAfter, if_neg hsigma, ih h.2, List.flatMap_cons]

theorem bare_lowercaseWord : bare (lowercaseWord word) = bare word := by
  rw [bare, lowercaseWord, lowercaseAfter_eq_flatMap h, map_toLower_flatMap_toLowercase h]
  rfl

end Ascii

theorem bare_flatMap {f : List Char → List Char} {ws : List (List Char)}
    (h : ∀ w ∈ ws, bare (f w) = bare w) : bare (ws.flatMap f) = bare ws.flatten := by
  induction ws with
  | nil => rfl
  | cons w ws ih =>
    rw [List.forall_mem_cons] at h
    rw [List.flatMap_cons, List.flatten_cons, bare_append, bare_append, h.1, ih h.2]

theorem bare_intercalate (ws : List (List Char)) :
    bare (['_'].intercalate ws) = bare ws.flatten := by
  induction ws with
  | nil => rfl
  | cons v ws ih =>
    cases ws with
    | nil => simp
    | cons w ws =>
      have hline : bare ['_'] = [] := by
        decide
      rw [List.intercalate_cons_cons, bare_append, bare_append, ih, hline, List.append_nil,
        ← bare_append]
      rfl

/-- **An identifier has the letters and digits of its ASCII words.** -/
theorem Convention.bare_joinChars (convention : Convention) {ws : List (List Char)}
    (h : ∀ w ∈ ws, ∀ c ∈ w, c.toNat < 0x80) :
    bare (convention.joinChars ws) = bare ws.flatten := by
  cases convention with
  | pascal => exact bare_flatMap fun w hw => bare_capitalize (h w hw)
  | camel =>
    cases ws with
    | nil => rfl
    | cons w ws =>
      rw [List.forall_mem_cons] at h
      rw [joinChars, bare_append, bare_lowercaseWord h.1,
        bare_flatMap fun w hw => bare_capitalize (h.2 w hw), List.flatten_cons, bare_append]
  | snake =>
    rw [joinChars, bare_intercalate, ← List.flatMap_def]
    exact bare_flatMap fun w hw => bare_lowercaseWord (h w hw)

theorem Convention.bare_apply (convention : Convention) {key : String} (h : IsAscii key) :
    bare (convention.apply key).toList
      = (key.toList.filter isAlphanumeric).map Char.toLower := by
  have hwords : ∀ w ∈ words key.toList, ∀ c ∈ w, c.toNat < 0x80 :=
    forall_mem_wordsAfter (by simp) fun c hc _ => h c hc
  have hflat : (words key.toList).flatten = key.toList.filter isAlphanumeric :=
    flatten_wordsAfter [] key.toList
  rw [apply, String.toList_ofList, convention.bare_joinChars hwords, hflat, bare,
    List.filter_eq_self, List.forall_mem_map]
  intro c hc
  obtain ⟨hmem, hword⟩ := List.mem_filter.1 hc
  have hline := toLower_ne_line c.toNat (h c hmem)
  rw [Char.ofNat_toNat, ← isAlphanumeric_eq_isAlphanum (h c hmem)] at hline
  exact decide_eq_true (hline hword)

/-! ### Texts -/

theorem join_map_ofList (ws : List (List Char)) :
    String.join (ws.map String.ofList) = String.ofList ws.flatten := by
  rw [← String.toList_inj, String.toList_join, String.toList_ofList, List.flatMap_map]
  simp [List.flatMap_def]

theorem endsAt_words_iff_splitWords {s : String} {read : List Char} :
    EndsAt (words s.toList) read ↔
      ∃ ended others, splitWords s = ended ++ others ∧ String.join ended = String.ofList read := by
  constructor
  · rintro ⟨ended, others, heq, rfl⟩
    refine ⟨ended.map String.ofList, others.map String.ofList, ?_, join_map_ofList ended⟩
    rw [splitWords, heq, List.map_append]
  · rintro ⟨ended, others, heq, hended⟩
    obtain ⟨ws, ws', hws, rfl, rfl⟩ := List.map_eq_append_iff.1 heq
    rw [join_map_ofList] at hended
    exact ⟨ws, ws', hws, String.ofList_injective hended⟩

theorem startsWord_iff {p c : Char} {next : Option Char} :
    startsWord p c next ↔ (isUppercase c ∧ (isLowercase p ∨ isNumeric p)) ∨
      (isUppercase c ∧ isUppercase p ∧ ∃ n ∈ next, isLowercase n) := by
  unfold startsWord
  cases next <;> simp [and_or_left, or_assoc]

theorem validate_eq_error_iff {settings : Settings} :
    settings.validate = .error (.rootNameWithoutLetters settings.rootName) ↔
      ∀ c ∈ settings.rootName.toList, ¬ isAlphanumeric c := by
  unfold Settings.validate
  split
  · rename_i h
    simpa using h
  · rename_i h
    refine iff_of_false ?_ (by simpa using h)
    split <;> simp

/--
**The words of a text are its word characters, cut exactly where the rule says**: where other
characters stand between two of them, before a capital that follows a small letter or a number, and
before the last capital of several when a small letter follows it.  What a convention makes of the
words is empty only for a text without word characters, which as a root name is refused, and for an
ASCII text it has the same letters and digits, but for their case.
-/
theorem splitWords_cuts_and_apply (s : String) :
    (∀ w ∈ splitWords s, w ≠ "") ∧
    String.join (splitWords s) = String.ofList (s.toList.filter isAlphanumeric) ∧
    (∀ before gap after p c, s.toList = before ++ p :: (gap ++ c :: after) →
      isAlphanumeric p → isAlphanumeric c → (∀ g ∈ gap, ¬ isAlphanumeric g) →
      ((∃ ended others, splitWords s = ended ++ others ∧
          String.join ended = String.ofList ((before ++ [p]).filter isAlphanumeric)) ↔
        gap ≠ [] ∨ (isUppercase c ∧ (isLowercase p ∨ isNumeric p)) ∨
          (isUppercase c ∧ isUppercase p ∧ ∃ n ∈ after.head?, isLowercase n))) ∧
    ∀ convention : Convention,
      (convention.apply s = "" ↔ ∀ c ∈ s.toList, ¬ isAlphanumeric c) ∧
      (∀ settings : Settings, settings.rootName = s →
        (settings.validate = .error (.rootNameWithoutLetters s) ↔ convention.apply s = "")) ∧
      (IsAscii s → ((convention.apply s).toList.map Char.toLower).filter (· ≠ '_')
        = (s.toList.filter isAlphanumeric).map Char.toLower) := by
  refine ⟨?_, ?_, ?_, fun convention => ⟨convention.apply_eq_empty_iff s, ?_, ?_⟩⟩
  · rw [splitWords, List.forall_mem_map]
    intro w hw hempty
    rw [← String.toList_eq_nil_iff, String.toList_ofList] at hempty
    subst hempty
    exact nil_notMem_wordsAfter [] s.toList hw
  · have hflat : (words s.toList).flatten = s.toList.filter isAlphanumeric :=
      flatten_wordsAfter [] s.toList
    rw [splitWords, join_map_ofList, hflat]
  · intro before gap after p c hs hp hc hgap
    rw [← endsAt_words_iff_splitWords, hs, endsAt_words_iff hp hc hgap, startsWord_iff]
  · rintro settings rfl
    rw [convention.apply_eq_empty_iff, validate_eq_error_iff]
  · exact convention.bare_apply

/-- Capitals before a word, and a number before one. -/
theorem cuts_of_capitals_and_number :
    let s := "parseHTTPResponse_v2Beta"
    splitWords s = ["parse", "HTTP", "Response", "v2", "Beta"] ∧
      (∃ ended others, splitWords s = ended ++ others ∧ String.join ended = "parseHTTP") ∧
      (¬ ∃ ended others, splitWords s = ended ++ others ∧ String.join ended = "parseHTT") ∧
      Convention.snake.apply s = "parse_http_response_v2_beta" ∧
      ((Convention.snake.apply s).toList.map Char.toLower).filter (· ≠ '_')
        = "parsehttpresponsev2beta".toList := by
  intro s
  obtain ⟨-, -, hcuts, happly⟩ := splitWords_cuts_and_apply s
  have hbefore := hcuts "parseHTT".toList [] "esponse_v2Beta".toList 'P' 'R' (by decide)
    (by decide) (by decide) (by simp)
  have hinside := hcuts "parseHT".toList [] "Response_v2Beta".toList 'T' 'P' (by decide)
    (by decide) (by decide) (by simp)
  refine ⟨by decide +kernel, hbefore.2 (.inr (.inr ?_)), fun h => ?_, by decide +kernel, ?_⟩
  · exact ⟨by decide, by decide, 'e', rfl, by decide⟩
  · rcases hinside.1 h with hgap | hrule
    · exact hgap rfl
    · rw [← startsWord_iff] at hrule
      exact absurd hrule (by decide)
  · rw [(happly .snake).2.2 (by decide)]
    decide +kernel

end SampleTypes.Ident
