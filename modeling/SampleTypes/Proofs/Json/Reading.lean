import SampleTypes.Json.Reader
import SampleTypes.Proofs.Json.Grammar
import Mathlib.Data.List.TakeWhile

/-!
# What readers return

The readers of the parts of a text, told by the rules of `Spells`.  What a reader returns does not
depend on the place in the text, so `outcome` leaves places and faults away: the result and the
characters that are left, or nothing.
-/

namespace SampleTypes.Json

/-! ### Outcomes -/

section Outcome

variable {ε α β : Type}

/-- The result of a reader and what is left of the text; nothing if it failed. -/
def outcome : Except ε (α × Cursor) → Option (α × List Char)
  | .ok (a, c) => some (a, c.rest)
  | .error _ => none

@[simp] theorem outcome_ok (a : α) (c : Cursor) :
    outcome (.ok (a, c) : Except ε (α × Cursor)) = some (a, c.rest) := rfl

theorem outcome_eq_some_iff {r : Except ε (α × Cursor)} {a : α} {rest : List Char} :
    outcome r = some (a, rest) ↔ ∃ c, r = .ok (a, c) ∧ c.rest = rest := by
  constructor
  · intro h
    cases r with
    | error e => cases h
    | ok read =>
      cases h
      exact ⟨read.2, rfl, rfl⟩
  · rintro ⟨c, rfl, rfl⟩
    rfl

theorem outcome_eq_none_iff {r : Except ε (α × Cursor)} :
    outcome r = none ↔ ∃ e, r = .error e := by
  constructor
  · intro h
    cases r with
    | error e => exact ⟨e, rfl⟩
    | ok read => cases h
  · rintro ⟨e, rfl⟩
    rfl

theorem outcome_mapError {ε' : Type} (f : ε → ε') (r : Except ε (α × Cursor)) :
    outcome (r.mapError f) = outcome r := by
  cases r <;> rfl

/-- A reader after one that failed. -/
theorem outcome_bind_of_none {r : Except ε (α × Cursor)}
    {f : α × Cursor → Except ε (β × Cursor)} (hr : outcome r = none) :
    outcome (r >>= f) = none := by
  obtain ⟨e, rfl⟩ := outcome_eq_none_iff.1 hr
  rfl

/-- One reader after another. -/
theorem outcome_bind {r : Except ε (α × Cursor)} {f : α × Cursor → Except ε (β × Cursor)}
    {a? : Option α} {left : List Char} {g : α → Option (β × List Char)}
    (hr : outcome r = a?.map (·, left))
    (hf : ∀ a c, a? = some a → c.rest = left → outcome (f (a, c)) = g a) :
    outcome (r >>= f) = a?.bind g := by
  cases a? with
  | none =>
    obtain ⟨e, rfl⟩ := outcome_eq_none_iff.1 hr
    rfl
  | some a =>
    obtain ⟨c, rfl, hc⟩ := outcome_eq_some_iff.1 hr
    exact hf a c rfl hc

/-- A reader after one that succeeded. -/
theorem outcome_bind_of_some {r : Except ε (α × Cursor)}
    {f : α × Cursor → Except ε (β × Cursor)} {a : α} {left : List Char}
    {b : Option (β × List Char)} (hr : outcome r = some (a, left))
    (hf : ∀ c, c.rest = left → outcome (f (a, c)) = b) : outcome (r >>= f) = b := by
  obtain ⟨c, rfl, hc⟩ := outcome_eq_some_iff.1 hr
  exact hf c hc

/-- A reader with its result changed. -/
theorem outcome_bind_ok {r : Except ε (α × Cursor)} (f : α → β) {a? : Option α}
    {left : List Char} (hr : outcome r = a?.map (·, left)) :
    outcome (do
      let (a, c) ← r
      .ok (f a, c)) = (a?.map f).map (·, left) := by
  cases a? with
  | none => exact outcome_bind_of_none hr
  | some a => exact outcome_bind_of_some hr fun c hc => by rw [outcome_ok, hc]; rfl

/-- A reader that has no result of its own reaches what is left of the text. -/
def Reaches (r : Except ε Cursor) (left : List Char) : Prop :=
  ∃ c, r = .ok c ∧ c.rest = left

theorem Reaches.mapError {ε' : Type} {r : Except ε Cursor} {left : List Char}
    (h : Reaches r left) (f : ε → ε') : Reaches (r.mapError f) left := by
  obtain ⟨c, rfl, hc⟩ := h
  exact ⟨c, rfl, hc⟩

/-- A reader after one without a result. -/
theorem Reaches.outcome_bind {r : Except ε Cursor} {left : List Char}
    {f : Cursor → Except ε (β × Cursor)} {b : Option (β × List Char)} (h : Reaches r left)
    (hf : ∀ c, c.rest = left → outcome (f c) = b) : outcome (r >>= f) = b := by
  obtain ⟨c, rfl, hc⟩ := h
  exact hf c hc

end Outcome

/-! ### Blanks and words -/

theorem Cursor.rest_skipBlanks {c : Cursor} {b left : List Char} (h : c.rest = b ++ left)
    (hb : Blank b) (hleft : ∀ ch ∈ left.head?, ¬ isSeparatingBlank ch) :
    c.skipBlanks.rest = left := by
  rw [skipBlanks, rest_skipWhile, h, List.dropWhile_append_of_pos hb]
  cases left with
  | nil => rfl
  | cons ch more => exact List.dropWhile_cons_of_neg (hleft ch rfl)

theorem reaches_readWord {w left : List Char} {c : Cursor} (h : c.rest = w ++ left) :
    Reaches (readWord w c) left := by
  induction w generalizing c with
  | nil => exact ⟨c, rfl, h⟩
  | cons ch w ih =>
    have hw : readWord (ch :: w) c = readWord w c.advance := by
      simp only [readWord, h, List.cons_append, if_true]
    rw [hw]
    exact ih (by rw [Cursor.rest_advance, h]; rfl)

/-! ### Strings -/

/-- Digits in base sixteen take one byte each. -/
theorem utf8Size_of_hexDigit? {c : Char} {n : Nat} (h : hexDigit? c = some n) :
    c.utf8Size = 1 := by
  have hle : c ≤ 'f' := by
    unfold hexDigit? at h
    split at h
    · next hdigit =>
      simp only [Char.isDigit, Bool.and_eq_true, decide_eq_true_eq] at hdigit
      exact UInt32.le_trans hdigit.2 (by decide)
    split at h
    · next hlower => exact hlower.2
    split at h
    · next hupper => exact Char.le_trans hupper.2 (by decide)
    · cases h
  exact Char.utf8Size_eq_one_iff.2 (UInt32.le_trans hle (by decide))

/-- The four characters of a quad are digits. -/
theorem utf8Size_of_hexQuad? {a b c d : Char} {n : Nat} (h : hexQuad? [a, b, c, d] = some n) :
    ∀ ch ∈ [a, b, c, d], ch.utf8Size = 1 := by
  simp only [hexQuad?, Option.pure_def, Option.bind_eq_bind, Option.bind_eq_some_iff] at h
  obtain ⟨_, ha, _, hb, _, hc, _, hd, -⟩ := h
  simp only [List.forall_mem_cons]
  exact ⟨utf8Size_of_hexDigit? ha, utf8Size_of_hexDigit? hb, utf8Size_of_hexDigit? hc,
    utf8Size_of_hexDigit? hd, List.forall_mem_nil _⟩

theorem Cursor.rest_pastBytes {read left : List Char} (hread : ∀ ch ∈ read, ch.utf8Size = 1)
    {c : Cursor} (h : c.rest = read ++ left) : (c.pastBytes read.length).rest = left := by
  induction read generalizing c with
  | nil => rwa [List.length_nil, pastBytes]
  | cons ch read ih =>
    obtain ⟨hch, hread⟩ := List.forall_mem_cons.1 hread
    rw [List.length_cons, pastBytes, h]
    simp only [List.cons_append, hch, Nat.le_add_left, if_true, Nat.add_sub_cancel]
    exact ih hread (Cursor.rest_past ..)

theorem outcome_readHexQuad {x₁ x₂ x₃ x₄ : Char} {n : Nat}
    (hn : hexQuad? [x₁, x₂, x₃, x₄] = some n) {c : Cursor} {left : List Char}
    (h : c.rest = [x₁, x₂, x₃, x₄] ++ left) : outcome (readHexQuad c) = some (n, left) := by
  have hsize := utf8Size_of_hexQuad? hn
  have hleft : (c.pastBytes 4).rest = left := Cursor.rest_pastBytes hsize h
  simp only [List.forall_mem_cons] at hsize
  obtain ⟨h₁, h₂, h₃, h₄, -⟩ := hsize
  have hquad : hexQuad? c.rest = some n := by rw [h]; exact hn
  have hbytes : (c.rest.take 4).foldl (fun n ch => n + ch.utf8Size) 0 = 4 := by
    rw [h]
    simp only [List.cons_append, List.nil_append, List.take_succ_cons, List.take_zero,
      List.foldl_cons, List.foldl_nil, h₁, h₂, h₃, h₄]
  rw [readHexQuad]
  simp only [hbytes, hquad, Nat.lt_irrefl, if_false, outcome_ok, hleft]

theorem reaches_readPairMark {mark : Char} {c : Cursor} {left : List Char}
    (h : c.rest = mark :: left) : Reaches (readPairMark mark c) left := by
  refine ⟨c.advance, ?_, by rw [Cursor.rest_advance, h]; rfl⟩
  simp only [readPairMark, h, if_true]

theorem readPairMark_eq_error {mark : Char} {c : Cursor} (h : c.rest.head? ≠ some mark) :
    ∃ e, readPairMark mark c = .error e := by
  rw [readPairMark]
  split
  · exact ⟨_, rfl⟩
  · next ch left hc =>
    rw [hc, List.head?_cons, Ne, Option.some.injEq] at h
    rw [if_neg h]
    exact ⟨_, rfl⟩

/-- Digits that are no leading surrogate stand for a character, or for none. -/
theorem outcome_readCodePoint {x₁ x₂ x₃ x₄ : Char} {n : Nat}
    (hn : hexQuad? [x₁, x₂, x₃, x₄] = some n) (hleading : ¬ IsLeading n) {c : Cursor}
    {left : List Char} (h : c.rest = [x₁, x₂, x₃, x₄] ++ left) :
    outcome (readCodePoint c) = if IsTrailing n then none else some (Char.ofNat n, left) := by
  rw [readCodePoint]
  refine outcome_bind_of_some (outcome_readHexQuad hn h) fun c hc => ?_
  change outcome (if IsTrailing n then _ else if IsLeading n then _ else _) = _
  rw [if_neg hleading]
  by_cases htrailing : IsTrailing n
  · rw [if_pos htrailing, if_pos htrailing]
    rfl
  · rw [if_neg htrailing, if_neg htrailing, outcome_ok, hc]

/-- A leading surrogate with a unit after it. -/
theorem outcome_readCodePoint_of_unit {x₁ x₂ x₃ x₄ y₁ y₂ y₃ y₄ : Char} {n low : Nat}
    (hn : hexQuad? [x₁, x₂, x₃, x₄] = some n) (hlow : hexQuad? [y₁, y₂, y₃, y₄] = some low)
    (htrailing : ¬ IsTrailing n) (hleading : IsLeading n) {c : Cursor} {left : List Char}
    (h : c.rest = [x₁, x₂, x₃, x₄] ++ '\\' :: 'u' :: ([y₁, y₂, y₃, y₄] ++ left)) :
    outcome (readCodePoint c) = if IsTrailing low then some (paired n low, left) else none := by
  rw [readCodePoint]
  refine outcome_bind_of_some (outcome_readHexQuad hn h) fun c hc => ?_
  change outcome (if IsTrailing n then _ else if IsLeading n then _ else _) = _
  rw [if_neg htrailing, if_pos hleading]
  refine (reaches_readPairMark hc).outcome_bind fun c hc => ?_
  refine (reaches_readPairMark hc).outcome_bind fun c hc => ?_
  refine outcome_bind_of_some (outcome_readHexQuad hlow hc) fun c hc => ?_
  change outcome (if IsTrailing low then _ else _) = _
  by_cases hpair : IsTrailing low
  · rw [if_pos hpair, if_pos hpair, outcome_ok, hc]
    rfl
  · rw [if_neg hpair, if_neg hpair]
    rfl

/-- A leading surrogate with anything else after it. -/
theorem outcome_readCodePoint_of_lone {x₁ x₂ x₃ x₄ : Char} {n : Nat}
    (hn : hexQuad? [x₁, x₂, x₃, x₄] = some n) (htrailing : ¬ IsTrailing n) (hleading : IsLeading n)
    {c : Cursor} {left : List Char} (h : c.rest = [x₁, x₂, x₃, x₄] ++ left)
    (hlone : ¬ ['\\', 'u'] <+: left) : outcome (readCodePoint c) = none := by
  rw [readCodePoint]
  refine outcome_bind_of_some (outcome_readHexQuad hn h) fun c hc => ?_
  change outcome (if IsTrailing n then _ else if IsLeading n then _ else _) = _
  rw [if_neg htrailing, if_pos hleading]
  by_cases hmark : c.rest.head? = some '\\'
  · obtain ⟨more, hmore⟩ := List.head?_eq_some_iff.1 hmark
    refine (reaches_readPairMark hmore).outcome_bind fun c' hc' => ?_
    have hu : c'.rest.head? ≠ some 'u' := by
      intro hu
      obtain ⟨more', hmore'⟩ := List.head?_eq_some_iff.1 hu
      exact hlone ⟨more', by rw [← hc, hmore, ← hc', hmore']; rfl⟩
    obtain ⟨e, he⟩ := readPairMark_eq_error hu
    rw [he]
    rfl
  · obtain ⟨e, he⟩ := readPairMark_eq_error hmark
    rw [he]
    rfl

theorem outcome_readEscape_short {letter meant : Char} (hmeant : shortEscape? letter = some meant)
    {c : Cursor} {left : List Char} (h : c.rest = letter :: left) :
    outcome (readEscape c) = some (meant, left) := by
  simp only [readEscape, h, hmeant, outcome_ok, Cursor.rest_advance, List.tail_cons]

theorem outcome_readEscape_unit {point : Option (Char × List Char)} {c : Cursor}
    {left : List Char} (h : c.rest = 'u' :: left)
    (hpoint : ∀ c : Cursor, c.rest = left → outcome (readCodePoint c) = point) :
    outcome (readEscape c) = point := by
  have hu : shortEscape? 'u' = none := rfl
  simp only [readEscape, h, hu, if_true]
  exact hpoint _ (by rw [Cursor.rest_advance, h, List.tail_cons])

section

variable {fuel : Nat} {c : Cursor} {left after : List Char}

theorem outcome_readCharacters_nil (h : c.rest = '"' :: left) :
    outcome (readCharacters (fuel + 1) c) = some ([], left) := by
  simp only [readCharacters, h, if_true, outcome_ok, Cursor.rest_advance, List.tail_cons]

theorem outcome_readCharacters_plain {ch : Char} (hch : ch ≠ '"' ∧ ch ≠ '\\' ∧ 0x20 ≤ ch.toNat)
    (h : c.rest = ch :: left) {more : Option (List Char)}
    (hmore : ∀ c : Cursor, c.rest = left → outcome (readCharacters fuel c) = more.map (·, after)) :
    outcome (readCharacters (fuel + 1) c) = (more.map (ch :: ·)).map (·, after) := by
  simp only [readCharacters, h, if_neg hch.1, if_neg hch.2.1, if_neg (Nat.not_lt.2 hch.2.2)]
  refine outcome_bind_of_some (outcome_ok ch c.advance) fun c' hc' => ?_
  exact outcome_bind_ok (ch :: ·) (hmore c' (by rw [hc', Cursor.rest_advance, h, List.tail_cons]))

theorem readCharacters_backslash (h : c.rest = '\\' :: left) :
    readCharacters (fuel + 1) c = (do
      let (ch, c) ← readEscape c.advance
      let (more, c) ← readCharacters fuel c
      .ok (ch :: more, c)) := by
  have hquote : '\\' ≠ '"' := by decide
  have hcontrol : ¬ '\\'.toNat < 0x20 := by decide
  simp only [readCharacters, h, if_neg hquote, if_neg hcontrol, if_true]

theorem outcome_readCharacters_escape {left' : List Char} {ch : Char}
    (h : c.rest = '\\' :: left)
    (hescape : ∀ c : Cursor, c.rest = left → outcome (readEscape c) = some (ch, left'))
    {more : Option (List Char)} (hmore : ∀ c : Cursor, c.rest = left' →
      outcome (readCharacters fuel c) = more.map (·, after)) :
    outcome (readCharacters (fuel + 1) c) = (more.map (ch :: ·)).map (·, after) := by
  rw [readCharacters_backslash h]
  refine outcome_bind_of_some (hescape _ ?_) fun c hc => outcome_bind_ok (ch :: ·) (hmore c hc)
  rw [Cursor.rest_advance, h, List.tail_cons]

theorem outcome_readCharacters_eq_none (h : c.rest = '\\' :: left)
    (hescape : ∀ c : Cursor, c.rest = left → outcome (readEscape c) = none) :
    outcome (readCharacters (fuel + 1) c) = none := by
  rw [readCharacters_backslash h]
  exact outcome_bind_of_none (hescape _ (by rw [Cursor.rest_advance, h, List.tail_cons]))

end

/-- Characters that do not begin with a unit do not read as one. -/
theorem not_unit_isPrefix {tokens : List Token}
    (h : ∀ (a b c d : Char) (n : Nat) (hn : hexQuad? [a, b, c, d] = some n) (more : List Token),
      tokens = .unit a b c d n hn :: more → False) (left : List Char) :
    ¬ ['\\', 'u'] <+: tokens.flatMap Token.chars ++ '"' :: left := by
  rintro ⟨more, hmore⟩
  match tokens with
  | [] => exact absurd (List.cons.inj hmore).1 (by decide)
  | .plain ch hch :: _ => exact hch.2.1 (List.cons.inj hmore).1.symm
  | .short letter meant hmeant :: _ =>
    obtain rfl : 'u' = letter := (List.cons.inj (List.cons.inj hmore).2).1
    cases hmeant
  | .unit a b c d n hn :: tokens => exact h a b c d n hn tokens rfl

/-- The characters of a string are read as `decode` tells them. -/
theorem outcome_readCharacters (tokens : List Token) {fuel : Nat} (hfuel : tokens.length ≤ fuel)
    {c : Cursor} {left : List Char} (h : c.rest = tokens.flatMap Token.chars ++ '"' :: left) :
    outcome (readCharacters (fuel + 1) c) = (decode tokens).map (·, left) := by
  -- One unit of fuel is spent on each character, and a pair of surrogates is two tokens.
  fun_induction decode tokens generalizing fuel c with
  | case1 => exact outcome_readCharacters_nil h
  | case2 ch hch tokens ih =>
    obtain ⟨fuel, rfl⟩ := Nat.exists_eq_succ_of_ne_zero (Nat.ne_zero_of_lt hfuel)
    exact outcome_readCharacters_plain hch h fun c hc => ih (Nat.le_of_succ_le_succ hfuel) hc
  | case3 letter ch hch tokens ih =>
    obtain ⟨fuel, rfl⟩ := Nat.exists_eq_succ_of_ne_zero (Nat.ne_zero_of_lt hfuel)
    exact outcome_readCharacters_escape h (fun c hc => outcome_readEscape_short hch hc)
      fun c hc => ih (Nat.le_of_succ_le_succ hfuel) hc
  | case4 x₁ x₂ x₃ x₄ n hn tokens htrailing =>
    refine outcome_readCharacters_eq_none h fun c hc => outcome_readEscape_unit hc fun c hc => ?_
    rw [outcome_readCodePoint hn htrailing.not_isLeading hc, if_pos htrailing]
  | case5 x₁ x₂ x₃ x₄ n hn htrailing hleading y₁ y₂ y₃ y₄ low hlow tokens hpair ih =>
    obtain ⟨fuel, rfl⟩ := Nat.exists_eq_succ_of_ne_zero (Nat.ne_zero_of_lt hfuel)
    refine outcome_readCharacters_escape h
      (fun c hc => outcome_readEscape_unit hc fun c hc => ?_)
      fun c hc => ih (Nat.le_of_succ_le (Nat.le_of_succ_le_succ hfuel)) hc
    exact (outcome_readCodePoint_of_unit hn hlow htrailing hleading hc).trans (if_pos hpair)
  | case6 x₁ x₂ x₃ x₄ n hn htrailing hleading y₁ y₂ y₃ y₄ low hlow tokens hpair =>
    refine outcome_readCharacters_eq_none h fun c hc => outcome_readEscape_unit hc fun c hc => ?_
    rw [outcome_readCodePoint_of_unit hn hlow htrailing hleading hc, if_neg hpair]
  | case7 x₁ x₂ x₃ x₄ n hn tokens htrailing hleading hlone =>
    refine outcome_readCharacters_eq_none h fun c hc => outcome_readEscape_unit hc fun c hc => ?_
    exact outcome_readCodePoint_of_lone hn htrailing hleading hc (not_unit_isPrefix hlone left)
  | case8 x₁ x₂ x₃ x₄ n hn tokens htrailing hleading ih =>
    obtain ⟨fuel, rfl⟩ := Nat.exists_eq_succ_of_ne_zero (Nat.ne_zero_of_lt hfuel)
    refine outcome_readCharacters_escape h
      (fun c hc => outcome_readEscape_unit hc fun c hc => ?_)
      fun c hc => ih (Nat.le_of_succ_le_succ hfuel) hc
    exact (outcome_readCodePoint hn hleading hc).trans (if_neg htrailing)

theorem length_le_flatMap_chars (tokens : List Token) :
    tokens.length ≤ (tokens.flatMap Token.chars).length := by
  induction tokens with
  | nil => exact Nat.le_refl 0
  | cons token tokens ih =>
    have htoken : 0 < token.chars.length := by cases token <;> exact Nat.zero_lt_succ _
    rw [List.flatMap_cons, List.length_append, List.length_cons]
    omega

theorem outcome_readString {tokens : List Token} {c : Cursor} {left : List Char}
    (h : c.rest = quoted tokens ++ left) :
    outcome (readString c) = (decodeText tokens).map (·, left) := by
  have hbody : c.advance.rest = tokens.flatMap Token.chars ++ '"' :: left := by
    rw [Cursor.rest_advance, h, quoted, List.cons_append, List.cons_append, List.tail_cons,
      List.append_assoc]
    rfl
  obtain ⟨fuel, hfuel, hlength⟩ : ∃ fuel, tokens.length ≤ fuel ∧ c.rest.length = fuel + 1 := by
    refine ⟨(tokens.flatMap Token.chars ++ ['"'] ++ left).length, ?_, by rw [h]; rfl⟩
    have hlength := length_le_flatMap_chars tokens
    simp only [List.length_append]
    omega
  rw [readString, hlength]
  exact outcome_bind_ok String.ofList (outcome_readCharacters tokens hfuel hbody)

/-! ### Objects -/

theorem reaches_readColon {c : Cursor} {b left : List Char} (h : c.rest = b ++ ':' :: left)
    (hb : Blank b) : Reaches (readColon c) left := by
  have hc : c.skipBlanks.rest = ':' :: left :=
    Cursor.rest_skipBlanks h hb (fun ch hch => by cases hch; decide)
  refine ⟨c.skipBlanks.advance, ?_, by rw [Cursor.rest_advance, hc, List.tail_cons]⟩
  simp only [readColon, hc]

/-- The closing brace comes next. -/
theorem readKeyStart_close {first : Bool} {c : Cursor} {b left : List Char}
    (h : c.rest = b ++ '\x7d' :: left) (hb : Blank b) :
    readKeyStart first c = .ok none ∧ c.skipBlanks.rest = '\x7d' :: left := by
  have hc : c.skipBlanks.rest = '\x7d' :: left :=
    Cursor.rest_skipBlanks h hb (fun ch hch => by cases hch; decide)
  exact ⟨by simp only [readKeyStart, hc], hc⟩

/-- The first key comes next. -/
theorem readKeyStart_first {c : Cursor} {b left : List Char} (h : c.rest = b ++ '"' :: left)
    (hb : Blank b) : ∃ c', readKeyStart true c = .ok (some c') ∧ c'.rest = '"' :: left := by
  have hc : c.skipBlanks.rest = '"' :: left :=
    Cursor.rest_skipBlanks h hb (fun ch hch => by cases hch; decide)
  exact ⟨c.skipBlanks, by simp only [readKeyStart, hc]; rfl, hc⟩

/-- A comma and another key come next. -/
theorem readKeyStart_next {c : Cursor} {b b' left : List Char}
    (h : c.rest = b ++ ',' :: (b' ++ '"' :: left)) (hb : Blank b) (hb' : Blank b') :
    ∃ c', readKeyStart false c = .ok (some c') ∧ c'.rest = '"' :: left := by
  have hcomma : c.skipBlanks.rest = ',' :: (b' ++ '"' :: left) :=
    Cursor.rest_skipBlanks h hb (fun ch hch => by cases hch; decide)
  have hc : c.skipBlanks.advance.skipBlanks.rest = '"' :: left :=
    Cursor.rest_skipBlanks (by rw [Cursor.rest_advance, hcomma, List.tail_cons]) hb'
      (fun ch hch => by cases hch; decide)
  refine ⟨c.skipBlanks.advance.skipBlanks, ?_, hc⟩
  simp only [readKeyStart, hcomma, hc]
  rfl

/--
What stands before the closing brace while members are left to read: all of them at the start, and
after a member a comma and the others.
-/
inductive Remaining : Bool → List (List Token × Form) → List Char → Prop
  | close {first : Bool} {b : List Char} (hb : Blank b) : Remaining first [] b
  | first {m : List Token × Form} {ms : List (List Token × Form)} {cs : List Char}
    (h : SpellsMembers (m :: ms) cs) : Remaining true (m :: ms) cs
  | next {m : List Token × Form} {ms : List (List Token × Form)} {b cs : List Char}
    (hb : Blank b) (h : SpellsMembers (m :: ms) cs) : Remaining false (m :: ms) (b ++ ',' :: cs)

theorem SpellsMembers.remaining {ms : List (List Token × Form)} {cs : List Char}
    (h : SpellsMembers ms cs) : Remaining true ms cs := by
  cases ms with
  | nil =>
    cases h with
    | none hb => exact .close hb
  | cons m ms => exact .first h

/-- A member stands at the front, and what remains after it. -/
theorem SpellsMembers.exists_member {name : List Token} {v : Form}
    {ms : List (List Token × Form)} {cs : List Char} (h : SpellsMembers ((name, v) :: ms) cs) :
    ∃ before between colon value after, cs = before ++
        (quoted name ++ (between ++ ':' :: (colon ++ (value ++ after)))) ∧
      Blank before ∧ Blank between ∧ Blank colon ∧ Spells v value ∧ Remaining false ms after := by
  cases h with
  | last h =>
    obtain ⟨hbefore, hbetween, hcolon, h, hafter⟩ := h
    exact ⟨_, _, _, _, _, by simp only [List.append_assoc], hbefore, hbetween, hcolon, h,
      .close hafter⟩
  | more h hrest =>
    obtain ⟨hbefore, hbetween, hcolon, h, hafter⟩ := h
    exact ⟨_, _, _, _, _, by simp only [List.append_assoc, List.cons_append], hbefore, hbetween,
      hcolon, h, .next hafter hrest⟩

/-- The key of the next member comes next, and what remains after the member. -/
theorem Remaining.readKeyStart {first : Bool} {name : List Token} {v : Form}
    {ms : List (List Token × Form)} {cs left : List Char} {c : Cursor}
    (h : Remaining first ((name, v) :: ms) cs) (hc : c.rest = cs ++ left) :
    ∃ c', readKeyStart first c = .ok (some c') ∧ ∃ between colon value after,
      c'.rest = quoted name ++ (between ++ ':' :: (colon ++ (value ++ (after ++ left)))) ∧
      Blank between ∧ Blank colon ∧ Spells v value ∧ Remaining false ms after := by
  cases h with
  | first h =>
    obtain ⟨before, between, colon, value, after, rfl, hbefore, hblanks⟩ := h.exists_member
    simp only [List.append_assoc, List.cons_append] at hc
    obtain ⟨c', hread, hc'⟩ := readKeyStart_first hc hbefore
    exact ⟨c', hread, between, colon, value, after, hc', hblanks⟩
  | next hb h =>
    obtain ⟨before, between, colon, value, after, rfl, hbefore, hblanks⟩ := h.exists_member
    simp only [List.append_assoc, List.cons_append] at hc
    obtain ⟨c', hread, hc'⟩ := readKeyStart_next hc hb hbefore
    exact ⟨c', hread, between, colon, value, after, hc', hblanks⟩

/-- A text ends where only blanks are left. -/
theorem readEnd_eq_ok_iff {c : Cursor} : readEnd c = .ok () ↔ Blank c.rest := by
  have hempty : c.skipBlanks.rest.isEmpty ↔ Blank c.rest := by
    rw [Cursor.skipBlanks, Cursor.rest_skipWhile, List.isEmpty_iff, List.dropWhile_eq_nil_iff]
    rfl
  rw [← hempty, readEnd]
  split
  · next h => exact iff_of_true rfl h
  · next h => exact iff_of_false (fun hok => by cases hok) h

end SampleTypes.Json
