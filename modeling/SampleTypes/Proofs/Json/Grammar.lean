import SampleTypes.Json.Literal

/-!
# JSON texts

The texts of JSON values, told by rules and without a reader.  Strings are kept as they are spelled,
numbers as their literals, and objects with all of their members in order, repeated names included.

* `Token` is a character of a string as it is spelled; `decode` tells the characters that a string
  has, which it has none of when half of a surrogate pair stands alone in it;
* `Form` is a value without the blanks in its text, and `Spells` relates it to its texts.
-/

namespace SampleTypes.Json

/-- Only characters that may stand between the parts of a text. -/
def Blank (cs : List Char) : Prop :=
  ∀ c ∈ cs, Cursor.isSeparatingBlank c

instance : DecidablePred Blank :=
  fun cs => List.decidableBAll (Cursor.isSeparatingBlank ·) cs

/-! ### Strings -/

/-- A character inside a string, as it is spelled. -/
inductive Token where
  /-- A character that stands for itself. -/
  | plain (c : Char) (h : c ≠ '"' ∧ c ≠ '\\' ∧ 0x20 ≤ c.toNat)
  /-- A letter or sign after a backslash. -/
  | short (letter meant : Char) (h : shortEscape? letter = some meant)
  /-- A code unit of sixteen bits in four digits. -/
  | unit (a b c d : Char) (value : Nat) (h : hexQuad? [a, b, c, d] = some value)

/-- The characters of a token. -/
def Token.chars : Token → List Char
  | .plain c _ => [c]
  | .short letter _ _ => ['\\', letter]
  | .unit a b c d _ _ => ['\\', 'u', a, b, c, d]

/-- The first code unit of a surrogate pair. -/
def IsLeading (unit : Nat) : Prop :=
  0xD800 ≤ unit ∧ unit ≤ 0xDBFF

/-- The second code unit of a surrogate pair. -/
def IsTrailing (unit : Nat) : Prop :=
  0xDC00 ≤ unit ∧ unit ≤ 0xDFFF

instance : DecidablePred IsLeading :=
  fun _ => inferInstanceAs (Decidable (_ ∧ _))

instance : DecidablePred IsTrailing :=
  fun _ => inferInstanceAs (Decidable (_ ∧ _))

theorem IsTrailing.not_isLeading {unit : Nat} (h : IsTrailing unit) : ¬ IsLeading unit := by
  rintro ⟨-, hle⟩
  exact absurd (Nat.le_trans h.1 hle) (by decide)

/-- The character that a surrogate pair stands for. -/
def paired (leading trailing : Nat) : Char :=
  Char.ofNat ((leading - 0xD800) * 0x400 + (trailing - 0xDC00) + 0x10000)

/-- The characters that are spelled, if surrogates come in pairs. -/
def decode : List Token → Option (List Char)
  | [] => some []
  | .plain c _ :: tokens => (decode tokens).map (c :: ·)
  | .short _ meant _ :: tokens => (decode tokens).map (meant :: ·)
  | .unit _ _ _ _ unit _ :: tokens =>
    if IsTrailing unit then none
    else if IsLeading unit then
      match tokens with
      | .unit _ _ _ _ low _ :: tokens =>
        if IsTrailing low then (decode tokens).map (paired unit low :: ·) else none
      | _ => none
    else (decode tokens).map (Char.ofNat unit :: ·)

/-- A unit that is no surrogate stands for one character. -/
theorem decode_unit {a b c d : Char} {unit : Nat} {h : hexQuad? [a, b, c, d] = some unit}
    (htrailing : ¬ IsTrailing unit) (hleading : ¬ IsLeading unit) (tokens : List Token) :
    decode (.unit a b c d unit h :: tokens) = (decode tokens).map (Char.ofNat unit :: ·) := by
  rw [decode.eq_def]
  simp only [if_neg htrailing, if_neg hleading]

/-- The text that is spelled. -/
def decodeText (tokens : List Token) : Option String :=
  (decode tokens).map String.ofList

/-- A string with its quotes. -/
def quoted (tokens : List Token) : List Char :=
  '"' :: tokens.flatMap Token.chars ++ ['"']

/-! ### Numbers -/

/-- Digits, one at least. -/
def IsDigits (ds : List Char) : Prop :=
  ds ≠ [] ∧ ∀ d ∈ ds, d.isDigit

/-- Nothing, or a point and digits. -/
inductive IsFraction : List Char → Prop
  | none : IsFraction []
  | some {ds : List Char} (h : IsDigits ds) : IsFraction ('.' :: ds)

/-- Nothing, or the letter of exponents, a sign or none, and digits. -/
inductive IsExponent : List Char → Prop
  | none : IsExponent []
  | some {letter : Char} {sign ds : List Char} (hletter : letter = 'e' ∨ letter = 'E')
    (hsign : sign = [] ∨ sign = ['+'] ∨ sign = ['-']) (h : IsDigits ds) :
    IsExponent (letter :: (sign ++ ds))

/-- The literal of a number.  Only a zero that stands alone begins with one. -/
def IsNumber (cs : List Char) : Prop :=
  ∃ sign whole fraction exponent, cs = sign ++ whole ++ fraction ++ exponent ∧
    (sign = [] ∨ sign = ['-']) ∧ IsDigits whole ∧ (whole.head? = some '0' → whole = ['0']) ∧
    IsFraction fraction ∧ IsExponent exponent

/-! ### Values -/

/-- A value as it is spelled, without blanks. -/
inductive Form where
  | null
  | bool (value : Bool)
  | number (literal : List Char)
  | string (tokens : List Token)
  | array (elements : List Form)
  | object (members : List (List Token × Form))

mutual

/-- The characters spell the value. -/
inductive Spells : Form → List Char → Prop
  | null : Spells .null ['n', 'u', 'l', 'l']
  | true : Spells (.bool true) ['t', 'r', 'u', 'e']
  | false : Spells (.bool false) ['f', 'a', 'l', 's', 'e']
  | number {cs : List Char} (h : IsNumber cs) : Spells (.number cs) cs
  | string (tokens : List Token) : Spells (.string tokens) (quoted tokens)
  | array {elements : List Form} {cs : List Char} (h : SpellsElements elements cs) :
    Spells (.array elements) ('[' :: cs ++ [']'])
  | object {members : List (List Token × Form)} {cs : List Char} (h : SpellsMembers members cs) :
    Spells (.object members) ('\x7b' :: cs ++ ['\x7d'])

/-- The characters spell the elements of an array, with commas between them. -/
inductive SpellsElements : List Form → List Char → Prop
  | none {cs : List Char} (h : Blank cs) : SpellsElements [] cs
  | last {v : Form} {before cs after : List Char} (hbefore : Blank before) (h : Spells v cs)
    (hafter : Blank after) : SpellsElements [v] (before ++ cs ++ after)
  | more {v w : Form} {vs : List Form} {before cs after rest : List Char}
    (hbefore : Blank before) (h : Spells v cs) (hafter : Blank after)
    (hrest : SpellsElements (w :: vs) rest) :
    SpellsElements (v :: w :: vs) (before ++ cs ++ after ++ ',' :: rest)

/-- The characters spell the members of an object, with commas between them. -/
inductive SpellsMembers : List (List Token × Form) → List Char → Prop
  | none {cs : List Char} (h : Blank cs) : SpellsMembers [] cs
  | last {m : List Token × Form} {cs : List Char} (h : SpellsMember m cs) : SpellsMembers [m] cs
  | more {m n : List Token × Form} {ms : List (List Token × Form)} {cs rest : List Char}
    (h : SpellsMember m cs) (hrest : SpellsMembers (n :: ms) rest) :
    SpellsMembers (m :: n :: ms) (cs ++ ',' :: rest)

/-- The characters spell a member: its name, a colon, and its value. -/
inductive SpellsMember : List Token × Form → List Char → Prop
  | mk {name : List Token} {v : Form} {before between colon cs after : List Char}
    (hbefore : Blank before) (hbetween : Blank between) (hcolon : Blank colon) (h : Spells v cs)
    (hafter : Blank after) :
    SpellsMember (name, v) (before ++ quoted name ++ between ++ ':' :: (colon ++ cs ++ after))

end

/-! ### First characters -/

/-- The value can begin with the character. -/
def Form.Opens : Form → Char → Prop
  | .null, c => c = 'n'
  | .bool true, c => c = 't'
  | .bool false, c => c = 'f'
  | .number _, c => c = '-' ∨ c.isDigit
  | .string _, c => c = '"'
  | .array _, c => c = '['
  | .object _, c => c = '\x7b'

theorem IsNumber.exists_cons {cs : List Char} (h : IsNumber cs) :
    ∃ c rest, cs = c :: rest ∧ (c = '-' ∨ c.isDigit) := by
  obtain ⟨sign, whole, fraction, exponent, rfl, hsign, ⟨hne, hdigits⟩, -, -, -⟩ := h
  rcases hsign with rfl | rfl
  · obtain ⟨d, ds, rfl⟩ := List.exists_cons_of_ne_nil hne
    exact ⟨d, ds ++ fraction ++ exponent, rfl, .inr (hdigits d List.mem_cons_self)⟩
  · exact ⟨'-', whole ++ fraction ++ exponent, rfl, .inl rfl⟩

/-- The text of a value begins with a character that tells its kind. -/
theorem Spells.exists_cons {v : Form} {cs : List Char} (h : Spells v cs) :
    ∃ c rest, cs = c :: rest ∧ v.Opens c := by
  cases h with
  | null | true | false => exact ⟨_, _, rfl, rfl⟩
  | number h => exact h.exists_cons
  | string tokens => exact ⟨_, _, rfl, rfl⟩
  | array h | object h => exact ⟨_, _, rfl, rfl⟩

theorem Form.Opens.not_blank {v : Form} {c : Char} (h : v.Opens c) :
    ¬ Cursor.isSeparatingBlank c := by
  have hdigit : ∀ b, Cursor.isSeparatingBlank b → b ≠ '-' ∧ ¬ b.isDigit := by
    intro b hb
    simp only [Cursor.isSeparatingBlank, Bool.or_eq_true, beq_iff_eq] at hb
    rcases hb with ((rfl | rfl) | rfl) | rfl <;> decide
  cases v with
  | null | string | array | object =>
    rw [Opens] at h
    subst h
    decide
  | bool value =>
    cases value <;> rw [Opens] at h <;> subst h <;> decide
  | number literal =>
    intro hblank
    rcases h with rfl | h
    · exact (hdigit _ hblank).1 rfl
    · exact (hdigit c hblank).2 h

/-- The first character tells the kind of a value. -/
theorem Form.Opens.kind {v : Form} {c : Char} (h : v.Opens c) :
    (c = 'n' ↔ v = .null) ∧ (c = 't' ↔ v = .bool true) ∧ (c = 'f' ↔ v = .bool false) ∧
      (c = '"' ↔ ∃ tokens, v = .string tokens) ∧ (c = '\x7b' ↔ ∃ members, v = .object members) := by
  cases v with
  | null | string | array | object =>
    rw [Opens] at h
    subst h
    simp
  | bool value => cases value <;> rw [Opens] at h <;> subst h <;> simp
  | number literal =>
    have hne : ∀ letter, letter ≠ '-' → ¬ letter.isDigit → c ≠ letter := by
      rintro letter hsign hdigit rfl
      exact h.elim hsign hdigit
    have hn := hne 'n' (by decide) (by decide)
    have ht := hne 't' (by decide) (by decide)
    have hf := hne 'f' (by decide) (by decide)
    have hquote := hne '"' (by decide) (by decide)
    have hbrace := hne '\x7b' (by decide) (by decide)
    simp [hn, ht, hf, hquote, hbrace]

/-- There are no more members than characters. -/
theorem SpellsMembers.length_le {ms : List (List Token × Form)} {cs : List Char}
    (h : SpellsMembers ms cs) : ms.length ≤ cs.length := by
  have hmember : ∀ {m cs}, SpellsMember m cs → 0 < cs.length := by
    rintro m cs ⟨⟩
    simp only [List.length_append, List.length_cons]
    omega
  induction ms generalizing cs with
  | nil => simp
  | cons m ms ih =>
    cases h with
    | last h => exact hmember h
    | more h hrest =>
      have hlength := ih hrest
      simp only [List.length_cons, List.length_append] at hlength ⊢
      omega

end SampleTypes.Json
