import Mathlib.Data.List.Basic
import SampleTypes.Json.Literal
import SampleTypes.Proofs.Ident.Characters
import SampleTypes.Target.CSharp
import SampleTypes.Target.Rust

/-!
# String literals

How string literals are read: up to the closing quote every character stands for itself, or a
backslash begins an escape that stands for one.  What may stand for itself, and what an escape looks
like, is the `LiteralSyntax` of a language.

* `LiteralSyntax.readOn_flatMap`: a text whose characters are all spelled in a literal is read back
  from it;
* `CSharp.read_stringLiteral`: the literals that are written for C# are read back, all but those
  with a separator of lines or paragraphs in them, which are none;
* `Rust.read_quoted`: quoted text is a literal of Rust, and read back.
-/

namespace SampleTypes.Target

/-- What one more character makes of an escape. -/
inductive Progress (Escape : Type) where
  | more (escape : Escape)
  /-- The escape ends with the character. -/
  | ends (meant : Char)
  /-- The escape ended before the character. -/
  | ended (meant : Char)
deriving DecidableEq

/-- What may stand in the string literals of a language. -/
structure LiteralSyntax where
  /-- An escape after some of its characters. -/
  Escape : Type
  /-- An escape after its backslash. -/
  opened : Escape
  next : Escape → Char → Option (Progress Escape)
  /-- What may stand for itself, apart from the quote and the backslash. -/
  isRaw : Char → Bool

/-- Where the reader of a literal is. -/
inductive Position (Escape : Type) where
  | inside
  | escape (e : Escape)
  | closed
deriving DecidableEq

/-- The result with the characters before its own. -/
def precede {α : Type} (meant : List Char) (r : List Char × α) : List Char × α :=
  (meant ++ r.1, r.2)

theorem map_precede_nil {α : Type} (r? : Option (List Char × α)) :
    r?.map (precede []) = r? := by
  cases r? <;> rfl

theorem map_precede_precede {α : Type} (first second : List Char) (r? : Option (List Char × α)) :
    (r?.map (precede second)).map (precede first) = r?.map (precede (first ++ second)) := by
  cases r? with
  | none => rfl
  | some r => simp [precede]

namespace LiteralSyntax

variable (σ : LiteralSyntax)

/-- Reads a character outside of escapes: what it stands for, and where the reader is then. -/
def enter (c : Char) : Option (List Char × Position σ.Escape) :=
  if c = '"' then some ([], .closed)
  else if c = '\\' then some ([], .escape σ.opened)
  else if σ.isRaw c then some ([c], .inside)
  else none

/-- Reads a character. -/
def step : Position σ.Escape → Char → Option (List Char × Position σ.Escape)
  | .inside, c => σ.enter c
  | .escape e, c =>
    match σ.next e c with
    | none => none
    | some (.more e) => some ([], .escape e)
    | some (.ends meant) => some ([meant], .inside)
    | some (.ended meant) => (σ.enter c).map (precede [meant])
  | .closed, _ => none

/-- Reads several characters. -/
def run : Position σ.Escape → List Char → Option (List Char × Position σ.Escape)
  | p, [] => some ([], p)
  | p, c :: cs => (σ.step p c).bind fun r => (run r.2 cs).map (precede r.1)

/-- Reads up to the closing quote: what the characters stand for, and what is after the quote. -/
def readOn : Position σ.Escape → List Char → Option (List Char × List Char)
  | .closed, cs => some ([], cs)
  | .inside, [] => none
  | .escape _, [] => none
  | .inside, c :: cs => (σ.enter c).bind fun r => (readOn r.2 cs).map (precede r.1)
  | .escape e, c :: cs =>
    (σ.step (.escape e) c).bind fun r => (readOn r.2 cs).map (precede r.1)

/-- Reads the literal that a text begins with: what it stands for, and what is after it. -/
def read (cs : List Char) : Option (String × List Char) :=
  if cs.head? = some '"' then (σ.readOn .inside cs.tail).map (Prod.map String.ofList id) else none

/-- The characters are read as one, wherever they stand outside of escapes. -/
def Spells (cs : List Char) (c : Char) : Prop :=
  σ.run .inside cs = some ([c], .inside)

variable {σ}

theorem readOn_cons (p : Position σ.Escape) (c : Char) (cs : List Char) (h : p ≠ .closed) :
    σ.readOn p (c :: cs)
      = (σ.step p c).bind fun r => (σ.readOn r.2 cs).map (precede r.1) := by
  cases p with
  | closed => exact absurd rfl h
  | inside => rw [readOn, step]
  | escape e => rw [readOn]

theorem run_more {e next : σ.Escape} {c : Char} (h : σ.next e c = some (.more next)) :
    σ.run (.escape e) [c] = some ([], .escape next) := by
  simp only [run, step, h, Option.bind_some, Option.map_some]
  rfl

theorem run_ends {e : σ.Escape} {c meant : Char} (h : σ.next e c = some (.ends meant)) :
    σ.run (.escape e) [c] = some ([meant], .inside) := by
  simp only [run, step, h, Option.bind_some, Option.map_some]
  rfl

/-- A character that may stand for itself is spelled by itself. -/
theorem spells_self {c : Char} (hquote : c ≠ '"') (hslash : c ≠ '\\') (hraw : σ.isRaw c) :
    σ.Spells [c] c := by
  rw [Spells, run, step, enter, if_neg hquote, if_neg hslash, if_pos hraw]
  rfl

/-- Nothing is read after the closing quote. -/
theorem run_closed {cs : List Char} {r : List Char × Position σ.Escape}
    (h : σ.run .closed cs = some r) : cs = [] := by
  cases cs with
  | nil => rfl
  | cons c cs =>
    rw [run, step, Option.bind_none] at h
    cases h

/-- What is read of several characters is read of them in a longer text. -/
theorem readOn_append {p q : Position σ.Escape} {cs meant : List Char}
    (h : σ.run p cs = some (meant, q)) (rest : List Char) :
    σ.readOn p (cs ++ rest) = (σ.readOn q rest).map (precede meant) := by
  induction cs generalizing p meant with
  | nil =>
    rw [run] at h
    cases h
    rw [map_precede_nil, List.nil_append]
  | cons c cs ih =>
    have hopen : p ≠ .closed := by
      rintro rfl
      cases run_closed h
    rw [run, Option.bind_eq_some_iff] at h
    obtain ⟨⟨first, next⟩, hstep, h⟩ := h
    obtain ⟨⟨more, last⟩, hrun, h⟩ := Option.map_eq_some_iff.1 h
    cases h
    rw [List.cons_append, readOn_cons p c _ hopen, hstep, Option.bind_some, ih hrun,
      map_precede_precede]

theorem run_append {p q : Position σ.Escape} {cs meant : List Char}
    (h : σ.run p cs = some (meant, q)) (more : List Char) :
    σ.run p (cs ++ more) = (σ.run q more).map (precede meant) := by
  induction cs generalizing p meant with
  | nil =>
    rw [run] at h
    cases h
    rw [map_precede_nil, List.nil_append]
  | cons c cs ih =>
    rw [run, Option.bind_eq_some_iff] at h
    obtain ⟨⟨first, next⟩, hstep, h⟩ := h
    obtain ⟨⟨others, last⟩, hrun, h⟩ := Option.map_eq_some_iff.1 h
    cases h
    rw [List.cons_append, run, hstep, Option.bind_some, ih hrun,
      map_precede_precede]

/-- **A text is read back** when each of its characters is spelled. -/
theorem readOn_flatMap {spelling : Char → List Char} {cs : List Char}
    (h : ∀ c ∈ cs, σ.Spells (spelling c) c) (rest : List Char) :
    σ.readOn .inside (cs.flatMap spelling ++ rest)
      = (σ.readOn .inside rest).map (precede cs) := by
  induction cs with
  | nil => rw [List.flatMap_nil, List.nil_append, map_precede_nil]
  | cons c cs ih =>
    rw [List.forall_mem_cons] at h
    rw [List.flatMap_cons, List.append_assoc, readOn_append h.1, ih h.2, map_precede_precede]
    rfl

theorem readOn_quote (rest : List Char) : σ.readOn .inside ('"' :: rest) = some ([], rest) := by
  rw [readOn, enter, if_pos rfl, Option.bind_some, readOn, Option.map_some]
  rfl

/-- A text in quotes whose characters are spelled is a literal, and read back. -/
theorem read_spelled {spelling : Char → List Char} {s : String}
    (h : ∀ c ∈ s.toList, σ.Spells (spelling c) c) (rest : List Char) :
    σ.read ('"' :: s.toList.flatMap spelling ++ '"' :: rest) = some (s, rest) := by
  rw [read, List.cons_append, List.head?_cons, if_pos rfl, List.tail_cons, readOn_flatMap h,
    readOn_quote]
  simp [precede]

/-- A text with a character that may not stand for itself, but does, is not read. -/
theorem readOn_flatMap_eq_none {spelling : Char → List Char} {refused : Char → Prop}
    {cs : List Char} (hspelled : ∀ c ∈ cs, ¬ refused c → σ.Spells (spelling c) c)
    (hrefused : ∀ c, refused c → spelling c = [c] ∧ σ.enter c = none)
    (h : ∃ c ∈ cs, refused c) (rest : List Char) :
    σ.readOn .inside (cs.flatMap spelling ++ rest) = none := by
  induction cs with
  | nil =>
    obtain ⟨c, hc, -⟩ := h
    cases hc
  | cons c cs ih =>
    rw [List.forall_mem_cons] at hspelled
    rw [List.flatMap_cons, List.append_assoc]
    by_cases hc : refused c
    · obtain ⟨hself, henter⟩ := hrefused c hc
      rw [hself, List.singleton_append, readOn, henter, Option.bind_none]
    · have hmore : ∃ c ∈ cs, refused c := by
        obtain ⟨e, he, hre⟩ := h
        rcases List.mem_cons.1 he with rfl | he
        · exact absurd hre hc
        · exact ⟨e, he, hre⟩
      rw [readOn_append (hspelled.1 hc), ih hspelled.2 hmore, Option.map_none]

end LiteralSyntax

/-- The character with a code point. -/
def scalar? (n : Nat) : Option Char :=
  if n.isValidChar then some (Char.ofNat n) else none

theorem scalar?_toNat (c : Char) : scalar? c.toNat = some c := by
  have hvalid : c.toNat.isValidChar := c.valid
  rw [scalar?, if_pos hvalid, Char.ofNat_toNat]

/-! ### Characters of texts -/

/-- What can be tested is tested character by character of a list. -/
theorem forall_mem_of_all {P : Char → Prop} [DecidablePred P] {cs : List Char}
    (h : cs.all fun c => P c) : ∀ c ∈ cs, P c :=
  fun c hc => of_decide_eq_true (List.all_eq_true.1 h c hc)

theorem notMem_of_identText {s : String} (h : Text.IdentText s) {c : Char}
    (hc : ¬ Text.IdentChar c) : c ∉ s.toList :=
  fun hmem => hc (h c hmem)

theorem forall_bne_of_notMem {cs : List Char} {c : Char} (h : c ∉ cs) :
    ∀ d ∈ cs, (d != c) = true := by
  intro d hd
  rw [bne_iff_ne]
  rintro rfl
  exact h hd

theorem dropWhile_indent (level width : Nat) {rest : List Char} (h : rest.head? ≠ some ' ') :
    ((indent level width).toList ++ rest).dropWhile (· == ' ') = rest := by
  have hblanks : ∀ c ∈ (indent level width).toList, (c == ' ') = true := by
    rw [indent, String.toList_ofList]
    intro c hc
    rw [List.eq_of_mem_replicate hc]
    rfl
  rw [List.dropWhile_append_of_pos hblanks]
  cases rest with
  | nil => rfl
  | cons c cs =>
    rw [List.head?_cons, Ne, Option.some.injEq] at h
    rw [List.dropWhile_cons_of_neg (by simpa using h)]

/-- Nothing is taken from a text that begins with another character. -/
theorem dropPrefix?_eq_none {opening cs : List Char} {c : Char} (hc : opening.head? = some c)
    (h : cs.head? ≠ some c) : cs.dropPrefix? opening = none := by
  rw [Option.eq_none_iff_forall_ne_some]
  intro rest hsome
  obtain ⟨start, hcs, hsame⟩ := List.dropPrefix?_eq_some_iff.1 hsome
  rw [eq_of_beq hsame] at hcs
  rw [hcs, List.head?_append, hc] at h
  exact h rfl

/-! ### C# -/

namespace CSharp

/-- An escape after some of its characters. -/
inductive Escape where
  | opened
  /-- Some of the digits that there must be are still to come. -/
  | exactly (left value : Nat)
  /-- The first of one to four digits is still to come. -/
  | first
  /-- More digits may come. -/
  | upTo (left value : Nat)
deriving DecidableEq

/-- What a letter, a digit or a sign stands for after a backslash. -/
def simpleEscape? (c : Char) : Option Char :=
  [('\x27', '\x27'), ('"', '"'), ('\\', '\\'), ('0', '\x00'), ('a', '\x07'), ('b', '\x08'),
    ('f', '\x0c'), ('n', '\n'), ('r', '\r'), ('t', '\t'), ('v', '\x0b')].lookup c

/-- The next character of an escape. -/
def Escape.next : Escape → Char → Option (Progress Escape)
  | .opened, c =>
    match simpleEscape? c with
    | some meant => some (.ends meant)
    | none =>
      if c = 'u' then some (.more (.exactly 4 0))
      else if c = 'U' then some (.more (.exactly 8 0))
      else if c = 'x' then some (.more .first)
      else none
  | .exactly left value, c =>
    (Json.hexDigit? c).bind fun digit =>
      if left ≤ 1 then (scalar? (value * 16 + digit)).map .ends
      else some (.more (.exactly (left - 1) (value * 16 + digit)))
  | .first, c => (Json.hexDigit? c).map fun digit => .more (.upTo 3 digit)
  | .upTo left value, c =>
    match Json.hexDigit? c with
    | none => (scalar? value).map .ended
    | some digit =>
      if left ≤ 1 then (scalar? (value * 16 + digit)).map .ends
      else some (.more (.upTo (left - 1) (value * 16 + digit)))

/-- What ends a line. -/
def newLineChars : List Char :=
  ['\n', '\r', '\u0085', '\u2028', '\u2029']

/-- Regular string literals, which end on the line on which they begin. -/
def literalSyntax : LiteralSyntax where
  Escape := Escape
  opened := .opened
  next := Escape.next
  isRaw c := !newLineChars.contains c

instance : DecidableEq literalSyntax.Escape :=
  inferInstanceAs (DecidableEq Escape)

/-- The separators of lines and of paragraphs. -/
def separators : List Char :=
  ['\u2028', '\u2029']

/-- A separator stands in the text. -/
def hasSeparator (s : String) : Bool :=
  s.toList.any separators.contains

theorem hasSeparator_iff {s : String} : hasSeparator s ↔ ∃ c ∈ s.toList, c ∈ separators := by
  simp [hasSeparator]

theorem spells_literalChar_of_lt : ∀ n < 0xA0,
    literalSyntax.run .inside (literalChar (Char.ofNat n)) = some ([Char.ofNat n], .inside) := by
  decide +kernel

/-- From the first printed character behind ASCII on, characters stand for themselves. -/
theorem literalChar_of_le {c : Char} (h : 0xA0 ≤ c.toNat) : literalChar c = [c] := by
  have hne : ∀ e : Char, e.toNat < 0xA0 → c ≠ e := by
    rintro e he rfl
    omega
  have hcontrol : ¬ isControl c := by
    simp only [isControl, Bool.or_eq_true, Bool.and_eq_true, decide_eq_true_eq]
    omega
  rw [literalChar, if_neg (hne _ (by decide)), if_neg (hne _ (by decide)),
    if_neg (hne _ (by decide)), if_neg (hne _ (by decide)), if_neg (hne _ (by decide)),
    if_neg (hne _ (by decide)), if_neg hcontrol]

/-- Every character is spelled, but for the separators. -/
theorem spells_literalChar {c : Char} (h : c ∉ separators) :
    literalSyntax.Spells (literalChar c) c := by
  rcases Nat.lt_or_ge c.toNat 0xA0 with hlow | hhigh
  · have hspells := spells_literalChar_of_lt c.toNat hlow
    rwa [Char.ofNat_toNat] at hspells
  · have hne : ∀ e : Char, e.toNat < 0xA0 → c ≠ e := by
      rintro e he rfl
      omega
    have hraw : literalSyntax.isRaw c := by
      have hlines : ∀ e ∈ newLineChars, e ∈ separators ∨ e.toNat < 0xA0 :=
        forall_mem_of_all (by decide)
      suffices hline : c ∉ newLineChars by simpa [literalSyntax] using hline
      intro hline
      rcases hlines c hline with hsep | hlow
      · exact h hsep
      · exact hne c hlow rfl
    rw [literalChar_of_le hhigh]
    exact LiteralSyntax.spells_self (hne _ (by decide)) (hne _ (by decide)) hraw

theorem refuses_separator : ∀ c, c ∈ separators →
    literalChar c = [c] ∧ literalSyntax.enter c = none :=
  forall_mem_of_all (by decide)

/-- **A string literal is read back**, unless a separator stands in it, which may not. -/
theorem read_stringLiteral (s : String) (rest : List Char) :
    literalSyntax.read ((stringLiteral s).toList ++ rest)
      = if hasSeparator s then none else some (s, rest) := by
  have hquotes : (stringLiteral s).toList ++ rest
      = '"' :: (s.toList.flatMap literalChar ++ '"' :: rest) := by
    rw [stringLiteral, String.toList_ofList, List.cons_append, List.cons_append, List.append_assoc]
    rfl
  rw [hquotes]
  split
  · rename_i hseparator
    rw [LiteralSyntax.read, List.head?_cons, if_pos rfl, List.tail_cons,
      LiteralSyntax.readOn_flatMap_eq_none (fun c _ => spells_literalChar) refuses_separator
        (hasSeparator_iff.1 hseparator), Option.map_none]
  · rename_i hnone
    refine LiteralSyntax.read_spelled (fun c hc => spells_literalChar fun hsep => ?_) rest
    exact hnone (hasSeparator_iff.2 ⟨c, hc, hsep⟩)

end CSharp

/-! ### Rust -/

namespace Rust

/-- An escape after some of its characters. -/
inductive Escape where
  | opened
  /-- Both digits of an escape for an ASCII character are still to come. -/
  | high
  | low (value : Nat)
  /-- The brace is still to come. -/
  | brace
  /-- Between the braces, after some digits. -/
  | digits (count value : Nat)
deriving DecidableEq

/-- What a letter, a digit or a sign stands for after a backslash. -/
def simpleEscape? (c : Char) : Option Char :=
  [('\x27', '\x27'), ('"', '"'), ('\\', '\\'), ('0', '\x00'), ('n', '\n'), ('r', '\r'),
    ('t', '\t')].lookup c

/-- The next character of an escape. -/
def Escape.next : Escape → Char → Option (Progress Escape)
  | .opened, c =>
    match simpleEscape? c with
    | some meant => some (.ends meant)
    | none =>
      if c = 'x' then some (.more .high)
      else if c = 'u' then some (.more .brace)
      else none
  | .high, c =>
    (Json.hexDigit? c).bind fun digit => if digit < 8 then some (.more (.low digit)) else none
  | .low value, c =>
    (Json.hexDigit? c).bind fun digit => (scalar? (value * 16 + digit)).map .ends
  | .brace, c => if c = '\x7b' then some (.more (.digits 0 0)) else none
  | .digits count value, c =>
    if c = '\x7d' ∧ 0 < count then (scalar? value).map .ends
    else if c = '_' ∧ 0 < count then some (.more (.digits count value))
    else (Json.hexDigit? c).bind fun digit =>
      if count < 6 then some (.more (.digits (count + 1) (value * 16 + digit))) else none

/-- String literals on one line. -/
def literalSyntax : LiteralSyntax where
  Escape := Escape
  opened := .opened
  next := Escape.next
  isRaw c := c != '\n' && c != '\r'

instance : DecidableEq literalSyntax.Escape :=
  inferInstanceAs (DecidableEq Escape)

theorem hexDigit?_digitChar : ∀ n < 16, Json.hexDigit? (Nat.digitChar n) = some n := by
  decide

theorem run_digit {n count value : Nat} (hn : n < 16) (hcount : count < 6) :
    literalSyntax.run (.escape (Escape.digits count value)) [Nat.digitChar n]
      = some ([], .escape (Escape.digits (count + 1) (value * 16 + n))) := by
  have hsigns : ∀ n < 16, Nat.digitChar n ≠ '\x7d' ∧ Nat.digitChar n ≠ '_' := by decide
  have hnext : literalSyntax.next (Escape.digits count value) (Nat.digitChar n)
      = some (.more (Escape.digits (count + 1) (value * 16 + n))) := by
    show Escape.next (.digits count value) (Nat.digitChar n) = _
    rw [Escape.next, if_neg fun h => (hsigns n hn).1 h.1, if_neg fun h => (hsigns n hn).2 h.1,
      hexDigit?_digitChar n hn, Option.bind_some, if_pos hcount]
    rfl
  exact LiteralSyntax.run_more hnext

/-- At most six digits between the braces are read as the number they were made of. -/
theorem run_hexDigits (n : Nat) : (Text.hexDigits n).length ≤ 6 →
    literalSyntax.run (.escape (Escape.digits 0 0)) (Text.hexDigits n)
      = some ([], .escape (Escape.digits (Text.hexDigits n).length n)) := by
  unfold Text.hexDigits
  induction n using Nat.base_induction 16 (by decide) with
  | single m hm =>
    intro _
    rw [Nat.toDigits_of_lt_base hm, run_digit hm (by decide), Nat.zero_mul, Nat.zero_add m]
    rfl
  | digit m k hk hm ih =>
    intro hlength
    rw [← Nat.toDigits_append_toDigits (by decide) hm hk, Nat.toDigits_of_lt_base hk,
      List.length_append, List.length_singleton] at hlength ⊢
    rw [LiteralSyntax.run_append (ih (by omega)), run_digit hk (by omega), Nat.mul_comm m]
    rfl

theorem length_hexDigits_le (c : Char) : (Text.hexDigits c.toNat).length ≤ 6 := by
  have hlt : c.toNat < 0x110000 := by
    rcases c.valid with hlow | ⟨-, hhigh⟩
    · exact Nat.lt_trans hlow (by decide)
    · exact hhigh
  rw [Text.hexDigits, Nat.length_toDigits_le_iff (by decide) (by decide)]
  exact Nat.lt_trans hlt (by decide)

/-- A code point in braces is read as its character. -/
theorem spells_codePoint (c : Char) :
    literalSyntax.Spells ('\\' :: 'u' :: '\x7b' :: Text.hexDigits c.toNat ++ ['\x7d']) c := by
  have hopen : literalSyntax.run .inside ['\\', 'u', '\x7b']
      = some ([], .escape (Escape.digits 0 0)) := by decide
  have hdigits := run_hexDigits c.toNat (length_hexDigits_le c)
  have hend : literalSyntax.next (Escape.digits (Text.hexDigits c.toNat).length c.toNat) '\x7d'
      = some (.ends c) := by
    have hsome : 0 < (Text.hexDigits c.toNat).length := Nat.length_toDigits_pos
    show Escape.next (.digits _ c.toNat) '\x7d' = _
    rw [Escape.next, if_pos ⟨rfl, hsome⟩, scalar?_toNat]
    rfl
  have hbraces := LiteralSyntax.run_append hdigits ['\x7d']
  rw [LiteralSyntax.run_ends hend] at hbraces
  have hall := LiteralSyntax.run_append hopen (Text.hexDigits c.toNat ++ ['\x7d'])
  rw [hbraces] at hall
  exact hall

/-- The characters that have an escape of their own. -/
def escapedShort : List Char :=
  ['"', '\\', '\x00', '\t', '\r', '\n']

theorem spells_escapedShort : ∀ c ∈ escapedShort,
    literalSyntax.run .inside (Text.escape c) = some ([c], .inside) :=
  forall_mem_of_all (by decide)

/-- Every character is spelled. -/
theorem spells_escape (c : Char) : literalSyntax.Spells (Text.escape c) c := by
  by_cases hshort : c ∈ escapedShort
  · exact spells_escapedShort c hshort
  · simp only [escapedShort, List.mem_cons, List.not_mem_nil, or_false, not_or] at hshort
    obtain ⟨hquote, hslash, hzero, htab, hreturn, hline⟩ := hshort
    rw [Text.escape, if_neg hquote, if_neg hslash, if_neg hzero, if_neg htab, if_neg hreturn,
      if_neg hline]
    split
    · have hraw : literalSyntax.isRaw c := by
        simp [literalSyntax, hline, hreturn]
      exact LiteralSyntax.spells_self hquote hslash hraw
    · exact spells_codePoint c

/-- **Quoted text is read back.** -/
theorem read_quoted (s : String) (rest : List Char) :
    literalSyntax.read ((Text.quoted s).toList ++ rest) = some (s, rest) := by
  have hquotes : (Text.quoted s).toList ++ rest
      = '"' :: (s.toList.flatMap Text.escape ++ '"' :: rest) := by
    rw [Text.quoted, String.toList_ofList, List.cons_append, List.cons_append, List.append_assoc]
    rfl
  rw [hquotes]
  exact LiteralSyntax.read_spelled (fun c _ => spells_escape c) rest

end Rust

end SampleTypes.Target
