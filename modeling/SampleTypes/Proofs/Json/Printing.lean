import SampleTypes.Json.Printer
import SampleTypes.Proofs.Json.Grammar

/-!
# Printed texts

What the printer writes is spelled by the rules of `Spells`: a string in such a way that its
characters are told again, and members between commas.
-/

namespace SampleTypes.Json

/-! ### Strings -/

/-- The four digits of a control character. -/
theorem digits_of_control : ∀ n < 0x20,
    List.replicate (4 - (Nat.toDigits 16 n).length) '0' ++ Nat.toDigits 16 n =
        ['0', '0', Nat.digitChar (n / 16), Nat.digitChar (n % 16)] ∧
      hexQuad? ['0', '0', Nat.digitChar (n / 16), Nat.digitChar (n % 16)] = some n := by
  decide

/-- A printed character is a token that stands for the character. -/
theorem exists_token_printChar (c : Char) :
    ∃ token : Token, token.chars = printChar c ∧
      ∀ tokens, decode (token :: tokens) = (decode tokens).map (c :: ·) := by
  unfold printChar
  split
  · next h => exact ⟨.short '"' '"' rfl, rfl, fun _ => by rw [h]; rfl⟩
  split
  · next h => exact ⟨.short '\\' '\\' rfl, rfl, fun _ => by rw [h]; rfl⟩
  split
  · next h => exact ⟨.short 'b' '\x08' rfl, rfl, fun _ => by rw [h]; rfl⟩
  split
  · next h => exact ⟨.short 'f' '\x0c' rfl, rfl, fun _ => by rw [h]; rfl⟩
  split
  · next h => exact ⟨.short 'n' '\n' rfl, rfl, fun _ => by rw [h]; rfl⟩
  split
  · next h => exact ⟨.short 'r' '\r' rfl, rfl, fun _ => by rw [h]; rfl⟩
  split
  · next h => exact ⟨.short 't' '\t' rfl, rfl, fun _ => by rw [h]; rfl⟩
  split
  · next hcontrol =>
    obtain ⟨hdigits, hquad⟩ := digits_of_control c.toNat hcontrol
    have htrailing : ¬ IsTrailing c.toNat := fun h => by have := h.1; omega
    have hleading : ¬ IsLeading c.toNat := fun h => by have := h.1; omega
    refine ⟨.unit _ _ _ _ _ hquad, ?_, fun tokens => ?_⟩
    · simp only [List.cons_append, hdigits, Token.chars]
    · rw [decode_unit htrailing hleading, Char.ofNat_toNat]
  · next hquote hbackslash _ _ _ _ _ hcontrol =>
    exact ⟨.plain c ⟨hquote, hbackslash, Nat.not_lt.1 hcontrol⟩, rfl, fun _ => rfl⟩

/-- A printed string is spelled by tokens that stand for its characters. -/
theorem exists_tokens_printString (s : String) :
    ∃ tokens, (printString s).toList = quoted tokens ∧ decodeText tokens = some s := by
  have hchars : ∀ cs : List Char, ∃ tokens : List Token,
      tokens.flatMap Token.chars = cs.flatMap printChar ∧ decode tokens = some cs := by
    intro cs
    induction cs with
    | nil => exact ⟨[], rfl, rfl⟩
    | cons c cs ih =>
      obtain ⟨token, htoken, hdecode⟩ := exists_token_printChar c
      obtain ⟨tokens, htokens, hcs⟩ := ih
      refine ⟨token :: tokens, ?_, by rw [hdecode, hcs]; rfl⟩
      rw [List.flatMap_cons, List.flatMap_cons, htoken, htokens]
  obtain ⟨tokens, htokens, hdecode⟩ := hchars s.toList
  refine ⟨tokens, ?_, ?_⟩
  · rw [printString, String.toList_ofList, quoted, htokens]
  · rw [decodeText, hdecode, Option.map_some, String.ofList_toList]

/-! ### Members -/

theorem SpellsMember.append_blank {m : List Token × Form} {cs b : List Char}
    (h : SpellsMember m cs) (hb : Blank b) : SpellsMember m (cs ++ b) := by
  cases h with
  | @mk name v before between colon cs after hbefore hbetween hcolon h hafter =>
    have hmember := @SpellsMember.mk name v before between colon cs (after ++ b) hbefore hbetween
      hcolon h (List.forall_mem_append.2 ⟨hafter, hb⟩)
    simpa only [List.append_assoc, List.cons_append] using hmember

/-- Blanks may stand after the last member. -/
theorem SpellsMembers.append_blank {ms : List (List Token × Form)} {cs b : List Char}
    (h : SpellsMembers ms cs) (hb : Blank b) : SpellsMembers ms (cs ++ b) := by
  induction ms generalizing cs with
  | nil =>
    cases h with
    | none h => exact .none (List.forall_mem_append.2 ⟨h, hb⟩)
  | cons m ms ih =>
    cases h with
    | last h => exact .last (h.append_blank hb)
    | more h hrest =>
      rw [List.append_assoc, List.cons_append]
      exact .more h (ih hrest)

/-- Members with commas between them. -/
theorem spellsMembers_intercalate {β : Type} {member : β → List Token × Form}
    {text : β → String} {l : List β} (h : ∀ x ∈ l, SpellsMember (member x) (text x).toList) :
    SpellsMembers (l.map member) (",".intercalate (l.map text)).toList := by
  induction l with
  | nil => exact .none (List.forall_mem_nil _)
  | cons x l ih =>
    obtain ⟨hx, hl⟩ := List.forall_mem_cons.1 h
    cases l with
    | nil => exact .last (by rwa [List.map_singleton, String.intercalate_singleton])
    | cons y l =>
      have hcons : ",".intercalate ((x :: y :: l).map text) =
          text x ++ "," ++ ",".intercalate ((y :: l).map text) := String.intercalate_cons_cons
      rw [hcons, String.toList_append, String.toList_append, List.append_assoc]
      exact .more hx (ih hl)

end SampleTypes.Json
