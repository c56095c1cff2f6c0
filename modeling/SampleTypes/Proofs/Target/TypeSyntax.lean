import SampleTypes.Proofs.Naming.LegalNames
import SampleTypes.Proofs.Naming.UnmarkedNames
import SampleTypes.Proofs.Target.Literals

/-!
# Types of TypeScript read back

The text of a type is read by a grammar in which `[]` binds tighter than `|`, parentheses group, and
names are atoms, and the type is found again: a nullable type and a union as the flat list of their
alternatives, integers and other numbers as one type.

* `tokens?` takes a text apart, `Operand` and `Alternatives` are the grammar, `Reads` is the two
  together;
* `Alternatives.run` follows a derivation with a stack, so that there is one tree at most
  (`Reads.unique`);
* `exists_alternatives` derives the text of a type, `reads_text_iff` is the main result.
-/

namespace SampleTypes

open Naming (Context Graph TypeRef)

/-! ### Names -/

namespace Naming

open Text (PlainText)

/-- A name of plain characters, the first of which is no number. -/
structure IsWord (name : String) : Prop where
  nonempty : name ≠ ""
  plain : PlainText name
  start : startsNumeric name = false

theorem startsNumeric_append {s : String} (h : s ≠ "") (t : String) :
    startsNumeric (s ++ t) = startsNumeric s := by
  unfold startsNumeric
  rw [String.toList_append]
  cases hs : s.toList with
  | nil => exact absurd (String.toList_eq_nil_iff.1 hs) h
  | cons c cs => rfl

theorem IsWord.append {s t : String} (hs : IsWord s) (ht : PlainText t) : IsWord (s ++ t) where
  nonempty h := hs.nonempty (String.append_eq_empty_iff.1 h).1
  plain := hs.plain.append ht
  start := (startsNumeric_append hs.nonempty t).trans hs.start

theorem IsWord.withCounter {base : String} (h : IsWord base) (convention : Ident.Convention)
    (n : Nat) : IsWord (convention.withCounter base n) := by
  rw [Ident.Convention.withCounter_eq]
  exact h.append fun c hc _ => convention.isPlainPart_of_mem_counter n c hc

/-- In a language without marks the identifier for a key is a word. -/
theorem isWord_sanitize {cx : Context} (hmark : cx.language.mark = "") (key : String)
    {fallback : String} (hfallback : fallback ∈ fallbackWords) :
    IsWord (cx.sanitize key fallback).ident := by
  unfold Context.sanitize
  extract_lets applied word marked
  have hword : word ≠ "" ∧ PlainText word := by
    simp only [word]
    split
    · exact ⟨(apply_ne_of_mem_fallbackWords cx.convention fallback hfallback).1,
        cx.convention.plainText_apply fallback⟩
    · rename_i happlied
      rw [String.isEmpty_iff] at happlied
      exact ⟨happlied, cx.convention.plainText_apply key⟩
  have hmarked : IsWord marked := by
    simp only [marked]
    split
    · have hdigit : IsWord cx.convention.digitMark := by
        cases cx.convention <;> exact ⟨by decide, by decide, by decide⟩
      exact hdigit.append hword.2
    · rename_i hstart
      exact ⟨hword.1, hword.2, Bool.eq_false_iff.2 hstart⟩
  split
  · rename_i escaped he
    rcases Target.Language.escapeKeyword_cases he with rfl | ⟨-, c, hc, -⟩
    · exact hmarked.append (by decide)
    · rw [hmark] at hc
      cases hc
  · exact hmarked

theorem isWord_of_mem_declarations {cx : Context} (hmark : cx.language.mark = "") (s : Shape)
    (rootName : String) : ∀ d ∈ (cx.resolve s rootName).1.declarations, IsWord d.name := by
  have hcounter : ∀ base n, IsWord base → IsWord (cx.convention.withCounter base n) :=
    fun _ n h => h.withCounter cx.convention n
  intro d hd
  obtain ⟨hin, before, after, id, fields⟩ := built_of_mem_declarations cx s rootName d hd
  rcases hin with rfl | ⟨owner, key, rfl⟩
  · exact rootName_of_sanitize (P := IsWord) hcounter (isWord_sanitize hmark _ (by decide))
  · exact typeName_of_sanitize (P := IsWord) hcounter (isWord_sanitize hmark _ (by decide))
      (isWord_sanitize hmark _ (by decide)) before

end Naming

namespace Target.TypeScript

/-! ### Grammar -/

/-- A token of a type. -/
inductive Token where
  | word (text : String)
  | bar
  | openParen
  | closeParen
  | openBracket
  | closeBracket
deriving DecidableEq

/-- The character is part of a word; beyond ASCII every one is taken for that. -/
def isWordChar (c : Char) : Bool :=
  0x80 ≤ c.toNat || Ident.isPlainPart c || c == '$'

/-- The token of a sign. -/
def sign? (c : Char) : Option Token :=
  [('|', Token.bar), ('(', .openParen), (')', .closeParen), ('[', .openBracket),
    (']', .closeBracket)].lookup c

/-- The token of the characters of a word, the last one first, if there are any. -/
def wordToken (current : List Char) : List Token :=
  if current.isEmpty then [] else [.word (String.ofList current.reverse)]

/-- The tokens of a text that comes after some characters of a word. -/
def tokensAfter : List Char → List Char → Option (List Token)
  | current, [] => some (wordToken current)
  | current, c :: cs =>
    if isWordChar c then tokensAfter (c :: current) cs
    else if c = ' ' then (tokensAfter [] cs).map (wordToken current ++ ·)
    else (sign? c).bind fun sign => (tokensAfter [] cs).map (wordToken current ++ sign :: ·)

/-- The tokens of a text. -/
def tokens? (cs : List Char) : Option (List Token) :=
  tokensAfter [] cs

/-- The names of types that need no declaration. -/
def predefinedTypes : List String :=
  ["any", "bigint", "boolean", "never", "null", "number", "object", "string", "symbol", "undefined",
    "unknown", "void"]

/-- The words that are operators where a type is expected. -/
def typeOperators : List String :=
  ["infer", "keyof", "readonly", "unique"]

/-- What a type means: names, arrays, and several alternatives. -/
inductive TypeTree where
  | predefined (name : String)
  | declared (name : String)
  | array (element : TypeTree)
  | union (alternatives : List TypeTree)

/-- Alternatives as one type; one alternative stands for itself. -/
def TypeTree.of : List TypeTree → TypeTree
  | [t] => t
  | ts => .union ts

/-- What a name means. -/
def TypeTree.ofName (name : String) : TypeTree :=
  if name ∈ predefinedTypes then .predefined name else .declared name

/-- The word names a type: it does not start with a digit, and is no operator. -/
def isTypeName (word : String) : Bool :=
  !word.toList.head?.any Char.isDigit && !typeOperators.contains word

mutual

/-- The tokens are those of a type without a bar outside of parentheses. -/
inductive Operand : List Token → TypeTree → Prop
  | name {word : String} (h : isTypeName word) : Operand [.word word] (.ofName word)
  | group {tokens : List Token} {ts : List TypeTree} (inside : Alternatives tokens ts) :
    Operand (.openParen :: tokens ++ [.closeParen]) (.of ts)
  | array {tokens : List Token} {t : TypeTree} (element : Operand tokens t) :
    Operand (tokens ++ [.openBracket, .closeBracket]) (.array t)

/-- The tokens are those of types with bars between them. -/
inductive Alternatives : List Token → List TypeTree → Prop
  | single {tokens : List Token} {t : TypeTree} (only : Operand tokens t) : Alternatives tokens [t]
  | more {tokens others : List Token} {t : TypeTree} {ts : List TypeTree}
    (first : Operand tokens t) (rest : Alternatives others ts) :
    Alternatives (tokens ++ .bar :: others) (t :: ts)

end

/-- The text is read as the type. -/
def Reads (cs : List Char) (t : TypeTree) : Prop :=
  ∃ tokens ts, tokens? cs = some tokens ∧ Alternatives tokens ts ∧ TypeTree.of ts = t

/-! ### One reading -/

/-- What is read of an operand. -/
inductive Slot where
  | missing
  | read (t : TypeTree)
  /-- An opening bracket comes after it. -/
  | bracket (t : TypeTree)

/-- The alternatives before the current one, from the innermost parentheses to the outermost. -/
abbrev Stack := List (List TypeTree × Slot)

/-- Puts a type where one is missing. -/
def put (t : TypeTree) : Stack → Option Stack
  | (before, .missing) :: stack => some ((before, .read t) :: stack)
  | _ => none

/-- Reads one token. -/
def step : Stack → Token → Option Stack
  | (before, .missing) :: stack, .word word =>
    if isTypeName word then some ((before, .read (.ofName word)) :: stack) else none
  | (before, .missing) :: stack, .openParen => some (([], .missing) :: (before, .missing) :: stack)
  | (before, .read t) :: stack, .closeParen => put (.of (before ++ [t])) stack
  | (before, .read t) :: stack, .openBracket => some ((before, .bracket t) :: stack)
  | (before, .bracket t) :: stack, .closeBracket => some ((before, .read (.array t)) :: stack)
  | (before, .read t) :: stack, .bar => some ((before ++ [t], .missing) :: stack)
  | _, _ => none

/-- Reads several tokens. -/
def run (stack : Stack) (tokens : List Token) : Option Stack :=
  tokens.foldlM step stack

theorem run_append (stack : Stack) (tokens more : List Token) :
    run stack (tokens ++ more) = (run stack tokens).bind (run · more) :=
  List.foldlM_append

mutual

/-- The reader follows a derivation, whatever is on the stack. -/
theorem Operand.run {tokens : List Token} {t : TypeTree} : Operand tokens t →
    ∀ before stack, run ((before, .missing) :: stack) tokens = some ((before, .read t) :: stack)
  | .name h, before, stack => by
    show (step _ _).bind _ = _
    rw [step, if_pos h]
    rfl
  | .group inside, before, stack => by
    -- inside the parentheses no alternative was read yet
    obtain ⟨first, last, rfl, hrun⟩ := Alternatives.run inside [] ((before, .missing) :: stack)
    rw [run_append]
    show (TypeScript.run (([], .missing) :: (before, .missing) :: stack) _).bind _ = _
    rw [hrun]
    rfl
  | .array element, before, stack => by
    rw [run_append, Operand.run element before stack]
    rfl

theorem Alternatives.run {tokens : List Token} {ts : List TypeTree} : Alternatives tokens ts →
    ∀ before stack, ∃ first last, ts = first ++ [last] ∧
      run ((before, .missing) :: stack) tokens = some ((before ++ first, .read last) :: stack)
  | .single (t := t) only, before, stack => by
    refine ⟨[], t, rfl, ?_⟩
    rw [Operand.run only before stack, List.append_nil]
  | .more (t := t) first rest, before, stack => by
    obtain ⟨others, last, rfl, hrun⟩ := Alternatives.run rest (before ++ [t]) stack
    refine ⟨t :: others, last, rfl, ?_⟩
    rw [run_append, Operand.run first before stack, Option.bind_some]
    show TypeScript.run ((before ++ [t], .missing) :: stack) _ = _
    rw [hrun, List.append_assoc]
    rfl

end

theorem Alternatives.unique {tokens : List Token} {ts ts' : List TypeTree}
    (h : Alternatives tokens ts) (h' : Alternatives tokens ts') : ts = ts' := by
  obtain ⟨first, last, rfl, hrun⟩ := h.run [] []
  obtain ⟨first', last', rfl, hrun'⟩ := h'.run [] []
  rw [hrun] at hrun'
  cases hrun'
  rfl

/-- **A text is read as one type at most.** -/
theorem Reads.unique {cs : List Char} {t t' : TypeTree} (h : Reads cs t) (h' : Reads cs t') :
    t = t' := by
  obtain ⟨tokens, ts, htokens, hts, rfl⟩ := h
  obtain ⟨tokens', ts', htokens', hts', rfl⟩ := h'
  rw [htokens] at htokens'
  cases htokens'
  rw [hts.unique hts']

/-! ### Tokens of texts -/

section Tokens

variable {cs ds : List Char} {ts us : List Token}

theorem isWordChar_of_plainChar {c : Char} (h : Text.PlainChar c) : isWordChar c := by
  rw [isWordChar, Bool.or_eq_true, Bool.or_eq_true, decide_eq_true_eq]
  rcases Nat.lt_or_ge c.toNat 0x80 with hlt | hge
  · exact .inl (.inr (h hlt))
  · exact .inl (.inl hge)

/-- A word ends where no character of a word follows. -/
theorem tokensAfter_boundary (current : List Char) (h : ∀ c ∈ cs.head?, isWordChar c = false) :
    tokensAfter current cs = (tokensAfter [] cs).map (wordToken current ++ ·) := by
  have hnone : wordToken [] = [] := rfl
  cases cs with
  | nil => rw [tokensAfter, tokensAfter, hnone, Option.map_some, List.append_nil]
  | cons c cs =>
    have hc : ¬ isWordChar c := by
      rw [h c rfl]
      exact Bool.false_ne_true
    rw [tokensAfter, tokensAfter, if_neg hc, if_neg hc, hnone]
    split
    · rw [Option.map_map]
      rfl
    · rw [Option.map_bind]
      congr 1
      funext sign
      rw [Function.comp_apply, Option.map_map]
      rfl

/-- The text has the tokens, wherever no character of a word follows. -/
def Lexes (cs : List Char) (ts : List Token) : Prop :=
  ∀ rest, (∀ c ∈ rest.head?, isWordChar c = false) →
    tokensAfter [] (cs ++ rest) = (tokensAfter [] rest).map (ts ++ ·)

theorem lexes_word {word : String} (hne : word ≠ "") (h : ∀ c ∈ word.toList, isWordChar c) :
    Lexes word.toList [.word word] := by
  have hword : ∀ (cs current rest : List Char), (∀ c ∈ cs, isWordChar c) →
      tokensAfter current (cs ++ rest) = tokensAfter (cs.reverse ++ current) rest := by
    intro cs
    induction cs with
    | nil => exact fun _ _ _ => rfl
    | cons c cs ih =>
      intro current rest h
      rw [List.forall_mem_cons] at h
      rw [List.cons_append, tokensAfter, if_pos h.1, ih _ _ h.2, List.reverse_cons,
        List.append_assoc]
      rfl
  intro rest hrest
  have hsome : ¬ (word.toList.reverse).isEmpty := by
    rw [List.isEmpty_iff, List.reverse_eq_nil_iff, String.toList_eq_nil_iff]
    exact hne
  rw [hword _ _ _ h, List.append_nil, tokensAfter_boundary _ hrest, wordToken, if_neg hsome,
    List.reverse_reverse, String.ofList_toList]

theorem tokensAfter_sign {c : Char} {sign : Token} (hsign : sign? c = some sign)
    (hword : isWordChar c = false) (hblank : c ≠ ' ') (cs : List Char) :
    tokensAfter [] (c :: cs) = (tokensAfter [] cs).map (sign :: ·) := by
  rw [tokensAfter, hword, if_neg Bool.false_ne_true, if_neg hblank, hsign, Option.bind_some]
  rfl

theorem tokensAfter_blank (cs : List Char) : tokensAfter [] (' ' :: cs) = tokensAfter [] cs := by
  rw [tokensAfter, if_neg (by decide), if_pos rfl]
  exact Option.map_id'

theorem Lexes.brackets (h : Lexes cs ts) :
    Lexes (cs ++ ['[', ']']) (ts ++ [.openBracket, .closeBracket]) := by
  intro rest _
  rw [List.append_assoc, h _ (by simp; decide), List.cons_append, List.cons_append,
    tokensAfter_sign rfl (by decide) (by decide), tokensAfter_sign rfl (by decide) (by decide)]
  simp [Function.comp_def]

theorem Lexes.parens (h : Lexes cs ts) :
    Lexes ('(' :: cs ++ [')']) (.openParen :: ts ++ [.closeParen]) := by
  intro rest _
  rw [List.cons_append, List.cons_append, List.append_assoc,
    tokensAfter_sign rfl (by decide) (by decide), h _ (by simp; decide), List.cons_append,
    tokensAfter_sign rfl (by decide) (by decide)]
  simp [Function.comp_def]

theorem Lexes.bar (h : Lexes cs ts) (h' : Lexes ds us) :
    Lexes (cs ++ [' ', '|', ' '] ++ ds) (ts ++ .bar :: us) := by
  intro rest hrest
  rw [List.append_assoc, List.append_assoc, h _ (by simp; decide)]
  simp only [List.cons_append, List.nil_append]
  rw [tokensAfter_blank, tokensAfter_sign rfl (by decide) (by decide), tokensAfter_blank,
    h' _ hrest]
  simp [Function.comp_def]

theorem Lexes.tokens? (h : Lexes cs ts) : tokens? cs = some ts := by
  have hall := h [] (by simp)
  rw [List.append_nil] at hall
  rw [TypeScript.tokens?, hall]
  exact congrArg some (List.append_nil ts)

end Tokens

/-! ### The text of a type -/

/-- The name of what there is for a kind; there is one type for all numbers. -/
def predefinedName : Primitive → String
  | .null => "null"
  | .bool => "boolean"
  | .integer => "number"
  | .float => "number"
  | .string => "string"

mutual

/-- The alternatives that a type stands for, given the names of the declarations. -/
def alternatives (nameOf : Nat → String) : TypeRef → List TypeTree
  | .unknown => [.predefined "unknown"]
  | .primitive kind => [.predefined (predefinedName kind)]
  | .declared id => [.declared (nameOf id)]
  | .array element => [.array (.of (alternatives nameOf element))]
  | .nullable inner => alternatives nameOf inner ++ [.predefined "null"]
  | .union arms => alternativesOf nameOf arms

/-- The alternatives that several types stand for. -/
def alternativesOf (nameOf : Nat → String) : List TypeRef → List TypeTree
  | [] => []
  | arm :: arms => alternatives nameOf arm ++ alternativesOf nameOf arms

end

mutual

/-- The type is a union of nothing, or has one in it. -/
def hasEmptyUnion : TypeRef → Bool
  | .unknown => false
  | .primitive _ => false
  | .declared _ => false
  | .array element => hasEmptyUnion element
  | .nullable inner => hasEmptyUnion inner
  | .union arms => arms.isEmpty || anyHasEmptyUnion arms

/-- One of several types is a union of nothing, or has one in it. -/
def anyHasEmptyUnion : List TypeRef → Bool
  | [] => false
  | arm :: arms => hasEmptyUnion arm || anyHasEmptyUnion arms

end

/-- The name can stand for a declaration: it is a word, and means no other thing. -/
structure IsDeclarable (name : String) : Prop where
  word : Lexes name.toList [.word name]
  typeName : isTypeName name
  notPredefined : name ∉ predefinedTypes

theorem Operand.predefined {name : String} (h : isTypeName name) (hname : name ∈ predefinedTypes) :
    Operand [.word name] (.predefined name) := by
  have hoperand := Operand.name h
  rwa [TypeTree.ofName, if_pos hname] at hoperand

theorem Operand.declared {name : String} (h : IsDeclarable name) :
    Operand [.word name] (.declared name) := by
  have hoperand := Operand.name h.typeName
  rwa [TypeTree.ofName, if_neg h.notPredefined] at hoperand

/-- One alternative has no bar outside of parentheses. -/
theorem Alternatives.operand {tokens : List Token} {t : TypeTree} (h : Alternatives tokens [t]) :
    Operand tokens t := by
  cases h with
  | single only => exact only
  | more first rest => cases rest

theorem Alternatives.append {tokens others : List Token} {ts us : List TypeTree} :
    Alternatives tokens ts → Alternatives others us →
      Alternatives (tokens ++ .bar :: others) (ts ++ us)
  | .single only, h => .more only h
  | .more first rest, h => by
    rw [List.append_assoc]
    exact .more first (Alternatives.append rest h)

theorem lexes_predefined : ∀ name ∈ predefinedTypes, Lexes name.toList [.word name] := by
  intro name hname
  have hwords : ∀ name ∈ predefinedTypes, name ≠ "" ∧ name.toList.all isWordChar := by
    decide
  exact lexes_word (hwords name hname).1 (List.all_eq_true.1 (hwords name hname).2)

theorem isTypeName_predefined : ∀ name ∈ predefinedTypes, isTypeName name := by
  decide

theorem predefinedName_eq (kind : Primitive) :
    kindName kind = predefinedName kind ∧ predefinedName kind ∈ predefinedTypes := by
  cases kind <;> decide

/-- What needs no parentheses stands for one alternative. -/
theorem exists_single_alternative {f : Nat → TypeExpr} {nameOf : Nat → String} {t : TypeRef}
    (h : (TypeExpr.of f t).isCompound = false) :
    ∃ u, alternatives nameOf t = [u] := by
  cases t with
  | unknown | primitive | declared | array => exact ⟨_, rfl⟩
  | nullable | union => cases h

section Derivation

variable {reference : Nat → String} (level : Nat)

/-- A text of one predefined name. -/
theorem exists_predefined (name : String) (h : name ∈ predefinedTypes) :
    ∃ tokens, Lexes name.toList tokens ∧ Alternatives tokens [.predefined name] :=
  ⟨_, lexes_predefined name h, .single (.predefined (isTypeName_predefined name h) h)⟩

mutual

/-- **The grammar derives the text of a type**, with the alternatives that it stands for. -/
theorem exists_alternatives : (t : TypeRef) → hasEmptyUnion t = false →
    (∀ id ∈ t.references, IsDeclarable (reference id)) →
    ∃ tokens, Lexes ((TypeExpr.of (fun id => .name (reference id)) t).text level).toList tokens ∧
      Alternatives tokens (alternatives reference t)
  | .unknown, _, _ => exists_predefined "unknown" (by decide)
  | .primitive kind, _, _ => by
    obtain ⟨hname, hmem⟩ := predefinedName_eq kind
    rw [TypeExpr.of, TypeExpr.text, hname]
    exact exists_predefined _ hmem
  | .declared id, _, href => by
    have hname := href id List.mem_cons_self
    exact ⟨_, hname.word, .single (.declared hname)⟩
  | .array t, hfull, href => by
    obtain ⟨tokens, hlexes, hts⟩ := exists_alternatives t hfull href
    rw [TypeExpr.of, TypeExpr.text]
    split
    · refine ⟨_, ?_, .single (.array (.group hts))⟩
      have htokens := hlexes.parens.brackets
      rw [String.toList_append, String.toList_append]
      rwa [List.append_assoc] at htokens
    · -- without parentheses it stands for one alternative, which may take brackets itself
      rename_i hsimple
      obtain ⟨u, hu⟩ := exists_single_alternative (Bool.eq_false_iff.2 hsimple)
      rw [hu] at hts
      rw [alternatives, hu, TypeTree.of, String.toList_append]
      exact ⟨_, hlexes.brackets, .single (.array hts.operand)⟩
  | .nullable t, hfull, href => by
    obtain ⟨tokens, hlexes, hts⟩ := exists_alternatives t hfull href
    obtain ⟨null, hnull, halone⟩ := exists_predefined "null" (by decide)
    refine ⟨_, ?_, hts.append halone⟩
    have hbar : " | null".toList = [' ', '|', ' '] ++ "null".toList := by decide
    rw [TypeExpr.of, TypeExpr.text, String.toList_append, hbar, ← List.append_assoc]
    exact hlexes.bar hnull
  | .union arms, hfull, href => by
    rw [hasEmptyUnion, Bool.or_eq_false_iff, List.isEmpty_eq_false_iff] at hfull
    rw [TypeExpr.of, TypeExpr.text]
    exact exists_alternativesOf arms hfull.1 hfull.2 href

theorem exists_alternativesOf : (arms : List TypeRef) → arms ≠ [] → anyHasEmptyUnion arms = false →
    (∀ id ∈ TypeRef.referencesOf arms, IsDeclarable (reference id)) →
    ∃ tokens,
      Lexes (" | ".intercalate (TypeExpr.texts level
        (TypeExpr.ofArms (fun id => .name (reference id)) arms))).toList tokens ∧
      Alternatives tokens (alternativesOf reference arms)
  | [], hne, _, _ => absurd rfl hne
  | [arm], _, hfull, href => by
    rw [anyHasEmptyUnion, anyHasEmptyUnion, Bool.or_false] at hfull
    rw [TypeRef.referencesOf, TypeRef.referencesOf, List.append_nil] at href
    rw [TypeExpr.ofArms, TypeExpr.ofArms, TypeExpr.texts, TypeExpr.texts,
      String.intercalate_singleton, alternativesOf, alternativesOf, List.append_nil]
    exact exists_alternatives arm hfull href
  | arm :: next :: arms, _, hfull, href => by
    rw [anyHasEmptyUnion, Bool.or_eq_false_iff] at hfull
    rw [TypeRef.referencesOf, List.forall_mem_append] at href
    obtain ⟨tokens, hlexes, hts⟩ := exists_alternatives arm hfull.1 href.1
    obtain ⟨others, hlexes', hts'⟩ :=
      exists_alternativesOf (next :: arms) (List.cons_ne_nil _ _) hfull.2 href.2
    refine ⟨_, ?_, hts.append hts'⟩
    have htokens := hlexes.bar hlexes'
    rw [TypeExpr.ofArms, TypeExpr.texts] at htokens
    rw [TypeExpr.ofArms, TypeExpr.ofArms, TypeExpr.texts, TypeExpr.texts,
      String.intercalate_cons_cons, String.toList_append, String.toList_append]
    exact htokens

end

end Derivation

/-! ### Names of declarations -/

mutual

/-- The names in a type that are read as those of declarations. -/
def TypeTree.declaredNames : TypeTree → List String
  | .predefined _ => []
  | .declared name => [name]
  | .array element => declaredNames element
  | .union ts => TypeTree.declaredNamesOf ts

/-- The names in several types that are read as those of declarations. -/
def TypeTree.declaredNamesOf : List TypeTree → List String
  | [] => []
  | t :: ts => TypeTree.declaredNames t ++ TypeTree.declaredNamesOf ts

end

theorem TypeTree.declaredNames_of (ts : List TypeTree) :
    (TypeTree.of ts).declaredNames = declaredNamesOf ts := by
  match ts with
  | [] => rfl
  | [t] => rw [TypeTree.of, declaredNamesOf, declaredNamesOf, List.append_nil]
  | _ :: _ :: _ => rfl

theorem TypeTree.declaredNamesOf_append (ts us : List TypeTree) :
    declaredNamesOf (ts ++ us) = declaredNamesOf ts ++ declaredNamesOf us := by
  induction ts with
  | nil => rfl
  | cons t ts ih => rw [List.cons_append, declaredNamesOf, declaredNamesOf, ih, List.append_assoc]

mutual

/-- The declarations that a type refers to are named in its alternatives. -/
theorem declaredNames_alternatives (nameOf : Nat → String) : (t : TypeRef) →
    TypeTree.declaredNamesOf (alternatives nameOf t) = t.references.map nameOf
  | .unknown => rfl
  | .primitive _ => rfl
  | .declared _ => rfl
  | .array t => by
    rw [alternatives, TypeTree.declaredNamesOf, TypeTree.declaredNamesOf, TypeTree.declaredNames,
      TypeTree.declaredNames_of, declaredNames_alternatives nameOf t, List.append_nil]
    rfl
  | .nullable t => by
    rw [alternatives, TypeTree.declaredNamesOf_append, declaredNames_alternatives nameOf t]
    exact List.append_nil _
  | .union arms => declaredNames_alternativesOf nameOf arms

theorem declaredNames_alternativesOf (nameOf : Nat → String) : (arms : List TypeRef) →
    TypeTree.declaredNamesOf (alternativesOf nameOf arms)
      = (TypeRef.referencesOf arms).map nameOf
  | [] => rfl
  | arm :: arms => by
    rw [alternativesOf, TypeTree.declaredNamesOf_append, declaredNames_alternatives nameOf arm,
      declaredNames_alternativesOf nameOf arms, TypeRef.referencesOf, List.map_append]

end

/-- The names that mean something else than a declaration, and are not reserved for that. -/
def misreadNames : List String :=
  ["bigint", "infer", "keyof", "readonly", "unique"]

mutual

/-- No such name is read as that of a declaration. -/
theorem Operand.notMem_declaredNames {tokens : List Token} {t : TypeTree} : Operand tokens t →
    ∀ name ∈ t.declaredNames, name ∉ misreadNames
  | @Operand.name word h => by
    -- such a word is read as another type, or is no type
    have hcases : ∀ name ∈ misreadNames, name ∈ predefinedTypes ∨ isTypeName name = false := by
      decide
    rw [TypeTree.ofName]
    split
    · rintro name ⟨⟩
    · rename_i hdeclared
      intro name hname hmisread
      rw [TypeTree.declaredNames, List.mem_singleton] at hname
      subst hname
      rcases hcases name hmisread with hpredefined | hoperator
      · exact hdeclared hpredefined
      · rw [h] at hoperator
        cases hoperator
  | .group inside => by
    rw [TypeTree.declaredNames_of]
    exact Alternatives.notMem_declaredNames inside
  | .array element => by
    rw [TypeTree.declaredNames]
    exact Operand.notMem_declaredNames element

theorem Alternatives.notMem_declaredNames {tokens : List Token} {ts : List TypeTree} :
    Alternatives tokens ts → ∀ name ∈ TypeTree.declaredNamesOf ts, name ∉ misreadNames
  | .single only => by
    rw [TypeTree.declaredNamesOf, TypeTree.declaredNamesOf, List.append_nil]
    exact Operand.notMem_declaredNames only
  | .more first rest => by
    rw [TypeTree.declaredNamesOf, List.forall_mem_append]
    exact ⟨Operand.notMem_declaredNames first, Alternatives.notMem_declaredNames rest⟩

end

/-- A word that is no keyword and none of these names can stand for a declaration. -/
theorem isDeclarable_of_notMem {name : String} (h : Naming.IsWord name)
    (hkeyword : name ∉ Language.typescript.keywords) (hmisread : name ∉ misreadNames) :
    IsDeclarable name where
  word := lexes_word h.nonempty fun c hc => isWordChar_of_plainChar (h.plain c hc)
  typeName := by
    have hoperators : ∀ name ∈ typeOperators, name ∈ misreadNames := by
      decide
    have hdigit : name.toList.head?.any Char.isDigit = false := by
      cases hhead : name.toList.head? with
      | none => rfl
      | some c =>
        have hstart := h.start
        rw [Naming.startsNumeric, hhead, Option.any_some, Text.isNumeric] at hstart
        rw [Option.any_some, Bool.eq_false_iff]
        intro hc
        have hplain : Ident.isPlainPart c := by
          rw [Ident.isPlainPart, Char.isAlphanum, hc, Bool.or_true, Bool.true_or]
        rw [if_pos (Text.toNat_lt_of_isPlainPart hplain), hc] at hstart
        cases hstart
    rw [isTypeName, hdigit, Bool.not_false, Bool.true_and, Bool.not_eq_true', List.contains_eq_mem,
      decide_eq_false_iff_not]
    exact fun hmem => hmisread (hoperators name hmem)
  notPredefined := by
    have hcases : ∀ name ∈ predefinedTypes,
        name ∈ Language.typescript.keywords ∨ name ∈ misreadNames := by
      decide
    intro hmem
    exact (hcases name hmem).elim hkeyword hmisread

section Resolve

variable {cx : Context} (hlanguage : cx.language = .typescript) (s : Shape) (rootName : String)

include hlanguage

/-- The names that are given are no keywords. -/
theorem notMem_keywords_of_mem_declaredNames :
    ∀ name ∈ (cx.resolve s rootName).1.declaredNames, name ∉ Language.typescript.keywords := by
  intro name hname
  have hlegal := (Naming.proper_resolve cx s rootName False False.elim False.elim name
    (List.mem_append_right _ hname)).legal
  rw [hlanguage] at hlegal
  exact Language.escapeKeyword_eq_none_iff.1 hlegal.notKeyword

/-- The name behind a number can stand for its declaration. -/
theorem isDeclarable_nameOf {id : Nat} (hid : id < (cx.resolve s rootName).1.declarations.length)
    (hname : (cx.resolve s rootName).1.nameOf id ∉ misreadNames) :
    IsDeclarable ((cx.resolve s rootName).1.nameOf id) := by
  obtain ⟨objects, -, -, -, hgraph⟩ := Naming.declares_resolve cx s rootName
  have hd := List.getElem?_eq_getElem hid
  have hmem := List.getElem_mem hid
  have hmark : cx.language.mark = "" := by
    rw [hlanguage]
    rfl
  rw [← hgraph.id_eq hd, hgraph.ascending.nameOf_eq hmem] at hname ⊢
  refine isDeclarable_of_notMem (Naming.isWord_of_mem_declarations hmark s rootName _ hmem) ?_ hname
  exact notMem_keywords_of_mem_declaredNames hlanguage s rootName _
    (List.mem_cons_of_mem _ (List.mem_map_of_mem hmem))

end Resolve

/--
**A type is read back from its text**, as the only type that the text can be read as, unless it
refers to a declaration that has one of the names that are not reserved and mean something else.
-/
theorem reads_text_iff (cx : Context) (hlanguage : cx.language = .typescript) (s : Shape)
    (rootName : String) :
    let graph := (cx.resolve s rootName).1
    (∀ t : TypeRef, (∀ id ∈ t.references, id < graph.declarations.length) →
      hasEmptyUnion t = false → ∀ level,
        let text := ((TypeExpr.of (fun id => .name (graph.nameOf id)) t).text level).toList
        (Reads text (.of (alternatives graph.nameOf t)) ↔
          ∀ id ∈ t.references, graph.nameOf id ∉ misreadNames) ∧
        ∀ u u', Reads text u → Reads text u' → u = u') ∧
    ∀ name ∈ graph.declaredNames, name ∈ predefinedTypes → name = "bigint" := by
  intro graph
  refine ⟨fun t href hfull level => ⟨⟨?_, fun hnames => ?_⟩, fun u u' => Reads.unique⟩, ?_⟩
  · rintro ⟨tokens, ts, -, hts, htree⟩ id hid
    -- whatever is read as that type names the declarations that the type refers to
    have hnames : TypeTree.declaredNamesOf ts = t.references.map graph.nameOf := by
      rw [← TypeTree.declaredNames_of, htree, TypeTree.declaredNames_of, declaredNames_alternatives]
    refine hts.notMem_declaredNames _ ?_
    rw [hnames]
    exact List.mem_map_of_mem hid
  · have hdeclarable : ∀ id ∈ t.references, IsDeclarable (graph.nameOf id) :=
      fun id hid => isDeclarable_nameOf hlanguage s rootName (href id hid) (hnames id hid)
    obtain ⟨tokens, hlexes, hts⟩ := exists_alternatives level t hfull hdeclarable
    exact ⟨tokens, _, hlexes.tokens?, hts, rfl⟩
  · have hcases : ∀ name ∈ predefinedTypes,
        name ∈ Language.typescript.keywords ∨ name = "bigint" := by
      decide
    intro name hname hpredefined
    refine (hcases name hpredefined).resolve_left ?_
    exact notMem_keywords_of_mem_declaredNames hlanguage s rootName name hname

/-- A list of what may be null, which may be null as a whole, and another alternative. -/
theorem reads_text_of_points :
    let point : Shape := .object [⟨"x", .primitive .integer, false⟩]
    let points : Shape := .union [.nullable (.array (.nullable point)), .primitive .string]
    let shape : Shape := .object [⟨"points", points, false⟩]
    let graph := (Context.resolve ⟨.typescript, .pascal, false⟩ shape "Root").1
    let t : TypeRef := .union [.nullable (.array (.nullable (.declared 1))), .primitive .string]
    (∀ id ∈ t.references, id < graph.declarations.length) ∧
      (TypeExpr.of (fun id => .name (graph.nameOf id)) t).text 0
        = "(Points | null)[] | null | string" ∧
      Reads "(Points | null)[] | null | string".toList
        (.union [.array (.union [.declared "Points", .predefined "null"]), .predefined "null",
          .predefined "string"]) := by
  intro point points shape graph t
  have hname : graph.nameOf 1 = "Points" := by
    decide +kernel
  have htext : (TypeExpr.of (fun id => .name (graph.nameOf id)) t).text 0
      = "(Points | null)[] | null | string" := by
    decide +kernel
  have htree : TypeTree.of (alternatives graph.nameOf t)
      = .union [.array (.union [.declared "Points", .predefined "null"]), .predefined "null",
          .predefined "string"] := by
    rw [← hname]
    rfl
  have href : ∀ id ∈ t.references, id < graph.declarations.length := by
    decide +kernel
  have hreads := (reads_text_iff ⟨.typescript, .pascal, false⟩ rfl shape "Root").1 t href rfl 0
  refine ⟨href, htext, ?_⟩
  rw [← htext, ← htree]
  exact hreads.1.2 (by decide +kernel)

/-- A declaration that has the name of a type that needs none. -/
theorem not_reads_text_of_bigint :
    let shape : Shape := .object [⟨"bigint", .object [⟨"a", .primitive .integer, false⟩], false⟩]
    let graph := (Context.resolve ⟨.typescript, .camel, false⟩ shape "Root").1
    1 < graph.declarations.length ∧
      (TypeExpr.of (fun id => .name (graph.nameOf id)) (.declared 1)).text 0 = "bigint" ∧
      TypeTree.of (alternatives graph.nameOf (.declared 1)) = .declared "bigint" ∧
      Reads "bigint".toList (.predefined "bigint") ∧
      ¬ Reads "bigint".toList (.declared "bigint") := by
  intro shape graph
  have hname : graph.nameOf 1 = "bigint" := by
    decide +kernel
  have hpredefined : Reads "bigint".toList (.predefined "bigint") :=
    ⟨_, _, (lexes_predefined "bigint" (by decide)).tokens?,
      .single (.predefined (by decide) (by decide)), rfl⟩
  have htree : TypeTree.of (alternatives graph.nameOf (.declared 1)) = .declared "bigint" := by
    rw [← hname]
    rfl
  refine ⟨by decide +kernel, hname, htree, hpredefined, fun hdeclared => ?_⟩
  cases hpredefined.unique hdeclared

end Target.TypeScript

end SampleTypes
