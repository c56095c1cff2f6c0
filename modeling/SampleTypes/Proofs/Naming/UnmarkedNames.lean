import SampleTypes.Proofs.Ident.Capitals
import SampleTypes.Proofs.Naming.MemberNames

/-!
# Identifiers without their marks

The mark that makes an identifier of a keyword is no part of what the language takes the identifier
for.  A keyword that several keys want gets numbers after it, and then it would be an identifier
without its mark as well, which another key may want.  That the two are one identifier is not looked
up; nothing else makes identifiers one that are told apart by their marks.

* `candidate_cases` says what an identifier looks like that a key wants;
* `Context.Clashes` says that a numbered keyword is there with its mark and without;
* `nodup_unmarked_resolve_iff` is the main result.
-/

namespace SampleTypes.Naming

open Ident (Convention)
open Target (Language)
open Text (PlainText)

/-! ### What identifiers look like -/

section Spelling

variable (cx : Context) (key : String)

theorem plainText_unescaped : PlainText (cx.unescaped key) := by
  unfold Context.unescaped
  extract_lets applied word
  have hword : PlainText word := by
    simp only [word]
    split
    · exact cx.convention.plainText_apply "field"
    · exact cx.convention.plainText_apply key
  split
  · have hmark : PlainText cx.convention.digitMark := by
      cases cx.convention <;> decide
    exact hmark.append hword
  · exact hword

/-- What a key wants has no mark in it, or is a keyword with a mark before it. -/
theorem candidate_cases : PlainText (cx.candidate key) ∨
    ∃ keyword ∈ cx.language.keywords, cx.candidate key = cx.language.mark ++ keyword := by
  have hplain := plainText_unescaped cx key
  by_cases hkeyword : cx.unescaped key ∈ cx.language.keywords
  · obtain ⟨escaped, hescape⟩ := Language.exists_escapeKeyword_eq hkeyword
    rw [Context.candidate, sanitize_of_escape cx key hescape]
    rcases Language.escapeKeyword_cases hescape with rfl | ⟨rfl, -⟩
    · exact .inl (hplain.append (by decide))
    · exact .inr ⟨_, hkeyword, rfl⟩
  · rw [Context.candidate, sanitize_of_notMem_keywords cx key hkeyword]
    exact .inl hplain

end Spelling

/-- A member has what it wants, or that with a number if it is not alone with its wish. -/
theorem Context.Distinguishes.ident_cases {cx : Context} {d : Declaration}
    (h : cx.Distinguishes d) {m : Member} (hm : m ∈ d.members) :
    m.ident = cx.candidate m.key ∨
      ∃ n, m.ident = cx.convention.withCounter (cx.candidate m.key) n := by
  obtain ⟨before, after, hsplit⟩ := List.append_of_mem hm
  by_cases hold : cx.candidate m.key ∈ cx.candidates before ∨ cx.Reserves d (cx.candidate m.key)
  · obtain ⟨n, -, hident, -⟩ := h.others before m after hsplit hold
    exact .inr ⟨n, hident⟩
  · rw [not_or] at hold
    exact .inl (h.first before m after hsplit hold.1 hold.2)

/-- A number comes after the keyword, whatever stands before it. -/
theorem withCounter_append (convention : Convention) (before base : String) (n : Nat) :
    convention.withCounter (before ++ base) n = before ++ convention.withCounter base n := by
  rw [Convention.withCounter_eq, Convention.withCounter_eq, String.append_assoc]

/-! ### Clashes -/

/-- A keyword with a number is an identifier of a declaration with the mark and without it. -/
structure Context.Clashes (cx : Context) (d : Declaration) (keyword : String) (n : Nat) :
    Prop where
  mark : cx.language.mark ≠ ""
  reserved : keyword ∈ cx.language.keywords
  marked : cx.language.mark ++ cx.convention.withCounter keyword n ∈ d.members.map (·.ident)
  plain : cx.convention.withCounter keyword n ∈ d.members.map (·.ident)

/-- The identifiers of a declaration as the language compares them. -/
def Context.unmarked (cx : Context) (d : Declaration) : List String :=
  d.members.map fun m => cx.language.withoutMark m.ident

section Unmarked

variable {cx : Context} {d : Declaration} {m m' : Member} (h : cx.Distinguishes d)

include h

theorem Context.Distinguishes.plainText_ident (hm : m ∈ d.members)
    (hplain : PlainText (cx.candidate m.key)) : PlainText m.ident := by
  rcases h.ident_cases hm with hident | ⟨n, hident⟩
  · rwa [hident]
  · rw [hident]
    exact cx.convention.plainText_withCounter hplain n

/-- An identifier has no mark in it, or has one before a keyword, with a number or without. -/
theorem Context.Distinguishes.spelling (hm : m ∈ d.members) : PlainText m.ident ∨
    ∃ word, m.ident = cx.language.mark ++ word ∧ (word ∈ cx.language.keywords ∨
      ∃ keyword ∈ cx.language.keywords, ∃ n, word = cx.convention.withCounter keyword n) := by
  rcases candidate_cases cx m.key with hplain | ⟨keyword, hkeyword, hwanted⟩
  · exact .inl (h.plainText_ident hm hplain)
  · right
    rcases h.ident_cases hm with hident | ⟨n, hident⟩
    · exact ⟨keyword, hident.trans hwanted, .inl hkeyword⟩
    · refine ⟨_, ?_, .inr ⟨keyword, hkeyword, n, rfl⟩⟩
      rw [hident, hwanted, withCounter_append]

section NoClash

variable (hlegal : ∀ ident ∈ d.members.map (·.ident), ident ∉ cx.language.keywords)
  (hno : ∀ keyword n, ¬ cx.Clashes d keyword n)

include hlegal hno

/-- Where no keyword clashes, an identifier is no other without its mark. -/
theorem Context.Distinguishes.ident_eq_of_eq_withoutMark (hm : m ∈ d.members)
    (hm' : m' ∈ d.members) (hsame : m.ident = cx.language.withoutMark m'.ident) :
    m.ident = m'.ident := by
  rcases h.spelling hm' with hplain' | ⟨word, hword, hnumbered⟩
  · rwa [Language.withoutMark_of_plainText hplain'] at hsame
  · rw [hword, Language.withoutMark_append] at hsame
    have hident := List.mem_map_of_mem (f := Member.ident) hm
    rw [hsame] at hident
    by_cases hmark : cx.language.mark = ""
    · rw [hword, hmark, String.empty_append, hsame]
    · -- the word is no keyword, being an identifier, and with a number it clashes
      rcases hnumbered with hkeyword | ⟨keyword, hkeyword, n, rfl⟩
      · exact absurd hkeyword (hlegal word hident)
      · have hident' := List.mem_map_of_mem (f := Member.ident) hm'
        rw [hword] at hident'
        exact absurd ⟨hmark, hkeyword, hident', hident⟩ (hno keyword n)

theorem Context.Distinguishes.nodup_unmarked : (cx.unmarked d).Nodup := by
  have hinj : ∀ m ∈ d.members, ∀ m' ∈ d.members,
      cx.language.withoutMark m.ident = cx.language.withoutMark m'.ident → m.ident = m'.ident := by
    intro m hm m' hm' hsame
    rcases h.spelling hm with hplain | ⟨word, hword, -⟩
    · rw [Language.withoutMark_of_plainText hplain] at hsame
      exact h.ident_eq_of_eq_withoutMark hlegal hno hm hm' hsame
    · rcases h.spelling hm' with hplain' | ⟨word', hword', -⟩
      · rw [Language.withoutMark_of_plainText hplain'] at hsame
        exact (h.ident_eq_of_eq_withoutMark hlegal hno hm' hm hsame.symm).symm
      · rw [hword, hword', Language.withoutMark_append, Language.withoutMark_append] at hsame
        rw [hword, hword', hsame]
  rw [Context.unmarked, ← Function.comp_def, ← List.map_map]
  refine List.Nodup.map_on ?_ h.nodup
  rw [List.forall_mem_map]
  intro m hm
  rw [List.forall_mem_map]
  exact hinj m hm

end NoClash

/-- In a clash a member has not got the keyword that it wants. -/
theorem Context.Distinguishes.exists_marked {keyword : String} {n : Nat}
    (hclash : cx.Clashes d keyword n) : ∃ m ∈ d.members, m.ident ≠ cx.candidate m.key ∧
      ¬ PlainText (cx.candidate m.key) ∧
      ∃ word ∈ cx.language.keywords, cx.candidate m.key = cx.language.mark ++ word := by
  obtain ⟨m, hm, hident⟩ := List.mem_map.1 hclash.marked
  have hmarked : ¬ PlainText m.ident := by
    rw [hident]
    refine fun hplain => hclash.mark (Language.mark_eq_empty_of_plainText fun c hc => hplain c ?_)
    rw [String.toList_append]
    exact List.mem_append_left _ hc
  have hwanted : ¬ PlainText (cx.candidate m.key) := mt (h.plainText_ident hm) hmarked
  rcases candidate_cases cx m.key with hplain | ⟨word, hword, heq⟩
  · exact absurd hplain hwanted
  · refine ⟨m, hm, fun hsame => ?_, hwanted, word, hword, heq⟩
    rw [hident, heq, String.append_right_inj] at hsame
    have hlegal : cx.language.Legal (cx.convention.withCounter keyword n) :=
      Language.legal_withCounter cx.convention keyword n
    rw [hsame] at hlegal
    exact Language.escapeKeyword_eq_none_iff.1 hlegal.notKeyword hword

end Unmarked

theorem plainText_of_mem_keywords {language : Language} {keyword : String}
    (h : keyword ∈ language.keywords) : PlainText keyword := by
  intro c hc
  have hletter := List.all_eq_true.1 (Language.isAlpha_of_mem_keywords keyword h) c hc
  exact Text.plainChar_of_isAlphanum (by rw [Char.isAlphanum, hletter, Bool.true_or])

/-- A keyword that clashes gives two members one identifier. -/
theorem Context.Clashes.not_nodup {cx : Context} {d : Declaration} {keyword : String} {n : Nat}
    (h : cx.Clashes d keyword n) : ¬ (cx.unmarked d).Nodup := by
  intro hnodup
  obtain ⟨m, hm, hident⟩ := List.mem_map.1 h.marked
  obtain ⟨m', hm', hident'⟩ := List.mem_map.1 h.plain
  have hplain := cx.convention.plainText_withCounter (plainText_of_mem_keywords h.reserved) n
  have hsame : cx.language.withoutMark m.ident = cx.language.withoutMark m'.ident := by
    rw [hident, hident', Language.withoutMark_append, Language.withoutMark_of_plainText hplain]
  rw [List.inj_on_of_nodup_map hnodup hm hm' hsame, hident'] at hident
  exact h.mark (String.append_eq_right_iff.1 hident.symm)

section Members

variable {cx : Context} {s : Shape} {rootName : String} {d : Declaration} {m : Member}

/-- An identifier has at most one mark, and that before all else. -/
theorem mark_cases_of_mem_members (hd : d ∈ (cx.resolve s rootName).1.declarations)
    (hm : m ∈ d.members) : Text.PlainText m.ident ∨
      ∃ word, Text.PlainText word ∧ m.ident = cx.language.mark ++ word := by
  have h := (built_of_mem_declarations cx s rootName d hd).distinguishes
  rcases h.spelling hm with hplain | ⟨word, hword, hkeyword | ⟨keyword, hkeyword, n, rfl⟩⟩
  · exact .inl hplain
  · exact .inr ⟨word, plainText_of_mem_keywords hkeyword, hword⟩
  · exact .inr
      ⟨_, cx.convention.plainText_withCounter (plainText_of_mem_keywords hkeyword) n, hword⟩

theorem identText_of_mem_members (hd : d ∈ (cx.resolve s rootName).1.declarations)
    (hm : m ∈ d.members) : Text.IdentText m.ident := by
  have hplain : ∀ word, Text.PlainText word → Text.IdentText word :=
    fun word h c hc => (h c hc).identChar
  rcases mark_cases_of_mem_members hd hm with h | ⟨word, h, hident⟩
  · exact hplain _ h
  · have hmark : Text.IdentText cx.language.mark := by
      cases cx.language <;> decide
    rw [hident]
    exact hmark.append (hplain word h)

end Members

/-! ### Pascal case -/

/-- A keyword that starts with a capital is escaped without a mark. -/
theorem escapeKeyword_of_startsCapital {language : Language} : ∀ keyword ∈ language.keywords,
    Text.StartsCapital keyword.toList →
      language.escapeKeyword keyword = some (keyword ++ "_") := by
  cases language <;> decide +kernel

theorem startsCapital_unescaped {cx : Context} (hpascal : cx.convention = .pascal)
    (key : String) : Text.StartsCapital (cx.unescaped key).toList := by
  unfold Context.unescaped
  extract_lets applied word
  have hword : Text.StartsCapital word.toList := by
    simp only [word, applied, hpascal]
    split
    · exact Ident.startsCapital_apply "field"
    · exact Ident.startsCapital_apply key
  split
  · rw [String.toList_append, hpascal]
    exact .append (by decide) hword
  · exact hword

/-- In Pascal case no identifier that a key wants has a mark in it. -/
theorem plainText_candidate {cx : Context} (hpascal : cx.convention = .pascal) (key : String) :
    PlainText (cx.candidate key) := by
  have hplain := plainText_unescaped cx key
  by_cases hkeyword : cx.unescaped key ∈ cx.language.keywords
  · have hescape := escapeKeyword_of_startsCapital _ hkeyword (startsCapital_unescaped hpascal key)
    rw [Context.candidate, sanitize_of_escape cx key hescape]
    exact hplain.append (by decide)
  · rw [Context.candidate, sanitize_of_notMem_keywords cx key hkeyword]
    exact hplain

/-! ### The graph of a shape -/

/--
**Without their marks the identifiers of a declaration are apart unless a numbered keyword
clashes.**  None does where each keyword is wanted once and not as the name of the declaration, and
none in Pascal case.
-/
theorem nodup_unmarked_resolve_iff (cx : Context) (s : Shape) (rootName : String) :
    ∀ d ∈ (cx.resolve s rootName).1.declarations,
      ((cx.unmarked d).Nodup ↔ ∀ keyword n, ¬ cx.Clashes d keyword n) ∧
      ((∀ keyword ∈ cx.language.keywords,
        (cx.candidates d.members).count (cx.language.mark ++ keyword) ≤ 1 ∧
          ¬ cx.Reserves d (cx.language.mark ++ keyword)) → (cx.unmarked d).Nodup) ∧
      (cx.convention = .pascal → (cx.unmarked d).Nodup) := by
  intro d hd
  have h := (built_of_mem_declarations cx s rootName d hd).distinguishes
  have hlegal : ∀ ident ∈ d.members.map (·.ident), ident ∉ cx.language.keywords := by
    intro ident hident
    have hmem : ident ∈ (cx.resolve s rootName).1.idents :=
      List.mem_flatMap.2 ⟨d, hd, hident⟩
    have hproper := proper_resolve cx s rootName False False.elim False.elim ident
      (List.mem_append_left _ hmem)
    exact Language.escapeKeyword_eq_none_iff.1 hproper.legal.notKeyword
  refine ⟨⟨fun hnodup keyword n hclash => hclash.not_nodup hnodup, h.nodup_unmarked hlegal⟩,
    fun halone => h.nodup_unmarked hlegal fun keyword n hclash => ?_,
    fun hpascal => h.nodup_unmarked hlegal fun keyword n hclash => ?_⟩
  · obtain ⟨m, hm, hident, -, word, hword, hwanted⟩ := h.exists_marked hclash
    obtain ⟨hcount, hreserved⟩ := halone word hword
    rw [← hwanted] at hcount hreserved
    have hpos := List.count_pos_iff.2 (cx.mem_candidates hm)
    exact hident (h.alone m hm (Nat.le_antisymm hcount hpos) hreserved)
  · obtain ⟨m, -, -, hmarked, -⟩ := h.exists_marked hclash
    exact hmarked (plainText_candidate hpascal m.key)

/-- A keyword and what would be the keyword with a number, each wanted once. -/
theorem unmarked_names_of_keyword_wanted_once :
    let cx : Context := ⟨.rust, .snake, false⟩
    let shape : Shape :=
      .object [⟨"type", .primitive .integer, false⟩, ⟨"type_2", .primitive .string, false⟩]
    let graph := (cx.resolve shape "Root").1
    (∀ d ∈ graph.declarations, d.members.map (·.ident) = ["r#type", "type_2"]) ∧
      ∀ d ∈ graph.declarations, (cx.unmarked d).Nodup := by
  intro cx shape graph
  have hwanted : ∀ d ∈ graph.declarations, cx.candidates d.members = ["r#type", "type_2"] := by
    decide +kernel
  have honce : ∀ keyword ∈ cx.language.keywords,
      ["r#type", "type_2"].count (cx.language.mark ++ keyword) ≤ 1 := by
    decide +kernel
  refine ⟨by decide +kernel, fun d hd => ?_⟩
  refine (nodup_unmarked_resolve_iff cx shape "Root" d hd).2.1 ?_
  intro keyword hkeyword
  rw [hwanted d hd]
  refine ⟨honce keyword hkeyword, ?_⟩
  rintro ⟨⟨⟩, -⟩

/-- Two keys that want the same keyword, and one that wants the keyword with a number. -/
theorem unmarked_names_of_keyword_wanted_twice :
    let cx : Context := ⟨.rust, .snake, false⟩
    let shape : Shape := .object [⟨"type", .primitive .integer, false⟩,
      ⟨"Type", .primitive .integer, false⟩, ⟨"type_2", .primitive .integer, false⟩]
    let graph := (cx.resolve shape "Root").1
    (∀ d ∈ graph.declarations, (d.members.map (·.key)).Nodup) ∧
      graph.declarations.map (fun d => d.members.map (·.ident))
        = [["r#type", "r#type_2", "type_2"]] ∧
      graph.declarations.map cx.unmarked = [["type", "type_2", "type_2"]] ∧
      ¬ ∀ d ∈ graph.declarations, (cx.unmarked d).Nodup := by
  intro cx shape graph
  refine ⟨?_, ?_, ?_, ?_⟩
  all_goals
    decide +kernel

end SampleTypes.Naming
