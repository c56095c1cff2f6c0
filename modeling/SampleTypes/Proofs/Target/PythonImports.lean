import SampleTypes.Proofs.Target.Emission
import SampleTypes.Proofs.Target.Lines
import SampleTypes.Proofs.Target.Literals
import SampleTypes.Proofs.Target.RootAlias

/-!
# Imports of Python

A Python module imports the decorator of its classes just if it has one, and the name of what is
unknown wherever a hint has it.

* `MentionsAny` reads the name off the text of a hint, `mentionsAny_of_iff` finds it there just if
  the type mentions what is unknown;
* `noLineOpens_text` goes through a class and those inside it: no line begins as an import, so that
  `Module.hasLine_text_iff` leaves the imports themselves;
* `importsMatch` is the main result.
-/

namespace SampleTypes.Target.Python

open Naming (Declaration Graph Member TypeRef)
open Text (IdentText)

/-! ### Hints -/

/-- The name of what is unknown stands in a hint, between its blanks and brackets. -/
def MentionsAny (hint : String) : Prop :=
  "Any".toList ∈ hint.toList.splitOnP fun c => " []".toList.contains c

instance (hint : String) : Decidable (MentionsAny hint) :=
  inferInstanceAs (Decidable (_ ∈ hint.toList.splitOnP fun c => " []".toList.contains c))

theorem mentionsAny_iff_of_notMem {s : String} (h : ∀ c ∈ " []".toList, c ∉ s.toList) :
    MentionsAny s ↔ s = "Any" := by
  have hword : ∀ c ∈ s.toList, " []".toList.contains c = false := by
    intro c hc
    rw [← Bool.not_eq_true, List.contains_iff_mem]
    exact fun hsign => h c hsign hc
  rw [MentionsAny, List.splitOnP_eq_singleton hword, List.mem_singleton, String.toList_inj, eq_comm]

theorem mentionsAny_list_iff (hint : String) :
    MentionsAny ("list[" ++ hint ++ "]") ↔ MentionsAny hint := by
  have hchars : ("list[" ++ hint ++ "]").toList
      = "list".toList ++ '[' :: (hint.toList ++ ']' :: []) := by
    simp
  have hlist : "Any".toList ∉ "list".toList.splitOnP fun c => " []".toList.contains c := by
    decide
  rw [MentionsAny, hchars, List.splitOnP_append_cons _ _ (by decide),
    List.splitOnP_append_cons _ _ (by decide), List.mem_append, List.mem_append, or_iff_right hlist,
    List.splitOnP_nil, or_iff_left (by decide)]
  rfl

/-- Of parts with a sign between blanks one has to mention it. -/
theorem mentionsAny_separated_iff {separator : String} (sign : String)
    (hseparator : separator = " " ++ sign ++ " ") (hsign : ¬ MentionsAny sign)
    (left right : String) :
    MentionsAny (left ++ separator ++ right) ↔ MentionsAny left ∨ MentionsAny right := by
  have hchars : (left ++ separator ++ right).toList
      = left.toList ++ ' ' :: (sign.toList ++ ' ' :: right.toList) := by
    rw [hseparator]
    simp
  rw [MentionsAny] at hsign
  rw [MentionsAny, hchars, List.splitOnP_append_cons _ _ (by decide),
    List.splitOnP_append_cons _ _ (by decide), List.mem_append, List.mem_append, or_iff_right hsign]
  rfl

theorem mentionsAny_alternatives_iff (hint more : String) :
    MentionsAny (hint ++ " | " ++ more) ↔ MentionsAny hint ∨ MentionsAny more :=
  mentionsAny_separated_iff "|" rfl (by decide) hint more

theorem mentionsAny_orNone_iff (hint : String) :
    MentionsAny (hint ++ " | None") ↔ MentionsAny hint := by
  have hnone : hint ++ " | None" = hint ++ " | " ++ "None" := by
    rw [String.append_assoc]
    rfl
  rw [hnone, mentionsAny_alternatives_iff, or_iff_left (by decide)]

theorem mentionsAny_intercalate_iff (hints : List String) :
    MentionsAny (" | ".intercalate hints) ↔ ∃ hint ∈ hints, MentionsAny hint := by
  induction hints with
  | nil => simp [MentionsAny]
  | cons hint hints ih =>
    cases hints with
    | nil => simp
    | cons next hints =>
      rw [String.intercalate_cons_cons, mentionsAny_alternatives_iff, List.exists_mem_cons_iff]
      exact or_congr_right ih

/-- What holds of the characters of parts and separator holds of those of the whole. -/
theorem forall_mem_toList_intercalate {P : Char → Prop} {separator : String}
    (hseparator : ∀ c ∈ separator.toList, P c) {parts : List String}
    (h : ∀ part ∈ parts, ∀ c ∈ part.toList, P c) :
    ∀ c ∈ (separator.intercalate parts).toList, P c := by
  induction parts with
  | nil => simp
  | cons part parts ih =>
    rw [List.forall_mem_cons] at h
    cases parts with
    | nil =>
      rw [String.intercalate_singleton]
      exact h.1
    | cons next parts =>
      rw [String.intercalate_cons_cons, String.toList_append, String.toList_append,
        List.forall_mem_append, List.forall_mem_append]
      exact ⟨⟨h.1, hseparator⟩, ih h.2⟩

/-- A character of hints: one of identifiers, or a sign. -/
def HintChar (c : Char) : Prop :=
  Text.IdentChar c ∨ c ∈ ". []|".toList

instance : DecidablePred HintChar :=
  fun _ => inferInstanceAs (Decidable (_ ∨ _))

theorem mentionsAny_dotted_iff {path : List String} (h : ∀ part ∈ path, IdentText part) :
    MentionsAny (".".intercalate path) ↔ path = ["Any"] := by
  rw [mentionsAny_iff_of_notMem]
  · constructor
    · intro hany
      cases path with
      | nil => exact absurd hany (by decide)
      | cons first path =>
        cases path with
        | nil => rw [← hany, String.intercalate_singleton]
        | cons next path =>
          have hdot : '.' ∈ "Any".toList := by
            rw [← hany, String.intercalate_cons_cons]
            simp
          exact absurd hdot (by decide)
    · rintro rfl
      rfl
  · intro c hsign hc
    have hchar : ∀ c ∈ (".".intercalate path).toList, Text.IdentChar c ∨ c ∈ ".".toList :=
      forall_mem_toList_intercalate (fun c hdot => .inr hdot) fun part hpart c hc =>
        .inl (h part hpart c hc)
    have hsigns : ∀ c ∈ " []".toList, ¬ (Text.IdentChar c ∨ c ∈ ".".toList) :=
      forall_mem_of_all (by decide)
    exact hsigns c hsign (hchar c hc)

/-! ### Types -/

section Types

variable {reference : Nat → List String}

mutual

/-- **A hint mentions it just if the type does**, where nothing else has its name. -/
theorem mentionsAny_of_iff : (t : TypeRef) →
    (∀ id ∈ t.references, (∀ part ∈ reference id, IdentText part) ∧ reference id ≠ ["Any"]) →
    (MentionsAny (TypeHint.of reference t).text ↔ t.mentionsUnknown)
  | .unknown, _ => by
    rw [TypeHint.of]
    decide
  | .primitive kind, _ => by
    rw [TypeHint.of]
    cases kind <;> decide
  | .declared id, h => by
    obtain ⟨hparts, hne⟩ := h id List.mem_cons_self
    rw [TypeHint.of, TypeHint.text, mentionsAny_dotted_iff hparts]
    exact iff_of_false hne (by simp [TypeRef.mentionsUnknown])
  | .array t, h => by
    rw [TypeHint.of, TypeHint.text, mentionsAny_list_iff]
    exact mentionsAny_of_iff t h
  | .nullable t, h => by
    rw [TypeHint.of, TypeHint.text, mentionsAny_orNone_iff]
    exact mentionsAny_of_iff t h
  | .union ts, h => by
    rw [TypeHint.of, TypeHint.text, mentionsAny_intercalate_iff]
    exact exists_mentionsAny_iff ts h

theorem exists_mentionsAny_iff : (ts : List TypeRef) →
    (∀ id ∈ TypeRef.referencesOf ts,
      (∀ part ∈ reference id, IdentText part) ∧ reference id ≠ ["Any"]) →
    ((∃ hint ∈ TypeHint.texts (TypeHint.ofArms reference ts), MentionsAny hint) ↔
      TypeRef.anyMentionsUnknown ts)
  | [], _ => by
    simp [TypeHint.ofArms, TypeHint.texts, TypeRef.anyMentionsUnknown]
  | t :: ts, h => by
    rw [TypeRef.referencesOf, List.forall_mem_append] at h
    rw [TypeHint.ofArms, TypeHint.texts, List.exists_mem_cons_iff, TypeRef.anyMentionsUnknown,
      Bool.or_eq_true, mentionsAny_of_iff t h.1, exists_mentionsAny_iff ts h.2]

end

mutual

/-- The text of a hint has the characters of identifiers, and signs. -/
theorem hintChar_text_of : (t : TypeRef) →
    (∀ id ∈ t.references, ∀ part ∈ reference id, IdentText part) →
    ∀ c ∈ (TypeHint.of reference t).text.toList, HintChar c
  | .unknown, _ => by
    rw [TypeHint.of, TypeHint.text]
    exact forall_mem_of_all (by decide)
  | .primitive kind, _ => by
    rw [TypeHint.of, TypeHint.text]
    cases kind <;> exact forall_mem_of_all (by decide)
  | .declared id, h => by
    rw [TypeHint.of, TypeHint.text]
    refine forall_mem_toList_intercalate (forall_mem_of_all (by decide)) fun part hpart c hc => ?_
    exact .inl (h id List.mem_cons_self part hpart c hc)
  | .array t, h => by
    rw [TypeHint.of, TypeHint.text, String.toList_append, String.toList_append,
      List.forall_mem_append, List.forall_mem_append]
    exact ⟨⟨forall_mem_of_all (by decide), hintChar_text_of t h⟩, forall_mem_of_all (by decide)⟩
  | .nullable t, h => by
    rw [TypeHint.of, TypeHint.text, String.toList_append, List.forall_mem_append]
    exact ⟨hintChar_text_of t h, forall_mem_of_all (by decide)⟩
  | .union ts, h => by
    rw [TypeHint.of, TypeHint.text]
    exact forall_mem_toList_intercalate (forall_mem_of_all (by decide)) (hintChar_texts_ofArms ts h)

theorem hintChar_texts_ofArms : (ts : List TypeRef) →
    (∀ id ∈ TypeRef.referencesOf ts, ∀ part ∈ reference id, IdentText part) →
    ∀ hint ∈ TypeHint.texts (TypeHint.ofArms reference ts), ∀ c ∈ hint.toList, HintChar c
  | [], _ => by
    rintro hint ⟨⟩
  | t :: ts, h => by
    rw [TypeRef.referencesOf, List.forall_mem_append] at h
    rw [TypeHint.ofArms, TypeHint.texts, List.forall_mem_cons]
    exact ⟨hintChar_text_of t h.1, hintChar_texts_ofArms ts h.2⟩

end

end Types

/-- Beside its type, the hint of a field has what allows for none. -/
theorem text_hint_field (reference : Nat → List String) (m : Member) :
    ∃ ending : String, (ClassField.of reference m).hint.text
        = (TypeHint.of reference m.type).text ++ ending ∧ (ending = "" ∨ ending = " | None") := by
  unfold ClassField.of
  dsimp only
  split
  · exact ⟨" | None", rfl, .inr rfl⟩
  · exact ⟨"", by rw [String.append_empty], .inl rfl⟩

/-! ### Lines -/

/-- The names and hints in a class, but for those inside it, have the characters of hints. -/
structure Class.Named (c : Class) : Prop where
  name : IdentText c.name
  idents : ∀ f ∈ c.fields, IdentText f.ident
  hints : ∀ f ∈ c.fields, ∀ d ∈ f.hint.text.toList, HintChar d

theorem newline_notMem_of_hintChar {s : String} (h : ∀ c ∈ s.toList, HintChar c) :
    '\n' ∉ s.toList :=
  fun hmem => absurd (h _ hmem) (by decide)

/-- **No line of a class begins as an import**, if none of those inside it does. -/
theorem noLineOpens_text {c : Class} (h : c.Named) (level : Nat)
    (hinside : ∀ e ∈ c.nested, NoLineOpens 'f' (e.text (level + 1))) :
    NoLineOpens 'f' (c.text level) := by
  obtain ⟨name, nested, fields⟩ := c
  have hname : '\n' ∉ name.toList := notMem_of_identText h.name (by decide)
  have hpad : NoLineOpens 'f' (indent level 4) := noLineOpens_indent (by decide) level 4
  have hfields : ∀ part ∈ fields.map (ClassField.text (level + 1)), NoLineOpens 'f' part := by
    rw [List.forall_mem_map]
    intro f hf
    have hident : '\n' ∉ f.ident.toList := notMem_of_identText (h.idents f hf) (by decide)
    have hhint : '\n' ∉ f.hint.text.toList := newline_notMem_of_hintChar (h.hints f hf)
    have hdefault : '\n' ∉ (if f.defaultsToNone then " = None" else "").toList := by
      split <;> decide
    rw [ClassField.text]
    simp only [String.append_assoc]
    apply noLineOpens_indent_append (by decide)
    simp only [String.toList_append, List.mem_append, not_or]
    exact ⟨hident, by decide, hhint, hdefault⟩
  have hsections : ∀ part ∈ Class.texts (level + 1) nested ++ (if fields.isEmpty then []
      else ["\n".intercalate (fields.map (ClassField.text (level + 1)))]),
        NoLineOpens 'f' part := by
    rw [List.forall_mem_append, texts_eq_map, List.forall_mem_map]
    refine ⟨hinside, ?_⟩
    split
    · rintro part ⟨⟩
    · rw [List.forall_mem_singleton]
      exact noLineOpens_intercalate (by decide) hfields
  have hopening : NoLineOpens 'f' (indent level 4 ++ "@dataclass(kw_only=True)\n"
      ++ indent level 4 ++ "class" ++ " ") :=
    (((hpad.append (by decide)).append hpad).append (by decide)).append (by decide)
  have hbody : ∀ sections : List String, (∀ part ∈ sections, NoLineOpens 'f' part) →
      ∀ part ∈ (if sections.isEmpty then [indent (level + 1) 4 ++ "pass"] else sections),
        NoLineOpens 'f' part := by
    intro sections hall
    split
    · rw [List.forall_mem_singleton]
      exact noLineOpens_indent_append (by decide) level (by decide)
    · exact hall
  have hclass : "class " = "class" ++ " " := rfl
  rw [Class.text, hclass, ← String.append_assoc]
  exact ((hopening.append_blank hname).append (by decide)).append
    (noLineOpens_intercalate (by decide) (hbody _ hsections))

theorem mem_imports_iff {m : Module} {line : String} :
    line ∈ m.imports ↔ (line = "from dataclasses import dataclass" ∧ m.classes ≠ []) ∨
      (line = "from typing import Any" ∧ m.usesAny) := by
  rw [Module.imports, List.mem_append]
  cases m.classes <;> cases m.usesAny <;> simp

/-- **The lines of a module** are its imports, the lines of its classes, and its alias. -/
theorem Module.hasLine_text_iff (m : Module) {line : String} (hne : line ≠ "") :
    HasLine m.text line ↔ line = "from __future__ import annotations" ∨ line ∈ m.imports ∨
      (∃ c ∈ m.classes, HasLine (c.text 0) line) ∨
        ∃ a ∈ m.rootAlias, HasLine (a.1 ++ " = " ++ a.2.text) line := by
  have hnewline : '\n' ∉ "from __future__ import annotations".toList := by
    decide
  have hfuture : HasLine "from __future__ import annotations" line ↔
      line = "from __future__ import annotations" := hasLine_iff_eq hnewline
  have himports : ∀ i ∈ m.imports, HasLine i line ↔ line = i := by
    intro i hi
    rcases mem_imports_iff.1 hi with ⟨rfl, -⟩ | ⟨rfl, -⟩
    · exact hasLine_iff_eq (by decide)
    · exact hasLine_iff_eq (by decide)
  have hhead : HasLine ("from __future__ import annotations" ++ (if m.imports.isEmpty then ""
      else "\n\n" ++ "\n".intercalate m.imports)) line ↔
        line = "from __future__ import annotations" ∨ line ∈ m.imports := by
    have hall : HasLine ("\n".intercalate m.imports) line ↔ line ∈ m.imports := by
      refine (hasLine_intercalate_iff hne hasLine_append_newline_iff m.imports).trans ?_
      refine ⟨?_, fun hmem => ⟨line, hmem, (himports line hmem).2 rfl⟩⟩
      rintro ⟨i, hi, hlines⟩
      rwa [(himports i hi).1 hlines]
    split
    · rename_i hempty
      rw [String.append_empty, List.isEmpty_iff.1 hempty]
      exact hfuture.trans (by simp)
    · rw [← String.append_assoc]
      exact (hasLine_append_blank_line_iff hne _ _).trans (or_congr hfuture hall)
  delta Module.text
  dsimp only
  rw [hasLine_append_end_iff hne, hasLine_append_blank_lines_iff hne, hhead,
    hasLine_intercalate_iff hne (hasLine_append_blank_lines_iff hne), texts_eq_map]
  simp only [List.mem_append, or_and_right, exists_or, or_assoc]
  simp

/-! ### Graphs -/

/-- The imports of a text are those for its classes, and for what is unknown in hints. -/
structure ImportsMatch (settings : Settings) (graph : Graph) (text : String) : Prop where
  classes : HasLine text "from dataclasses import dataclass" ↔
    HasLine text "@dataclass(kw_only=True)"
  /-- There is a class for each declaration, so that this is also when there is one. -/
  declarations : HasLine text "from dataclasses import dataclass" ↔ graph.declarations ≠ []
  unknown : ((∃ d ∈ graph.declarations, ∃ m ∈ d.members,
      MentionsAny (ClassField.of (settings.path graph) m).hint.text) ∨
    ∃ line ∈ Language.python.alias? settings graph, MentionsAny line) →
      HasLine text "from typing import Any"
  /-- The root counts here even where it leads to a class and is not written. -/
  unknown_only : HasLine text "from typing import Any" →
    (∃ d ∈ graph.declarations, ∃ m ∈ d.members,
      MentionsAny (ClassField.of (settings.path graph) m).hint.text) ∨
    MentionsAny (Language.python.rootText graph)

theorem eq_of_mem_rootAlias {settings : Settings} {graph : Graph} {a : String × TypeHint}
    (h : a ∈ (Module.of settings graph).rootAlias) :
    a = (graph.rootName, TypeHint.of (fun id => [graph.nameOf id]) graph.root) := by
  have halias : (Module.of settings graph).rootAlias = if graph.needsAlias then
      some (graph.rootName, TypeHint.of (fun id => [graph.nameOf id]) graph.root) else none := rfl
  rw [halias] at h
  split at h
  · exact (Option.some.inj h).symm
  · cases h

/-- A module has classes just if the graph has declarations. -/
theorem classes_eq_nil_iff {settings : Settings} {graph : Graph} {order : List Declaration}
    {top : List Class} {text : String} {block : Declaration → Class}
    (hblocks : Blocks form settings graph order top text block) :
    top = [] ↔ graph.declarations = [] := by
  obtain ⟨entries, hlisted, hperm⟩ := hblocks.once
  have hentries : entries = [] ↔ graph.declarations = [] := by
    rw [← List.length_eq_zero_iff, hperm.length_eq, List.length_map, List.length_eq_zero_iff]
  rw [← hentries]
  cases hlisted with
  | nil => simp
  | cons => simp

section Alias

variable {settings : Settings} {graph : Graph} (hroot : IdentText graph.rootName)
  (hnames : ∀ id, IdentText (graph.nameOf id))

include hroot hnames

/-- The alias is one line, and has a sign in it that is in no other line. -/
theorem hasLine_alias {line : String} {a : String × TypeHint}
    (ha : a ∈ (Module.of settings graph).rootAlias)
    (hline : HasLine (a.1 ++ " = " ++ a.2.text) line) : '=' ∈ line.toList ∧ '(' ∉ line.toList := by
  have hchars : ∀ c ∈ a.1.toList ++ a.2.text.toList, HintChar c := by
    rw [eq_of_mem_rootAlias ha, List.forall_mem_append]
    refine ⟨fun c hc => .inl (hroot c hc), hintChar_text_of graph.root fun id _ => ?_⟩
    exact List.forall_mem_singleton.2 (hnames id)
  have hnone : ∀ c, ¬ HintChar c → c ∉ " = ".toList → c ∉ (a.1 ++ " = " ++ a.2.text).toList := by
    intro c hc hsign
    rw [List.forall_mem_append] at hchars
    simp only [String.toList_append, List.mem_append, not_or]
    exact ⟨⟨fun h => hc (hchars.1 c h), hsign⟩, fun h => hc (hchars.2 c h)⟩
  rw [hasLine_iff_eq (hnone '\n' (by decide) (by decide))] at hline
  subst hline
  exact ⟨by simp, hnone '(' (by decide) (by decide)⟩

/-- The decorator stands on the outermost level as soon as there is a class. -/
theorem hasLine_decorator_iff :
    HasLine (Module.of settings graph).text "@dataclass(kw_only=True)" ↔
      (Module.of settings graph).classes ≠ [] := by
  rw [Module.hasLine_text_iff _ (by decide)]
  constructor
  · rintro (h | h | ⟨c, hc, -⟩ | ⟨a, ha, hlines⟩)
    · exact absurd h (by decide)
    · rcases mem_imports_iff.1 h with ⟨h, -⟩ | ⟨h, -⟩ <;> exact absurd h (by decide)
    · exact List.ne_nil_of_mem hc
    · exact absurd (by decide) (hasLine_alias hroot hnames ha hlines).2
  · intro h
    obtain ⟨c, hc⟩ := List.exists_mem_of_ne_nil _ h
    refine .inr (.inr (.inl ⟨c, hc, ?_⟩))
    have hindent : indent 0 4 = "" := rfl
    have hopening : "@dataclass(kw_only=True)\n" = "@dataclass(kw_only=True)" ++ "\n" := rfl
    obtain ⟨name, nested, fields⟩ := c
    rw [Class.text, hindent, String.empty_append, hopening]
    simp only [String.append_assoc]
    rw [← String.append_assoc, hasLine_append_newline_iff]
    exact .inl ((hasLine_iff_eq (by decide)).2 rfl)

end Alias

section Graph

variable {settings : Settings} {graph : Graph} {block : Declaration → Class}
  (hblocks : Blocks form settings graph (rootAtEnd graph (settings.topLevel graph))
    (Module.of settings graph).classes (Module.of settings graph).text block)
  (hfields : ∀ d ∈ graph.declarations,
    (block d).fields = d.members.map (ClassField.of (settings.path graph)))
  (hheader : ∀ id, IdentText (settings.header graph id))
  (hidents : ∀ d ∈ graph.declarations, ∀ m ∈ d.members, IdentText m.ident)

include hblocks hfields hheader hidents

theorem noLineOpens_classes :
    ∀ c ∈ (Module.of settings graph).classes, NoLineOpens 'f' (c.text 0) := by
  obtain ⟨entries, hlisted, hperm⟩ := hblocks.once
  refine hlisted.forall_of_step (Q := Class.Named)
    (P := fun level c => NoLineOpens 'f' (c.text level))
    (fun level c hc hinside => noLineOpens_text hc level hinside) ?_
  intro e he
  obtain ⟨d, hd, rfl⟩ := List.mem_map.1 (hperm.subset he)
  have hname : (block d).name = settings.header graph d.id := hblocks.name d hd
  have hpath : ∀ id, ∀ part ∈ settings.path graph id, IdentText part := by
    intro id
    rw [Settings.path, List.forall_mem_map]
    exact fun id _ => hheader id
  constructor
  · rw [hname]
    exact hheader d.id
  · rw [hfields d hd, List.forall_mem_map]
    exact hidents d hd
  · rw [hfields d hd, List.forall_mem_map]
    intro m _
    obtain ⟨ending, htext, hending⟩ := text_hint_field (settings.path graph) m
    rw [htext, String.toList_append, List.forall_mem_append]
    refine ⟨hintChar_text_of m.type fun id _ => hpath id, ?_⟩
    rcases hending with rfl | rfl <;> exact forall_mem_of_all (by decide)

variable (hroot : IdentText graph.rootName) (hnames : ∀ id, IdentText (graph.nameOf id))

include hroot hnames

/-- A line with the letter of the imports, and without the sign of an alias, is one of them. -/
theorem hasLine_import_iff {line : String} (hline : line.toList.head? = some 'f')
    (hsign : '=' ∉ line.toList) (hfuture : line ≠ "from __future__ import annotations") :
    HasLine (Module.of settings graph).text line ↔ line ∈ (Module.of settings graph).imports := by
  have hne : line ≠ "" := by
    rintro rfl
    cases hline
  rw [Module.hasLine_text_iff _ hne, or_iff_right hfuture, or_iff_left]
  rintro (⟨c, hc, hlines⟩ | ⟨a, ha, hlines⟩)
  · exact (noLineOpens_classes hblocks hfields hheader hidents c hc).not_hasLine hline hlines
  · exact hsign (hasLine_alias hroot hnames ha hlines).1

/-- **The imports are those for what is written.** -/
theorem importsMatch (hany : ∀ id, graph.nameOf id ≠ "Any") (hrootAny : graph.rootName ≠ "Any")
    (hpath : ∀ d ∈ graph.declarations, ∀ m ∈ d.members, ∀ id ∈ m.type.references,
      settings.path graph id ≠ ["Any"]) :
    ImportsMatch settings graph (Module.of settings graph).text := by
  have himport : ∀ line : String, line.toList.head? = some 'f' → '=' ∉ line.toList →
      line ≠ "from __future__ import annotations" →
      (HasLine (Module.of settings graph).text line ↔ line ∈ (Module.of settings graph).imports) :=
    fun _ => hasLine_import_iff hblocks hfields hheader hidents hroot hnames
  have hparts : ∀ id, ∀ part ∈ settings.path graph id, IdentText part := by
    intro id
    rw [Settings.path, List.forall_mem_map]
    exact fun id _ => hheader id
  have hdataclass : HasLine (Module.of settings graph).text "from dataclasses import dataclass" ↔
      (Module.of settings graph).classes ≠ [] := by
    rw [himport _ (by decide) (by decide) (by decide), mem_imports_iff]
    simp
  have hunknown : HasLine (Module.of settings graph).text "from typing import Any" ↔
      graph.mentionsUnknown := by
    rw [himport _ (by decide) (by decide) (by decide), mem_imports_iff]
    simp [Module.of]
  have hmember : ∀ d ∈ graph.declarations, ∀ m ∈ d.members,
      (MentionsAny (ClassField.of (settings.path graph) m).hint.text ↔ m.type.mentionsUnknown) := by
    intro d hd m hm
    rw [← mentionsAny_of_iff m.type fun id hid => ⟨hparts id, hpath d hd m hm id hid⟩]
    obtain ⟨ending, htext, rfl | rfl⟩ := text_hint_field (settings.path graph) m
    · rw [htext, String.append_empty]
    · rw [htext, mentionsAny_orNone_iff]
  have hrootText : MentionsAny (Language.python.rootText graph) ↔ graph.root.mentionsUnknown := by
    refine mentionsAny_of_iff graph.root fun id _ => ⟨?_, ?_⟩
    · exact List.forall_mem_singleton.2 (hnames id)
    · simpa using hany id
  have hname_any : MentionsAny graph.rootName ↔ graph.rootName = "Any" := by
    refine mentionsAny_iff_of_notMem fun c hc => notMem_of_identText hroot ?_
    exact forall_mem_of_all (P := fun c => ¬ Text.IdentChar c) (by decide) c hc
  have halias : MentionsAny (graph.rootName ++ " = " ++ Language.python.rootText graph) ↔
      MentionsAny graph.rootName ∨ MentionsAny (Language.python.rootText graph) :=
    mentionsAny_separated_iff "=" rfl (by decide) _ _
  have hgraph : graph.mentionsUnknown ↔ graph.root.mentionsUnknown ∨
      ∃ d ∈ graph.declarations, ∃ m ∈ d.members, m.type.mentionsUnknown := by
    simp [Graph.mentionsUnknown]
  constructor
  · rw [hdataclass, hasLine_decorator_iff hroot hnames]
  · rw [hdataclass, Ne, classes_eq_nil_iff hblocks]
  · rw [hunknown, hgraph]
    rintro (⟨d, hd, m, hm, hmentions⟩ | ⟨line, hline, hmentions⟩)
    · exact .inr ⟨d, hd, m, hm, (hmember d hd m hm).1 hmentions⟩
    · obtain ⟨a, ha, rfl⟩ := Option.map_eq_some_iff.1 hline
      rw [eq_of_mem_rootAlias ha] at hmentions
      rcases halias.1 hmentions with hname | hmentions
      · exact absurd (hname_any.1 hname) hrootAny
      · exact .inl (hrootText.1 hmentions)
  · rw [hunknown, hgraph]
    rintro (hmentions | ⟨d, hd, m, hm, hmentions⟩)
    · exact .inr (hrootText.2 hmentions)
    · exact .inl ⟨d, hd, m, hm, (hmember d hd m hm).2 hmentions⟩

end Graph

end SampleTypes.Target.Python
