import SampleTypes.Proofs.Json.DistinctKeys
import SampleTypes.Proofs.Naming.UnmarkedNames
import SampleTypes.Proofs.Target.Emission
import SampleTypes.Proofs.Target.Lines
import SampleTypes.Proofs.Target.Literals
import SampleTypes.Proofs.Target.OwnNames

/-!
# Names of members for the serializer

A member is known by the string literal in its attribute, or, where it has none, by its identifier
without the mark.

* `CSharp.jsonName?` reads the name off the text of a member, `CSharp.jsonName?_text` finds the key
  there;
* `CSharp.jsonName_eq_key_iff` is the main result.
-/

namespace SampleTypes

open Json (Value)
open Naming (Declares Graph Member TypeRef)

namespace Target

theorem identText_nestedName (convention : Ident.Convention) (siblings : List Member)
    {name : String} (h : Text.IdentText name) :
    Text.IdentText (nestedName convention siblings name) := by
  unfold nestedName
  split
  · have hwords : ∀ w ∈ (Ident.splitWords name ++ ["type"]).map String.toList,
        ∀ c ∈ w, Text.isAlphanumeric c := by
      rw [Ident.splitWords, List.map_append, List.map_map, List.forall_mem_append]
      constructor
      · rw [List.forall_mem_map]
        intro w hw
        rw [Function.comp_apply, String.toList_ofList]
        exact Ident.isAlphanumeric_of_mem_words _ w hw
      · exact List.forall_mem_singleton.2 (forall_mem_of_all (by decide))
    intro c hc
    rw [Ident.Convention.join, String.toList_ofList] at hc
    have hplain := Ident.caseMaps_plainChar.forall_mem_joinChars (by decide) convention hwords
    exact (hplain c hc).identChar
  · exact h

/-- What a declaration is called may stand in an identifier. -/
theorem identText_header (settings : Settings) (language : Language) (shape : Shape) (id : Nat) :
    Text.IdentText (settings.header (settings.graph language shape) id) := by
  have hname : ∀ id, Text.IdentText ((settings.graph language shape).nameOf id) :=
    Naming.identText_nameOf (settings.naming language) shape settings.rootName
  unfold Settings.header
  split
  · exact hname id
  · split
    · exact hname id
    · exact identText_nestedName _ _ (hname id)

/-- The last word of a text. -/
def lastWord (cs : List Char) : String :=
  String.ofList (cs.reverse.takeWhile (· != ' ')).reverse

theorem lastWord_append (before : List Char) {word : String} (h : ' ' ∉ word.toList) :
    lastWord (before ++ ' ' :: word.toList) = word := by
  have hword : ∀ c ∈ word.toList.reverse, (c != ' ') = true :=
    forall_bne_of_notMem (mt List.mem_reverse.1 h)
  have hchars : (before ++ ' ' :: word.toList).reverse
      = word.toList.reverse ++ ' ' :: before.reverse := by
    simp
  rw [lastWord, hchars, List.takeWhile_append_of_pos hword]
  simp

namespace CSharp

/-! ### Identifiers -/

theorem dropWhile_mark {word : String} (h : Text.PlainText word) :
    word.toList.dropWhile (· == '@') = word.toList := by
  cases hword : word.toList with
  | nil => rfl
  | cons c cs =>
    have hc : Text.PlainChar c := h c (by rw [hword]; exact List.mem_cons_self)
    have hne : (c == '@') = false := by
      rw [beq_eq_false_iff_ne]
      rintro rfl
      exact absurd hc (by decide)
    rw [List.dropWhile_cons_of_neg (by simp [hne])]

/-- Of an identifier with at most one mark, all marks are taken where one is. -/
theorem unescaped_eq_withoutMark {ident : String} (h : Text.PlainText ident ∨
    ∃ word, Text.PlainText word ∧ ident = Language.csharp.mark ++ word) :
    unescaped ident = Language.csharp.withoutMark ident := by
  rcases h with hplain | ⟨word, hplain, rfl⟩
  · rw [unescaped, dropWhile_mark hplain, String.ofList_toList,
      Language.withoutMark_of_plainText hplain]
  · have hmark : (Language.csharp.mark ++ word).toList = '@' :: word.toList := by
      rw [String.toList_append]
      rfl
    rw [Language.withoutMark_append, unescaped, hmark, List.dropWhile_cons_of_pos (by decide),
      dropWhile_mark hplain, String.ofList_toList]

/-- How the attribute of a member begins. -/
def attributeOpening : DeclarationKind → String
  | .record => "[property: JsonPropertyName("
  | _ => "[JsonPropertyName("

/-- What comes after the identifier of a member. -/
def accessors : DeclarationKind → String
  | .record => ""
  | _ => " \x7b get; set; \x7d"

/--
The name that the serializer knows a member by, read off the text of the member.  It is none when
the argument of the attribute is no string literal.
-/
def jsonName? (kind : DeclarationKind) (member : List Char) : Option String :=
  let line := member.dropWhile (· == ' ')
  match line.dropPrefix? (attributeOpening kind).toList with
  | some argument =>
    (literalSyntax.read argument).bind fun r =>
      if ")]".toList.isPrefixOf r.2 then some r.1 else none
  | none =>
    (member.dropSuffix? (accessors kind).toList).map fun own =>
      Language.csharp.withoutMark (lastWord own)

/-- The name is in the attribute, if that is there. -/
theorem jsonName?_of_attribute (kind : DeclarationKind) (level : Nat) (key : String)
    (rest : List Char) :
    jsonName? kind ((indent level 4).toList ++ ((attributeOpening kind).toList
        ++ ((stringLiteral key).toList ++ (")]".toList ++ rest))))
      = if hasSeparator key then none else some key := by
  have hhead : ∀ more, ((attributeOpening kind).toList ++ more).head? ≠ some ' ' := by
    intro more
    cases kind <;> simp [attributeOpening]
  have hclosed : ")]".toList.isPrefixOf (")]".toList ++ rest) := by
    rw [List.isPrefixOf_iff_prefix]
    exact List.prefix_append _ _
  rw [jsonName?, dropWhile_indent _ _ (hhead _),
    List.dropPrefix?_append_of_beq _ (beq_self_eq_true _)]
  simp only
  rw [read_stringLiteral]
  split
  · rfl
  · rw [Option.bind_some, if_pos hclosed]

/-- Without an attribute the name is the identifier. -/
theorem jsonName?_of_ident {kind : DeclarationKind} {before : List Char} {ident : String}
    (hbracket : '[' ∉ before ++ ' ' :: ident.toList ++ (accessors kind).toList)
    (hident : ' ' ∉ ident.toList) :
    jsonName? kind (before ++ ' ' :: ident.toList ++ (accessors kind).toList)
      = some (Language.csharp.withoutMark ident) := by
  have hopening : '[' ∈ (attributeOpening kind).toList := by
    cases kind <;> decide
  have hnone : ((before ++ ' ' :: ident.toList ++ (accessors kind).toList).dropWhile
      (· == ' ')).dropPrefix? (attributeOpening kind).toList = none := by
    rw [Option.eq_none_iff_forall_ne_some]
    intro rest hsome
    obtain ⟨opening, hline, hsame⟩ := List.dropPrefix?_eq_some_iff.1 hsome
    rw [eq_of_beq hsame] at hline
    have hmem : '[' ∈ (attributeOpening kind).toList ++ rest := List.mem_append_left _ hopening
    rw [← hline] at hmem
    exact hbracket ((List.dropWhile_suffix _).subset hmem)
  have hown : (before ++ ' ' :: ident.toList ++ (accessors kind).toList).dropSuffix?
      (accessors kind).toList = some (before ++ ' ' :: ident.toList) :=
    List.dropSuffix?_eq_some_iff.2 ⟨_, rfl, beq_self_eq_true _⟩
  rw [jsonName?]
  simp only [hnone, hown]
  rw [Option.map_some, lastWord_append before hident]

/-! ### Types -/

/-- The names in a type may stand in identifiers, as those of declarations may. -/
theorem identText_of_mem_names {reference : Nat → String}
    (href : ∀ id, Text.IdentText (reference id)) : (t : TypeRef) →
    ∀ name ∈ (TypeExpr.of reference t).names, Text.IdentText name
  | .unknown | .union _ => by
    rw [TypeExpr.of]
    decide
  | .primitive kind => by
    rw [TypeExpr.of]
    cases kind <;> decide
  | .declared id => by
    rw [TypeExpr.of, TypeExpr.names]
    exact List.forall_mem_singleton.2 (href id)
  | .array t => by
    rw [TypeExpr.of, TypeExpr.names, List.forall_mem_cons]
    exact ⟨by decide, identText_of_mem_names href t⟩
  | .nullable t => by
    rw [TypeExpr.of, TypeExpr.names_orNull]
    exact identText_of_mem_names href t

/-- The names in the type of a property are those in the type of the member. -/
theorem Property.names_type (reference : Nat → String) (m : Member) :
    (Property.of reference m).type.names = (TypeExpr.of reference m.type).names := by
  unfold Property.of
  dsimp only
  split
  · rw [TypeExpr.names_orNull]
  · rfl

/-- The text of a type has the characters of its names, and signs. -/
theorem TypeExpr.mem_text {t : TypeExpr} {c : Char} (h : c ∈ t.text.toList) :
    (∃ name ∈ t.names, c ∈ name.toList) ∨ c ∈ "<>?".toList := by
  induction t with
  | name text => exact .inl ⟨text, List.mem_singleton_self text, h⟩
  | list element ih =>
    have hlist : "List<".toList = "List".toList ++ ['<'] := rfl
    rw [text, String.toList_append, String.toList_append, hlist] at h
    simp only [List.mem_append, List.mem_singleton] at h
    rcases h with ((h | rfl) | h) | h
    · exact .inl ⟨"List", List.mem_cons_self, h⟩
    · exact .inr (by decide)
    · refine (ih h).imp_left ?_
      rintro ⟨own, hown, hc⟩
      exact ⟨own, List.mem_cons_of_mem _ hown, hc⟩
    · rw [List.mem_singleton.1 h]
      exact .inr (by decide)
  | nullable inner ih =>
    rw [text, String.toList_append, List.mem_append] at h
    rcases h with h | h
    · exact ih h
    · rw [List.mem_singleton.1 h]
      exact .inr (by decide)

theorem TypeExpr.notMem_text {t : TypeExpr} (hnames : ∀ name ∈ t.names, Text.IdentText name)
    {c : Char} (hc : ¬ Text.IdentChar c) (hsign : c ∉ "<>?".toList) : c ∉ t.text.toList := by
  intro hmem
  rcases TypeExpr.mem_text hmem with ⟨own, hown, hchar⟩ | h
  · exact hc (hnames own hown c hchar)
  · exact hsign h

/-- What comes before the type of a member, after its attribute. -/
def modifier : DeclarationKind → String
  | .record => ""
  | _ => "public "

/-- A member without an attribute. -/
theorem Property.text_of_none {p : Property} (h : p.jsonName = none) (kind : DeclarationKind)
    (level : Nat) : p.text kind level
      = indent level 4 ++ modifier kind ++ p.type.text ++ " " ++ p.ident ++ accessors kind := by
  have hmember : p.memberText level
      = indent level 4 ++ "public " ++ p.type.text ++ " " ++ p.ident ++ " \x7b get; set; \x7d" := by
    unfold memberText
    dsimp only
    rw [h, Option.map_none, Option.getD_none, String.empty_append]
  have hparameter : p.parameterText level
      = indent level 4 ++ "" ++ p.type.text ++ " " ++ p.ident ++ "" := by
    unfold parameterText
    dsimp only
    rw [h, Option.map_none, Option.getD_none, String.append_empty, String.append_empty]
  cases kind with
  | record => exact hparameter
  | plainClass | struct => exact hmember

theorem Property.memberText_of_some {p : Property} {key : String} (h : p.jsonName = some key)
    (level : Nat) : p.memberText level = indent level 4 ++ ("[JsonPropertyName("
      ++ (stringLiteral key ++ (")]" ++ ("\n" ++ indent level 4 ++ "public " ++ p.type.text ++ " "
        ++ p.ident ++ " \x7b get; set; \x7d")))) := by
  have hopening : "[JsonPropertyName(" = "[" ++ "JsonPropertyName(" := rfl
  have hclose : ")]" = ")" ++ "]" := rfl
  have hend : "]\n" = "]" ++ "\n" := rfl
  unfold memberText attributeText
  dsimp only
  rw [h, Option.map_some, Option.getD_some, hopening, hclose, hend]
  simp only [String.append_assoc]

theorem Property.parameterText_of_some {p : Property} {key : String} (h : p.jsonName = some key)
    (level : Nat) : p.parameterText level = indent level 4 ++ ("[property: JsonPropertyName("
      ++ (stringLiteral key ++ (")]" ++ (" " ++ p.type.text ++ " " ++ p.ident)))) := by
  have hopening : "[property: JsonPropertyName(" = "[property: " ++ "JsonPropertyName(" := rfl
  have hclose : ")]" = ")" ++ "]" := rfl
  have hend : "] " = "]" ++ " " := rfl
  unfold parameterText attributeText
  dsimp only
  rw [h, Option.map_some, Option.getD_some, hopening, hclose, hend]
  simp only [String.append_assoc]

/-- A member with an attribute. -/
theorem Property.text_of_some {p : Property} {key : String} (h : p.jsonName = some key)
    (kind : DeclarationKind) (level : Nat) : ∃ rest, p.text kind level
      = indent level 4 ++ (attributeOpening kind ++ (stringLiteral key ++ (")]" ++ rest))) := by
  cases kind with
  | record => exact ⟨_, Property.parameterText_of_some h level⟩
  | plainClass | struct => exact ⟨_, Property.memberText_of_some h level⟩

/-- **The name of a member is its key**, unless an attribute would need a separator in a literal. -/
theorem jsonName?_text (kind : DeclarationKind) (level : Nat) {reference : Nat → String}
    (href : ∀ id, Text.IdentText (reference id)) {m : Member} (hident : Text.IdentText m.ident)
    (hmark : unescaped m.ident = Language.csharp.withoutMark m.ident) :
    jsonName? kind ((Property.of reference m).text kind level).toList
      = if Language.csharp.withoutMark m.ident ≠ m.key ∧ hasSeparator m.key then none
        else some m.key := by
  have hblank : ' ' ∉ m.ident.toList := notMem_of_identText hident (by decide)
  have hbracket : '[' ∉ m.ident.toList := notMem_of_identText hident (by decide)
  have hnames : ∀ name ∈ (Property.of reference m).type.names, Text.IdentText name := by
    rw [Property.names_type]
    exact identText_of_mem_names href m.type
  have htype : '[' ∉ (Property.of reference m).type.text.toList :=
    TypeExpr.notMem_text hnames (by decide) (by decide)
  by_cases hkey : Language.csharp.withoutMark m.ident = m.key
  · have hname : (Property.of reference m).jsonName = none := if_pos (hmark.trans hkey)
    have htext : ((Property.of reference m).text kind level).toList
        = (indent level 4 ++ modifier kind ++ (Property.of reference m).type.text).toList
          ++ ' ' :: m.ident.toList ++ (accessors kind).toList := by
      rw [Property.text_of_none hname, String.toList_append, String.toList_append,
        String.toList_append, List.append_assoc _ " ".toList]
      rfl
    rw [if_neg fun h => h.1 hkey, ← hkey, htext]
    refine jsonName?_of_ident ?_ hblank
    have hindent : '[' ∉ (indent level 4).toList := by
      rw [indent, String.toList_ofList]
      exact fun hmem => absurd (List.eq_of_mem_replicate hmem) (by decide)
    have hrest : '[' ∉ (modifier kind).toList ∧ '[' ∉ (accessors kind).toList := by
      cases kind <;> decide
    simp only [String.toList_append, List.mem_append, List.mem_cons, not_or]
    exact ⟨⟨⟨⟨hindent, hrest.1⟩, htype⟩, by decide, hbracket⟩, hrest.2⟩
  · have hname : (Property.of reference m).jsonName = some m.key :=
      if_neg fun h => hkey (hmark.symm.trans h)
    obtain ⟨rest, htext⟩ := Property.text_of_some hname kind level
    rw [htext]
    simp only [String.toList_append, jsonName?_of_attribute, ne_eq, hkey, not_false_eq_true,
      true_and]

/-! ### What is written -/

/-- The members of a declaration are written in its text. -/
theorem infix_property_text (kind : DeclarationKind) (level : Nat) {t : TypeDeclaration}
    {p : Property} (hp : p ∈ t.properties) :
    (p.text kind (level + 1)).toList <:+: (t.text kind level).toList := by
  rw [text_eq]
  split
  · rename_i hrecord
    subst hrecord
    have hlist : (p.parameterText (level + 1)).toList <:+:
        (",\n".intercalate (t.properties.map (Property.parameterText (level + 1)))).toList :=
      toList_infix_intercalate _ (List.mem_map_of_mem hp)
    have hsome : ¬ (t.properties.map (Property.parameterText (level + 1))).isEmpty := by
      rw [List.isEmpty_iff, List.map_eq_nil_iff]
      exact List.ne_nil_of_mem hp
    unfold recordText
    dsimp only
    rw [if_neg hsome]
    exact toList_infix_left (toList_infix_left (toList_infix_right (toList_infix_left
      (toList_infix_left (toList_infix_right hlist _) _) _) _) _) _
  · rename_i hkind
    have htext : p.text kind (level + 1) = p.memberText (level + 1) := by
      cases kind with
      | record => exact absurd rfl hkind
      | plainClass | struct => rfl
    have hlist : (p.memberText (level + 1)).toList <:+:
        ("\n".intercalate (t.properties.map (Property.memberText (level + 1)))).toList :=
      toList_infix_intercalate _ (List.mem_map_of_mem hp)
    have hsome : ¬ (t.properties.map (Property.memberText (level + 1))).isEmpty := by
      rw [List.isEmpty_iff, List.map_eq_nil_iff]
      exact List.ne_nil_of_mem hp
    rw [htext]
    unfold classText
    dsimp only
    rw [if_neg hsome]
    have hsections := hlist.trans (toList_infix_intercalate "\n\n"
      (List.mem_append_right (t.nested.map (TypeDeclaration.text kind (level + 1)))
        (List.mem_singleton_self _)))
    exact toList_infix_left (toList_infix_left (toList_infix_left
      (toList_infix_right hsections _) _) _) _

/--
**The serializer knows each member by its key**, unless the key has a separator of lines or
paragraphs in it and is no identifier: then the argument of the attribute is no string literal, and
the member has no name.
-/
theorem jsonName_eq_key_iff (settings : Settings) (h : settings.check = .ok .csharp)
    (samples : List Value) :
    let shape := Shape.ofSamples samples
    let graph := settings.graph .csharp shape
    let kind := settings.declarationKind
    (∃ warnings, settings.convert samples = .ok ⟨(File.of settings graph).text, warnings⟩) ∧
      (∃ objects : List (List Field), objects.Sublist shape.objects ∧
        (settings.shareIdentical = false → objects = shape.objects) ∧
        Declares objects 0 graph.declarations objects) ∧
      ∃ block, Blocks (form kind) settings graph (settings.topLevel graph)
          (File.of settings graph).declarations (File.of settings graph).text block ∧
        ∀ d ∈ graph.declarations,
          (block d).properties = d.members.map (Property.of (settings.header graph)) ∧
          ∀ m ∈ d.members, ∀ level,
            let member := ((Property.of (settings.header graph) m).text kind (level + 1)).toList
            member <:+: ((block d).text kind level).toList ∧
              (jsonName? kind member = some m.key ∨ jsonName? kind member = none) ∧
              (jsonName? kind member = some m.key ↔ Language.csharp.withoutMark m.ident = m.key ∨
                ∀ c ∈ m.key.toList, c ∉ separators) := by
  intro shape graph kind
  obtain ⟨objects, hsub, hall, -, hdeclares⟩ :=
    Naming.declares_resolve (settings.naming .csharp) shape settings.rootName
  obtain ⟨block, hblocks, hproperties⟩ := Settings.writes_graph h shape
  refine ⟨Settings.convertShape_of_check h shape, ⟨objects, hsub, hall, hdeclares⟩, block, hblocks,
    fun d hd => ⟨hproperties d hd, fun m hm level => ?_⟩⟩
  intro member
  have hmem : Property.of (settings.header graph) m ∈ (block d).properties := by
    rw [hproperties d hd]
    exact List.mem_map_of_mem hm
  have hname := jsonName?_text kind (level + 1) (identText_header settings .csharp shape)
    (Naming.identText_of_mem_members hd hm)
    (unescaped_eq_withoutMark (Naming.mark_cases_of_mem_members hd hm))
  refine ⟨infix_property_text kind level hmem, ?_, ?_⟩
  · rw [hname]
    split
    · exact .inr rfl
    · exact .inl rfl
  · rw [hname]
    split
    · rename_i hlost
      obtain ⟨c, hc, hsep⟩ := hasSeparator_iff.1 hlost.2
      refine iff_of_false (by simp) ?_
      rintro (hsame | hnone)
      · exact hlost.1 hsame
      · exact hnone c hc hsep
    · rename_i hkept
      refine iff_of_true rfl ?_
      by_cases hkey : Language.csharp.withoutMark m.ident = m.key
      · exact .inl hkey
      · exact .inr fun c hc hsep => hkept ⟨hkey, hasSeparator_iff.2 ⟨c, hc, hsep⟩⟩

/-- A record with a key of quotes and a control character, and one with a separator of lines. -/
theorem jsonNames_of_record :
    let settings : Settings := { declarationKind := .record, nestedStyle := .inside }
    let sample : Value := .object [("say \"hi\"\x01", .null), ("class", .bool true),
      ("a\u2028b", .object [("Id", .string "x")])]
    let graph := settings.graph .csharp (Shape.ofSamples [sample])
    settings.check = .ok .csharp ∧
      graph.declarations.map (fun d => d.members.map (·.key))
        = [["say \"hi\"\x01", "class", "a\u2028b"], ["Id"]] ∧
      ∀ d ∈ graph.declarations, ∀ m ∈ d.members,
        (jsonName? .record ((Property.of (settings.header graph) m).text .record 1).toList
          = some m.key ↔ m.key ≠ "a\u2028b") := by
  intro settings sample graph
  have hcheck : settings.check = .ok .csharp := by
    decide +kernel
  have hshape : Shape.ofSamples [sample] = .object [⟨"say \"hi\"\x01", .primitive .null, false⟩,
      ⟨"class", .primitive .bool, false⟩,
      ⟨"a\u2028b", .object [⟨"Id", .primitive .string, false⟩], false⟩] := by
    cbv
  have hkeys : graph.declarations.map (fun d => d.members.map (·.key))
      = [["say \"hi\"\x01", "class", "a\u2028b"], ["Id"]] := by
    simp only [graph, hshape]
    decide +kernel
  have hcases : ∀ d ∈ graph.declarations, ∀ m ∈ d.members,
      ((Language.csharp.withoutMark m.ident = m.key ∨ hasSeparator m.key = false) ↔
        m.key ≠ "a\u2028b") := by
    simp only [graph, hshape]
    decide +kernel
  refine ⟨hcheck, hkeys, fun d hd m hm => ?_⟩
  obtain ⟨block, -, hnames⟩ := (jsonName_eq_key_iff settings hcheck [sample]).2.2
  have hname := ((hnames d hd).2 m hm 0).2.2
  rw [← hcases d hd m hm, ← Bool.not_eq_true, hasSeparator_iff]
  push Not
  exact hname

/-- A separator of lines stands for itself in the attribute, where it may not. -/
theorem no_jsonName_of_separator :
    let settings : Settings := {}
    let sample : Value := .object [("a\u2028b", .number (.integer 1))]
    let graph := settings.graph .csharp (Shape.ofSamples [sample])
    settings.check = .ok .csharp ∧ sample.DistinctKeys ∧
      settings.convert [sample] = .ok ⟨
        "using System.Text.Json.Serialization;\n\npublic class Root\n\x7b\n"
          ++ "    [JsonPropertyName(\"a\u2028b\")]\n"
          ++ "    public long AB \x7b get; set; \x7d\n\x7d\n",
        [⟨"a\u2028b", "AB", .illegalCharacters⟩]⟩ ∧
      literalSyntax.read (stringLiteral "a\u2028b").toList = none ∧
      ¬ ∀ d ∈ graph.declarations, ∀ m ∈ d.members,
        jsonName? .plainClass ((Property.of (settings.header graph) m).text .plainClass 1).toList
          = some m.key := by
  intro settings sample graph
  have hshape : Shape.ofSamples [sample] = .object [⟨"a\u2028b", .primitive .integer, false⟩] := by
    cbv
  refine ⟨by decide +kernel, by decide, ?_, by decide +kernel, ?_⟩
  · rw [Settings.convert, hshape]
    decide +kernel
  · simp only [graph, hshape]
    decide +kernel

end CSharp

end Target

end SampleTypes
