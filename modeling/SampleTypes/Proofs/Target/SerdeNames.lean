import SampleTypes.Proofs.Naming.UnmarkedNames
import SampleTypes.Proofs.Shape.Samples
import SampleTypes.Proofs.Target.Emission
import SampleTypes.Proofs.Target.Lines
import SampleTypes.Proofs.Target.Literals

/-!
# Names of fields for serde

A field is known by the string literal that its attribute has for the name, or, where it has none,
by its identifier without the mark.

* `Rust.serdeName?` reads the name off the lines of a field, `Rust.serdeName?_text` finds the key
  there;
* `Rust.serdeName_eq_key` is the main result.
-/

namespace SampleTypes

open Json (Value)
open Naming (Declaration Declares Member)

/-- The keys of each object in a shape are distinct. -/
theorem Shape.WellFormed.nodup_keys {s : Shape} (h : s.WellFormed) :
    ∀ fields ∈ s.objects, (fields.map Field.key).Nodup := by
  induction s using Shape.induction with
  | unknown | primitive => simp [objects]
  | object fs ih =>
    rw [wellFormed_object_iff] at h
    rw [objects, objectsOfFields_eq_flatMap, List.forall_mem_cons]
    refine ⟨h.1.1, fun fields hfields => ?_⟩
    obtain ⟨f, hf, hfields⟩ := List.mem_flatMap.1 hfields
    exact ih f hf (h.2 f hf) fields hfields
  | array e ih => exact ih (wellFormed_array_iff.1 h)
  | nullable s ih => exact ih (wellFormed_nullable_iff.1 h).2
  | union as ih =>
    rw [wellFormed_union_iff] at h
    rw [objects, objectsOfArms_eq_flatMap]
    intro fields hfields
    obtain ⟨a, ha, hfields⟩ := List.mem_flatMap.1 hfields
    exact ih a ha (h.2 a ha) fields hfields

namespace Target

namespace Rust

theorem unescaped_eq_withoutMark (ident : String) :
    unescaped ident = Language.rust.withoutMark ident := by
  have hmark : Language.rust.mark.toList = ['r', '#'] := by
    decide
  have hlength : Language.rust.mark.length = 2 := by
    decide
  unfold unescaped Language.withoutMark
  rw [hmark, hlength]
  split
  · rename_i rest hident
    rw [if_pos (by simp [hident]), hident]
    rfl
  · rename_i hother
    rw [if_neg]
    intro hstart
    obtain ⟨rest, hrest⟩ := List.isPrefixOf_iff_prefix.1 hstart
    exact hother rest hrest.symm

/-- The identifier of a field without its mark, read off the line of the field. -/
def fieldIdent? (line : List Char) : Option String :=
  ((line.dropWhile (· == ' ')).dropPrefix? "pub ".toList).map fun own =>
    Language.rust.withoutMark (String.ofList (own.takeWhile (· != ':')))

/--
The name that the serializer knows a field by, read off the lines of the field.  It is none when the
argument for the name is no string literal on the line of the attribute, or not the first one.
-/
def serdeName? (field : List Char) : Option String :=
  match (field.dropWhile (· == ' ')).dropPrefix? "#[serde(".toList with
  | none => fieldIdent? field
  | some arguments =>
    match arguments.dropPrefix? "rename = ".toList with
    | some argument =>
      (literalSyntax.read argument).bind fun r =>
        if ")]\n".toList.isPrefixOf r.2 ∨ ", ".toList.isPrefixOf r.2 then some r.1 else none
    | none =>
      if "rename".toList <:+: arguments.takeWhile (· != '\n') then none
      else fieldIdent? ((arguments.dropWhile (· != '\n')).drop 1)

/-- The line of a field, without its attribute. -/
def StructField.line (f : StructField) : String :=
  indent 1 4 ++ ("pub " ++ (f.ident ++ (":" ++ (" " ++ f.type.text ++ ",\n"))))

theorem StructField.text_of_nil {f : StructField} (h : f.attributes = []) : f.text = f.line := by
  have hcolon : ": " = ":" ++ " " := rfl
  unfold StructField.text line
  dsimp only
  rw [h, List.isEmpty_nil, if_pos rfl, String.empty_append, hcolon]
  simp only [String.append_assoc]

theorem StructField.text_of_ne_nil {f : StructField} (h : f.attributes ≠ []) :
    f.text = indent 1 4
      ++ ("#[serde(" ++ (", ".intercalate f.attributes ++ (")]\n" ++ f.line))) := by
  have hcolon : ": " = ":" ++ " " := rfl
  unfold StructField.text line
  dsimp only
  rw [if_neg (by simpa using h), hcolon]
  simp only [String.append_assoc]

theorem fieldIdent?_line {f : StructField} (h : ':' ∉ f.ident.toList) :
    fieldIdent? f.line.toList = some (Language.rust.withoutMark f.ident) := by
  have hident := forall_bne_of_notMem h
  have hown : (f.ident.toList ++ (":".toList ++ (" " ++ f.type.text ++ ",\n").toList)).takeWhile
      (· != ':') = f.ident.toList := by
    rw [List.takeWhile_append_of_pos hident]
    exact List.append_nil _
  rw [fieldIdent?, StructField.line, String.toList_append, dropWhile_indent _ _ (by simp),
    String.toList_append, List.dropPrefix?_append_of_beq _ (beq_self_eq_true _), Option.map_some,
    String.toList_append, String.toList_append, hown, String.ofList_toList]

/-- The arguments that are written when a field may be left out. -/
def omittableArguments : String :=
  "default, skip_serializing_if = \"Option::is_none\""

theorem intercalate_attributes_of_none {f : StructField} (hrename : f.rename = none)
    (homit : f.omittable) : ", ".intercalate f.attributes = omittableArguments := by
  rw [StructField.attributes, hrename, homit]
  rfl

theorem intercalate_attributes_of_some {f : StructField} {key : String}
    (hrename : f.rename = some key) : ", ".intercalate f.attributes
      = "rename = " ++ (Text.quoted key
        ++ if f.omittable then ", " ++ omittableArguments else "") := by
  rw [StructField.attributes, hrename]
  cases f.omittable with
  | false => rw [if_neg (by decide), if_neg (by decide), String.append_empty]; rfl
  | true =>
    have harguments : omittableArguments
        = "default" ++ ", " ++ "skip_serializing_if = \"Option::is_none\"" := rfl
    rw [if_pos rfl, if_pos rfl, harguments, Option.map_some, Option.toList_some,
      List.singleton_append, String.intercalate_cons_cons, String.intercalate_cons_cons,
      String.intercalate_singleton]
    simp only [String.append_assoc]

/-- Without an attribute for the name the name is the identifier. -/
theorem serdeName?_of_none {f : StructField} (hrename : f.rename = none)
    (hident : ':' ∉ f.ident.toList) :
    serdeName? f.text.toList = some (Language.rust.withoutMark f.ident) := by
  cases homit : f.omittable with
  | false =>
    have hnil : f.attributes = [] := by
      rw [StructField.attributes, hrename, homit]
      rfl
    have hline : (f.line.toList.dropWhile (· == ' ')).dropPrefix? "#[serde(".toList = none := by
      rw [StructField.line, String.toList_append, dropWhile_indent _ _ (by simp)]
      refine dropPrefix?_eq_none (c := '#') rfl ?_
      simp
    rw [StructField.text_of_nil hnil, serdeName?, hline]
    exact fieldIdent?_line hident
  | true =>
    have hne : f.attributes ≠ [] := by
      rw [StructField.attributes, hrename, homit]
      exact List.cons_ne_nil _ _
    have hargument : ∀ c ∈ (omittableArguments ++ ")]").toList, (c != '\n') = true :=
      forall_bne_of_notMem (by decide)
    have hend : ")]\n" = ")]" ++ "\n" := rfl
    have harguments : (omittableArguments ++ (")]\n" ++ f.line)).toList
        = (omittableArguments ++ ")]").toList ++ '\n' :: f.line.toList := by
      rw [hend, String.append_assoc, ← String.append_assoc, String.toList_append,
        String.toList_append, String.toList_append]
      rfl
    rw [StructField.text_of_ne_nil hne, intercalate_attributes_of_none hrename homit, serdeName?,
      String.toList_append, dropWhile_indent _ _ (by simp), String.toList_append,
      List.dropPrefix?_append_of_beq _ (beq_self_eq_true _), harguments]
    have hother : ((omittableArguments ++ ")]").toList ++ '\n' :: f.line.toList).dropPrefix?
        "rename = ".toList = none :=
      dropPrefix?_eq_none (c := 'r') rfl (by simp [omittableArguments])
    have hnone : ¬ "rename".toList <:+: (omittableArguments ++ ")]").toList := by
      decide
    simp only [hother]
    rw [List.takeWhile_append_of_pos hargument, List.dropWhile_append_of_pos hargument,
      List.takeWhile_cons_of_neg (by decide), List.dropWhile_cons_of_neg (by decide),
      List.append_nil, if_neg hnone, List.drop_one, List.tail_cons]
    exact fieldIdent?_line hident

/-- With one the name is in it. -/
theorem serdeName?_of_some {f : StructField} {key : String} (hrename : f.rename = some key) :
    serdeName? f.text.toList = some key := by
  have hne : f.attributes ≠ [] := by
    rw [StructField.attributes, hrename]
    exact List.cons_ne_nil _ _
  rw [StructField.text_of_ne_nil hne, intercalate_attributes_of_some hrename, serdeName?,
    String.toList_append, dropWhile_indent _ _ (by simp), String.toList_append,
    List.dropPrefix?_append_of_beq _ (beq_self_eq_true _)]
  simp only
  rw [String.append_assoc, String.toList_append,
    List.dropPrefix?_append_of_beq _ (beq_self_eq_true _)]
  simp only
  rw [String.append_assoc, String.toList_append, read_quoted, Option.bind_some]
  refine if_pos ?_
  have hbefore : ∀ before after : String, before.toList.isPrefixOf (before ++ after).toList :=
    fun before after => List.isPrefixOf_iff_prefix.2 (toList_prefix_append before after)
  cases f.omittable with
  | false => exact .inl (hbefore _ _)
  | true =>
    rw [if_pos rfl, String.append_assoc]
    exact .inr (hbefore _ _)

theorem serdeName?_text (asNullable : Bool) (reference : Nat → String) {m : Member}
    (hident : Text.IdentText m.ident) :
    serdeName? (StructField.of asNullable reference m).text.toList = some m.key := by
  have hcolon : ':' ∉ m.ident.toList := notMem_of_identText hident (by decide)
  by_cases hkey : unescaped m.ident = m.key
  · have hrename : (StructField.of asNullable reference m).rename = none := if_pos hkey
    rw [serdeName?_of_none hrename hcolon, ← hkey, unescaped_eq_withoutMark]
    rfl
  · have hrename : (StructField.of asNullable reference m).rename = some m.key := if_neg hkey
    exact serdeName?_of_some hrename

/-- The fields of a struct are written in its text. -/
theorem text_field_infix {s : Struct} {f : StructField} (hf : f ∈ s.fields) :
    f.text.toList <:+: s.text.toList := by
  have hjoin : f.text.toList <:+: (String.join (s.fields.map StructField.text)).toList := by
    have hmem : f.text ∈ s.fields.map StructField.text := List.mem_map_of_mem hf
    rw [String.toList_join, List.flatMap_def]
    exact List.infix_of_mem_flatten (List.mem_map_of_mem hmem)
  have hsome : ¬ s.fields.isEmpty := by
    rw [List.isEmpty_iff]
    exact List.ne_nil_of_mem hf
  have hbraces := toList_infix_left (toList_infix_right hjoin " \x7b\n") "\x7d"
  unfold Struct.text
  rw [if_neg hsome]
  exact toList_infix_right hbraces _

/--
**The serializer knows each field by its key**, and so no two fields of a struct by one name.
-/
theorem serdeName_eq_key (settings : Settings) (h : settings.check = .ok .rust)
    (samples : List Value) (hkeys : ∀ v ∈ samples, v.DistinctKeys) :
    let shape := Shape.ofSamples samples
    let graph := settings.graph .rust shape
    (∃ warnings, settings.convert samples = .ok ⟨(File.of settings graph).text, warnings⟩) ∧
      (∃ objects : List (List Field), objects.Sublist shape.objects ∧
        (settings.shareIdentical = false → objects = shape.objects) ∧
        Declares objects 0 graph.declarations objects) ∧
      ∃ block, Blocks form settings graph (settings.topLevel graph)
          (File.of settings graph).structs (File.of settings graph).text block ∧
        ∀ d ∈ graph.declarations,
          (∀ f ∈ (block d).fields, f.text.toList <:+: (block d).text.toList) ∧
          (block d).fields.map (fun f => serdeName? f.text.toList)
            = d.members.map (fun m => some m.key) ∧
          ((block d).fields.map fun f => serdeName? f.text.toList).Nodup := by
  intro shape graph
  obtain ⟨objects, hsub, hall, -, hdeclares⟩ :=
    Naming.declares_resolve (settings.naming .rust) shape settings.rootName
  obtain ⟨block, hblocks, hfields⟩ := Settings.writes_graph h shape
  refine ⟨Settings.convertShape_of_check h shape, ⟨objects, hsub, hall, hdeclares⟩, block, hblocks,
    fun d hd => ?_⟩
  have hnames : (block d).fields.map (fun f => serdeName? f.text.toList)
      = d.members.map (fun m => some m.key) := by
    rw [hfields d hd, List.map_map]
    apply List.map_congr_left
    intro m hm
    rw [Function.comp_apply]
    exact serdeName?_text _ _ (Naming.identText_of_mem_members hd hm)
  refine ⟨fun f hf => text_field_infix hf, hnames, ?_⟩
  have hnodup : (d.members.map (·.key)).Nodup := by
    obtain ⟨fields, hfields, hmembers⟩ := exists_right_of_forall₂ hdeclares.members d hd
    rw [map_eq_of_forall₂ hmembers fun _ _ hm => hm.key]
    exact (Shape.wellFormed_ofSamples hkeys).nodup_keys fields (hsub.subset hfields)
  rw [hnames, ← Function.comp_def some, ← List.map_map]
  exact hnodup.map (Option.some_injective String)

/-- Keywords in both forms, a number in front, and a key that needs escapes in its literal. -/
theorem serdeNames_of_keywords :
    let settings : Settings := { targetLanguage := "rs", convention := .snake }
    let sample : Value := .object [("type", .null), ("Type", .null), ("self", .null),
      ("2fa", .null), ("e\u0301 \"x\"\n", .null)]
    let graph := settings.graph .rust (Shape.ofSamples [sample])
    settings.check = .ok .rust ∧ sample.DistinctKeys ∧
      graph.declarations.map (fun d => d.members.map (·.ident))
        = [["r#type", "r#type_2", "self_", "n_2fa", "e_x"]] ∧
      ∃ block : Declaration → Struct, ∀ d ∈ graph.declarations,
        (block d).fields.map (fun f => serdeName? f.text.toList)
          = [some "type", some "Type", some "self", some "2fa", some "e\u0301 \"x\"\n"] := by
  intro settings sample graph
  have hcheck : settings.check = .ok .rust := by
    decide +kernel
  have hdistinct : sample.DistinctKeys := by
    decide
  have hshape : Shape.ofSamples [sample] = .object [⟨"type", .primitive .null, false⟩,
      ⟨"Type", .primitive .null, false⟩, ⟨"self", .primitive .null, false⟩,
      ⟨"2fa", .primitive .null, false⟩, ⟨"e\u0301 \"x\"\n", .primitive .null, false⟩] := by
    cbv
  have hidents : graph.declarations.map (fun d => d.members.map (·.ident))
      = [["r#type", "r#type_2", "self_", "n_2fa", "e_x"]] := by
    simp only [graph, hshape]
    decide +kernel
  have hkeys : ∀ d ∈ graph.declarations, d.members.map (fun m => some m.key)
      = [some "type", some "Type", some "self", some "2fa", some "e\u0301 \"x\"\n"] := by
    simp only [graph, hshape]
    decide +kernel
  obtain ⟨block, -, hnames⟩ := (serdeName_eq_key settings hcheck [sample] (by simpa)).2.2
  exact ⟨hcheck, hdistinct, hidents, block, fun d hd => (hnames d hd).2.1.trans (hkeys d hd)⟩

end Rust

end Target

end SampleTypes
