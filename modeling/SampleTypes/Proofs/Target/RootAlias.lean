import SampleTypes.Proofs.Naming.Declarations
import SampleTypes.Proofs.Naming.TypeNames
import SampleTypes.Proofs.Target.Output

/-!
# The alias of the root

A root that leads to no object has no declaration that could bear the root's name; an alias bears it
and says what the whole root is.  A root that leads to an object has no alias, not even where the
object is one of several alternatives: then only the objects among these are written.

* `Naming.references_eq_nil_iff` and `Naming.replace?_of_outerObjects_eq_nil`: what the root of a
  graph looks like for a shape without objects at the root;
* `Target.Language.rootText` is the text of the whole root, `Target.Language.alias?` the line of the
  alias that a file has;
* `alias_iff_core` is the main result.
-/

namespace SampleTypes

open Naming (Denotes Graph TypeRef)

/-! ### Shapes without objects at the root -/

namespace Shape

/-- A shape without the arrays and nullables around it. -/
def core : Shape → Shape
  | .array element => core element
  | .nullable inner => core inner
  | s => s

theorem outerObjects_core (s : Shape) : s.core.outerObjects = s.outerObjects := by
  induction s using Shape.induction with
  | unknown => rfl
  | primitive k => rfl
  | object fs _ => rfl
  | array e ih => exact ih
  | nullable s ih => exact ih
  | union as _ => rfl

theorem outerObjectsOfArms_eq_nil_iff {as : List Shape} :
    outerObjectsOfArms as = [] ↔ ∀ a ∈ as, a.outerObjects = [] := by
  induction as with
  | nil => simp [outerObjectsOfArms]
  | cons a as ih => rw [outerObjectsOfArms, List.append_eq_nil_iff, ih, List.forall_mem_cons]

/-- No arrays and nullables are left around the core. -/
theorem core_ne (s : Shape) : (∀ e, s.core ≠ .array e) ∧ ∀ t, s.core ≠ .nullable t := by
  induction s using Shape.induction with
  | unknown => simp [core]
  | primitive k => simp [core]
  | object fs _ => simp [core]
  | array e ih => exact ih
  | nullable s ih => exact ih
  | union as _ => simp [core]

/-- No object stands at the root if the core is none, and is no union with one at its root. -/
theorem outerObjects_eq_nil_iff_core {s : Shape} : s.outerObjects = [] ↔
    (∀ fields, s.core ≠ .object fields) ∧
      ∀ arms, s.core = .union arms → ∀ a ∈ arms, a.outerObjects = [] := by
  rw [← outerObjects_core]
  have hcore := s.core_ne
  cases h : s.core with
  | unknown => simp [outerObjects]
  | primitive k => simp [outerObjects]
  | object fs => simp [outerObjects]
  | array e => exact absurd h (hcore.1 e)
  | nullable t => exact absurd h (hcore.2 t)
  | union as => simp [outerObjects, outerObjectsOfArms_eq_nil_iff]

end Shape

namespace Naming

theorem TypeRef.referencesOf_eq_nil_iff {ts : List TypeRef} :
    TypeRef.referencesOf ts = [] ↔ ∀ t ∈ ts, t.references = [] := by
  induction ts with
  | nil => simp [TypeRef.referencesOf]
  | cons t ts ih => rw [TypeRef.referencesOf, List.append_eq_nil_iff, ih, List.forall_mem_cons]

/-- A type refers to nothing if what it stands for has no objects at the root. -/
theorem references_eq_nil_iff {objects : List (List Field)} (s : Shape) :
    ∀ t, Denotes objects t s → (t.references = [] ↔ s.outerObjects = []) := by
  induction s using Shape.induction with
  | unknown =>
    rintro t ⟨⟩
    simp [TypeRef.references, Shape.outerObjects]
  | primitive k =>
    rintro t ⟨⟩
    simp [TypeRef.references, Shape.outerObjects]
  | object fs _ =>
    rintro t ⟨⟩
    simp [TypeRef.references, Shape.outerObjects]
  | array e ih =>
    intro t ht
    cases ht with
    | @array t _ he => exact ih t he
  | nullable s ih =>
    intro t ht
    cases ht with
    | @nullable t _ hs => exact ih t hs
  | union as ih =>
    intro t ht
    cases ht with
    | @union ts _ has =>
      rw [TypeRef.references, Shape.outerObjects, TypeRef.referencesOf_eq_nil_iff,
        Shape.outerObjectsOfArms_eq_nil_iff]
      exact forall_mem_iff_of_forall₂ has fun t a ha hta => ih a ha t hta

/-- A type that refers to nothing spells out what it stands for. -/
theorem replace?_of_outerObjects_eq_nil {objects : List (List Field)} (s : Shape) :
    ∀ t, Denotes objects t s → s.outerObjects = [] →
      ∀ object? : Nat → Option Shape, t.replace? object? = some s := by
  induction s using Shape.induction with
  | unknown =>
    rintro t ⟨⟩ _ object?
    rfl
  | primitive k =>
    rintro t ⟨⟩ _ object?
    rfl
  | object fs _ =>
    rintro t _ hnil
    rw [Shape.outerObjects] at hnil
    cases hnil
  | array e ih =>
    intro t ht hnil object?
    cases ht with
    | @array t _ he =>
      rw [TypeRef.replace?, ih t he hnil object?]
      rfl
  | nullable s ih =>
    intro t ht hnil object?
    cases ht with
    | @nullable t _ hs =>
      rw [TypeRef.replace?, ih t hs hnil object?]
      rfl
  | union as ih =>
    intro t ht hnil object?
    cases ht with
    | @union ts _ has =>
      rw [Shape.outerObjects, Shape.outerObjectsOfArms_eq_nil_iff] at hnil
      have hall : List.Forall₂ (fun t a => t.replace? object? = some a) ts as :=
        forall₂_imp_of_mem_right has fun t a ha hta => ih a ha t hta (hnil a ha) object?
      rw [TypeRef.replace?, TypeRef.replaceAll?_of_forall₂ hall]
      rfl

theorem Graph.needsAlias_iff (graph : Graph) : graph.needsAlias ↔ graph.root.references = [] := by
  rw [Graph.needsAlias, Graph.rootDeclaration?, TypeRef.firstDeclared?_eq_head?]
  simp

end Naming

/-! ### The alias -/

namespace Target

/-- The line that gives a name to a type. -/
def Language.aliasText (language : Language) (name type : String) : String :=
  match language with
  | .csharp => "// " ++ name ++ ": " ++ type
  | .typescript => "export type " ++ name ++ " = " ++ type ++ ";"
  | .python => name ++ " = " ++ type
  | .rust => "pub type " ++ name ++ " = " ++ type ++ ";"

/-- The text of the type of the whole root. -/
def Language.rootText (language : Language) (graph : Graph) : String :=
  match language with
  | .csharp => (CSharp.TypeExpr.of graph.nameOf graph.root).text
  | .typescript => (TypeScript.TypeExpr.of (fun id => .name (graph.nameOf id)) graph.root).text 0
  | .python => (Python.TypeHint.of (fun id => [graph.nameOf id]) graph.root).text
  | .rust => (Rust.TypeExpr.of graph.nameOf graph.root).text

/-- The line of the alias that is written for a graph, if there is one. -/
def Language.alias? (language : Language) (settings : Settings) (graph : Graph) : Option String :=
  match language with
  | .csharp => (CSharp.File.of settings graph).rootComment.map fun (name, type) =>
    language.aliasText name type.text
  | .typescript => (TypeScript.File.of settings graph).typeAlias.map fun (name, type) =>
    language.aliasText name (type.text 0)
  | .python => (Python.Module.of settings graph).rootAlias.map fun (name, hint) =>
    language.aliasText name hint.text
  | .rust => (Rust.File.of settings graph).typeAlias.map fun (name, type) =>
    language.aliasText name type.text

variable (language : Language) (settings : Settings) (graph : Graph)

theorem alias?_eq : language.alias? settings graph =
    if graph.needsAlias then some (language.aliasText graph.rootName (language.rootText graph))
    else none := by
  cases h : graph.needsAlias with
  | true =>
    cases language <;> simp only [Language.alias?, CSharp.File.of, TypeScript.File.of,
      Python.Module.of, Rust.File.of, h, if_true, Option.map_some, Language.rootText]
  | false =>
    cases language <;> simp only [Language.alias?, CSharp.File.of, TypeScript.File.of,
      Python.Module.of, Rust.File.of, h, Bool.false_eq_true, if_false, Option.map_none]

theorem exists_intercalate_concat (separator : String) (parts : List String) (last : String) :
    ∃ before, separator.intercalate (parts ++ [last]) = before ++ last := by
  cases parts with
  | nil => exact ⟨"", by simp⟩
  | cons part parts =>
    rw [String.intercalate_append_of_ne_nil (List.cons_ne_nil _ _) (List.cons_ne_nil _ _),
      String.intercalate_singleton]
    exact ⟨_, rfl⟩

/-- The line of the alias is the last part of a text, if there is one. -/
theorem render_eq : ∃ (before separator : String) (parts : List String),
    language.render settings graph = before
      ++ separator.intercalate (parts ++ (language.alias? settings graph).toList) ++ "\n" := by
  cases language with
  | csharp => exact ⟨"", "\n\n", _, by rw [String.empty_append]; rfl⟩
  | typescript => exact ⟨"", "\n\n", _, by rw [String.empty_append]; rfl⟩
  | python => exact ⟨_, "\n\n\n", _, rfl⟩
  | rust => exact ⟨"", "\n\n", _, by rw [String.empty_append]; rfl⟩

theorem exists_render_eq_of_needsAlias (h : graph.needsAlias) :
    ∃ before, language.render settings graph
      = before ++ language.aliasText graph.rootName (language.rootText graph) ++ "\n" := by
  obtain ⟨before, separator, parts, hrender⟩ := render_eq language settings graph
  obtain ⟨more, hmore⟩ := exists_intercalate_concat separator parts
    (language.aliasText graph.rootName (language.rootText graph))
  rw [alias?_eq, if_pos h, Option.toList_some, hmore, ← String.append_assoc] at hrender
  exact ⟨before ++ more, hrender⟩

end Target

/--
**A root has an alias just if it leads to no object.**  The alias then ends the output, and spells
out the whole shape.
-/
theorem alias_iff_core (settings : Settings) (language : Target.Language)
    (h : settings.check = .ok language) (shape : Shape) :
    let graph := settings.graph language shape
    (shape.outerObjects = [] ↔
      (∀ fields, shape.core ≠ .object fields) ∧
        ∀ arms, shape.core = .union arms → ∀ a ∈ arms, a.outerObjects = []) ∧
    (shape.outerObjects = [] →
      (∃ before warnings, settings.convertShape shape = .ok
        ⟨before ++ language.aliasText graph.rootName (language.rootText graph) ++ "\n",
          warnings⟩) ∧
      ∀ object? : Nat → Option Shape, graph.root.replace? object? = some shape) ∧
    (shape.outerObjects ≠ [] →
      (∃ warnings, settings.convertShape shape
        = .ok ⟨language.render settings graph, warnings⟩) ∧
      language.alias? settings graph = none) := by
  intro graph
  obtain ⟨objects, -, -, hroot, -⟩ :=
    Naming.declares_resolve (settings.naming language) shape settings.rootName
  have halias : graph.needsAlias ↔ shape.outerObjects = [] :=
    graph.needsAlias_iff.trans (Naming.references_eq_nil_iff shape graph.root hroot)
  obtain ⟨warnings, hconvert⟩ := Settings.convertShape_of_check h shape
  refine ⟨Shape.outerObjects_eq_nil_iff_core, fun hnil => ⟨?_, ?_⟩, fun hsome => ⟨?_, ?_⟩⟩
  · obtain ⟨before, hrender⟩ :=
      Target.exists_render_eq_of_needsAlias language settings graph (halias.2 hnil)
    exact ⟨before, warnings, hrender ▸ hconvert⟩
  · exact Naming.replace?_of_outerObjects_eq_nil shape graph.root hroot hnil
  · exact ⟨warnings, hconvert⟩
  · rw [Target.alias?_eq, if_neg (mt halias.1 hsome)]

/-- An array of numbers and texts, or null: the alias spells out both. -/
theorem alias_of_mixed_array :
    let settings : Settings := { targetLanguage := "ts" }
    let shape : Shape :=
      .nullable (.array (.union [.primitive .integer, .primitive .string]))
    settings.check = .ok .typescript ∧ ∃ before warnings, settings.convertShape shape
      = .ok ⟨before ++ "export type Root = (number | string)[] | null;" ++ "\n", warnings⟩ := by
  intro settings shape
  have hcheck : settings.check = .ok .typescript := by
    decide +kernel
  have hline : Target.Language.typescript.aliasText (settings.graph .typescript shape).rootName
      (Target.Language.typescript.rootText (settings.graph .typescript shape))
        = "export type Root = (number | string)[] | null;" := by
    decide +kernel
  rw [← hline]
  exact ⟨hcheck, ((alias_iff_core settings .typescript hcheck shape).2.1 rfl).1⟩

/-- An object and a text as samples: only the object is written, and there is no alias. -/
theorem no_alias_of_object_and_text :
    let settings : Settings := { targetLanguage := "typescript" }
    let samples : List Json.Value := [.object [("a", .number (.integer 1))], .string "x"]
    settings.check = .ok .typescript ∧
      Shape.ofSamples samples =
        .union [.object [⟨"a", .primitive .integer, false⟩], .primitive .string] ∧
      settings.convert samples = .ok ⟨"export interface Root \x7b\n  A: number;\n\x7d\n", []⟩ ∧
      Target.Language.typescript.alias? settings
        (settings.graph .typescript (Shape.ofSamples samples)) = none := by
  intro settings samples
  have hshape : Shape.ofSamples samples =
      .union [.object [⟨"a", .primitive .integer, false⟩], .primitive .string] := by
    cbv
  refine ⟨by decide +kernel, hshape, ?_, ?_⟩
  · rw [Settings.convert, hshape]
    decide +kernel
  · rw [hshape]
    decide +kernel

end SampleTypes
