import SampleTypes.Proofs.Shape.Samples
import SampleTypes.Proofs.Target.RootAlias

/-!
# Arrays and nullables around the root

A root array is a list of samples: the declarations for an array are those for its elements, and a
root that may be null is declared like one that may not.  This is so wherever the root leads to an
object.  A root without objects has an alias, and the alias spells the wrapping out.

* `Naming.Context.resolve_array` and `Naming.Context.resolve_nullable`: naming wraps the root, and
  changes nothing else;
* `Target.Language.render_withRoot`: a writer that writes no alias asks the root which declaration
  it leads to, and whether a part of it is unknown, and no more;
* `Settings.write_core`: so the wrapping cannot be seen in the output;
* `convert_array_and_convertShape_wrapped` is the main result.
-/

namespace SampleTypes

open Json (Value)
open Naming (Context Graph TypeRef Warning)
open Target (Language)

/-! ### Naming -/

namespace Naming

/-- The graph with another type as its root. -/
def Graph.withRoot (graph : Graph) (root : TypeRef) : Graph :=
  { graph with root := root }

variable (cx : Context) (s : Shape) (rootName : String)

theorem Context.resolve_array : cx.resolve (.array s) rootName =
    let (graph, warnings) := cx.resolve s rootName
    (graph.withRoot (.array graph.root), warnings) := by
  simp only [Context.resolve, Context.nameType, Outcome.map, Graph.withRoot]

theorem Context.resolve_nullable : cx.resolve (.nullable s) rootName =
    let (graph, warnings) := cx.resolve s rootName
    (graph.withRoot (.nullable graph.root), warnings) := by
  simp only [Context.resolve, Context.nameType, Outcome.map, Graph.withRoot]

/-- A shape with an object at its root needs no alias. -/
theorem needsAlias_resolve (h : s.outerObjects ≠ []) :
    (cx.resolve s rootName).1.needsAlias = false := by
  obtain ⟨objects, -, -, hroot, -⟩ := declares_resolve cx s rootName
  rw [Bool.eq_false_iff]
  intro halias
  rw [Graph.needsAlias_iff, references_eq_nil_iff s _ hroot] at halias
  exact h halias

end Naming

/-! ### Writing -/

namespace Target

section WithRoot

variable {graph : Graph} {root : TypeRef}
  (hfirst : root.firstDeclared? = graph.root.firstDeclared?)
  (hunknown : root.mentionsUnknown = graph.root.mentionsUnknown)

include hfirst

theorem needsAlias_withRoot : (graph.withRoot root).needsAlias = graph.needsAlias := by
  rw [Graph.needsAlias, Graph.rootDeclaration?, Graph.withRoot, hfirst]
  rfl

theorem rootLast_withRoot (ds : List Naming.Declaration) :
    Python.rootLast (graph.withRoot root) ds = Python.rootLast graph ds := by
  simp only [Python.rootLast, Graph.rootDeclaration?, Graph.withRoot, hfirst]
  rfl

include hunknown

/-- **Without an alias, a writer sees of the root where it leads first, and whether a part of it is
unknown.** -/
theorem Language.render_withRoot (language : Language) (settings : Settings)
    (h : graph.needsAlias = false) :
    language.render settings (graph.withRoot root) = language.render settings graph := by
  have halias := needsAlias_withRoot hfirst
  rw [h] at halias
  have hmentions : (graph.withRoot root).mentionsUnknown = graph.mentionsUnknown := by
    rw [Graph.mentionsUnknown, Graph.withRoot, hunknown]
    rfl
  cases language with
  | csharp =>
    have hfile : CSharp.File.of settings (graph.withRoot root) = CSharp.File.of settings graph := by
      rw [CSharp.File.of, CSharp.File.of, halias, h]
      rfl
    rw [Language.render, Language.render, hfile]
  | typescript =>
    have hfile : TypeScript.File.of settings (graph.withRoot root)
        = TypeScript.File.of settings graph := by
      rw [TypeScript.File.of, TypeScript.File.of, halias, h]
      rfl
    rw [Language.render, Language.render, hfile]
  | python =>
    -- the root's own class comes last, and `Any` is imported for an unknown part
    have hmodule : Python.Module.of settings (graph.withRoot root)
        = Python.Module.of settings graph := by
      rw [Python.Module.of, Python.Module.of, halias, h, hmentions, rootLast_withRoot hfirst,
        rootLast_withRoot hfirst]
      rfl
    rw [Language.render, Language.render, hmodule]
  | rust =>
    have hfile : Rust.File.of settings (graph.withRoot root) = Rust.File.of settings graph := by
      rw [Rust.File.of, Rust.File.of, halias, h]
      rfl
    rw [Language.render, Language.render, hfile]

end WithRoot

end Target

/-! ### Conversion -/

namespace Settings

section Write

variable (settings : Settings) (language : Language) {s : Shape} (h : s.outerObjects ≠ [])

include h

theorem write_array : settings.write language (.array s) = settings.write language s := by
  have halias := Naming.needsAlias_resolve (settings.naming language) s settings.rootName h
  simp only [write, Context.resolve_array, Conversion.mk.injEq, and_true]
  refine Language.render_withRoot ?_ ?_ language settings halias
  · rfl
  · rfl

theorem write_nullable : settings.write language (.nullable s) = settings.write language s := by
  have halias := Naming.needsAlias_resolve (settings.naming language) s settings.rootName h
  simp only [write, Context.resolve_nullable, Conversion.mk.injEq, and_true]
  refine Language.render_withRoot ?_ ?_ language settings halias
  · rfl
  · rfl

/-- **The output is that of the core**: the root may stand in any number of arrays and nullables. -/
theorem write_core : settings.write language s.core = settings.write language s := by
  induction s using Shape.induction with
  | unknown => rfl
  | primitive k => rfl
  | object fs _ => rfl
  | array e ih =>
    have he : e.outerObjects ≠ [] := h
    exact (ih he).trans (settings.write_array language he).symm
  | nullable s ih =>
    have hs : s.outerObjects ≠ [] := h
    exact (ih hs).trans (settings.write_nullable language hs).symm
  | union as _ => rfl

end Write

end Settings

/-- The shape of one array is the array of the shape of its elements. -/
theorem Shape.ofSamples_singleton_array (vs : List Value) :
    ofSamples [.array vs] = .array (ofSamples vs) := by
  rw [ofSamples_singleton, ofValue_array]

/--
**A root array is a list of samples.**  Under settings that pass the checks, a root that leads to an
object gives one output, with the same warnings, by itself, in an array, and where it may be null;
and so do samples one by one and in an array.
-/
theorem convert_array_and_convertShape_wrapped (settings : Settings) (language : Language)
    (h : settings.check = .ok language) :
    (∀ s : Shape, s.outerObjects ≠ [] → ∃ c, settings.convertShape s = .ok c ∧
        settings.convertShape (.array s) = .ok c ∧ settings.convertShape (.nullable s) = .ok c ∧
        settings.convertShape s.core = .ok c) ∧
      ∀ vs : List Value, (Shape.ofSamples vs).outerObjects ≠ [] → ∃ c,
        settings.convert vs = .ok c ∧ settings.convert [.array vs] = .ok c := by
  have hwrite (s : Shape) : settings.convertShape s = .ok (settings.write language s) := by
    rw [Settings.convertShape, h]
    rfl
  constructor
  · intro s hs
    refine ⟨settings.write language s, hwrite s, ?_, ?_, ?_⟩
    · rw [hwrite, settings.write_array language hs]
    · rw [hwrite, settings.write_nullable language hs]
    · rw [hwrite, settings.write_core language hs]
  · intro vs hvs
    refine ⟨settings.write language (Shape.ofSamples vs), hwrite _, ?_⟩
    rw [Settings.convert, Shape.ofSamples_singleton_array, hwrite,
      settings.write_array language hvs]

/-- Objects beside a text and null, in an array and one by one. -/
theorem convert_array_of_union :
    let settings : Settings := { targetLanguage := "python", convention := .snake }
    let samples : List Value :=
      [.object [("a", .number (.integer 1))], .null, .object [("b", .string "x")], .string "y"]
    ∃ c, settings.convert samples = .ok c ∧ settings.convert [.array samples] = .ok c := by
  intro settings samples
  have hcheck : settings.check = .ok .python := by
    decide +kernel
  have hshape : Shape.ofSamples samples = .nullable (.union [.object
      [⟨"a", .primitive .integer, true⟩, ⟨"b", .primitive .string, true⟩],
      .primitive .string]) := by
    cbv
  apply (convert_array_and_convertShape_wrapped settings .python hcheck).2
  rw [hshape]
  simp [Shape.outerObjects, Shape.outerObjectsOfArms]

end SampleTypes
