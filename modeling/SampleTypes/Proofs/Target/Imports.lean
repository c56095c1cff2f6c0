import SampleTypes.Proofs.Naming.LegalNames
import SampleTypes.Proofs.Target.CSharpImports
import SampleTypes.Proofs.Target.PythonImports

/-!
# Imports

What an output imports is what it uses.  What the writers rely on for that holds in the graph of
every shape: names may stand in identifiers, and none of them is a reserved one.

* `Settings.path_ne_of_mem_reservedTypeNames`: no reference reads as a reserved name;
* `imports_match_use` is the main result.
-/

namespace SampleTypes

open Naming (Declaration Graph Member TypeRef)
open Target (HasLine)
open Text (IdentText)

namespace Settings

variable {settings : Settings} {language : Target.Language}

theorem nameOf_ne_of_mem_reservedTypeNames {name : String} (hname : name ≠ "")
    (h : name ∈ language.reservedTypeNames) (shape : Shape) (id : Nat) :
    (settings.graph language shape).nameOf id ≠ name := by
  rw [Graph.nameOf]
  cases hfind : (settings.graph language shape).find? id with
  | none => exact hname.symm
  | some d =>
    rintro rfl
    have hmem : d.name ∈ (settings.graph language shape).declaredNames :=
      List.mem_cons_of_mem _ (List.mem_map_of_mem (List.mem_of_find?_eq_some hfind))
    exact (Naming.not_isOwn_of_mem_declaredNames (settings.naming language) shape
      settings.rootName _ hmem).1 h

/-- A path that a member refers to is no reserved name: it is longer, or the name of a type. -/
theorem path_ne_of_mem_reservedTypeNames (hcheck : settings.check = .ok language) {name : String}
    (hname : name ≠ "") (h : name ∈ language.reservedTypeNames) {shape : Shape} {d : Declaration}
    (hd : d ∈ (settings.graph language shape).declarations) {m : Member} (hm : m ∈ d.members)
    {id : Nat} (hid : id ∈ m.type.references) :
    settings.path (settings.graph language shape) id ≠ [name] := by
  cases hstyle : settings.nestedStyle with
  | hoisted =>
    rw [path_of_hoisted hstyle]
    simpa using nameOf_ne_of_mem_reservedTypeNames hname h shape id
  | inside =>
    have hasc : (settings.graph language shape).Ascending :=
      Naming.ascending_resolve (settings.naming language) shape settings.rootName
    have htree : (settings.graph language shape).Tree := Naming.tree_resolve
      (not_shareIdentical_of_check hcheck hstyle) shape settings.rootName
    obtain ⟨c, hc, rfl⟩ := List.mem_map.1 (htree.mem_children hd hm hid)
    rw [path_of_mem_nested hstyle hasc hd hc]
    intro heq
    have hlength := congrArg List.length heq
    rw [List.length_append, path, List.length_map, List.length_reverse] at hlength
    simp at hlength

end Settings

/--
**What is imported is what is used**, whatever the shape is.  In C# there is the directive for lists
just if the type of a member, or the comment for the root, has one in it, and the directive for
attributes just if a member has one.  In Python the decorator is imported just if there is a class,
and the name of what is unknown wherever a hint or the alias of the root has it.
-/
theorem imports_match_use (settings : Settings) (shape : Shape) :
    (settings.check = .ok .csharp →
      let graph := settings.graph .csharp shape
      ∃ output warnings, settings.convertShape shape = .ok ⟨output, warnings⟩ ∧
        Target.Language.csharp.Writes settings graph output ∧
        Target.CSharp.ImportsMatch settings graph output) ∧
    (settings.check = .ok .python →
      let graph := settings.graph .python shape
      ∃ output warnings, settings.convertShape shape = .ok ⟨output, warnings⟩ ∧
        Target.Language.python.Writes settings graph output ∧
        Target.Python.ImportsMatch settings graph output) := by
  have hheader : ∀ language id,
      IdentText (settings.header (settings.graph language shape) id) :=
    fun language => Target.identText_header settings language shape
  have hidents : ∀ language, ∀ d ∈ (settings.graph language shape).declarations,
      ∀ m ∈ d.members, IdentText m.ident :=
    fun _ _ hd _ hm => Naming.identText_of_mem_members hd hm
  have hroot : ∀ language, IdentText (settings.graph language shape).rootName :=
    fun language => Naming.identText_rootName (settings.naming language) settings.rootName
  have hnames : ∀ language id, IdentText ((settings.graph language shape).nameOf id) :=
    fun language => Naming.identText_nameOf (settings.naming language) shape settings.rootName
  constructor
  · intro h graph
    obtain ⟨warnings, hconvert⟩ := Settings.convertShape_of_check h shape
    obtain ⟨block, hblocks, hproperties⟩ := Settings.writes_graph h shape
    exact ⟨_, warnings, hconvert, ⟨block, hblocks, hproperties⟩,
      Target.CSharp.importsMatch hblocks hproperties (hheader _) (hidents _) (hroot _) (hnames _)⟩
  · intro h graph
    obtain ⟨warnings, hconvert⟩ := Settings.convertShape_of_check h shape
    obtain ⟨block, hblocks, hfields⟩ := Settings.writes_graph h shape
    have hany : "Any" ∈ Target.Language.python.reservedTypeNames := by
      decide
    have hrootName : graph.rootName ≠ "Any" := by
      intro heq
      have hmem : "Any" ∈ graph.declaredNames := heq ▸ List.mem_cons_self
      exact (Naming.not_isOwn_of_mem_declaredNames (settings.naming .python) shape
        settings.rootName _ hmem).1 hany
    refine ⟨_, warnings, hconvert, ⟨block, hblocks, hfields⟩, ?_⟩
    refine Target.Python.importsMatch hblocks hfields (hheader _) (hidents _) (hroot _) (hnames _)
      (Settings.nameOf_ne_of_mem_reservedTypeNames (by decide) hany shape) hrootName ?_
    exact fun d hd m hm id hid =>
      Settings.path_ne_of_mem_reservedTypeNames h (by decide) hany hd hm hid

/-- A record with a list of objects, called as their keys are, and a root that is a list alone. -/
theorem imports_of_lists :
    let record : Settings := { declarationKind := .record, nestedStyle := .inside }
    let tags : Shape := .object [⟨"Tags", .array (.object [⟨"Id", .unknown, false⟩]), true⟩]
    let listing : Settings := { targetLanguage := "py" }
    record.check = .ok .csharp ∧ listing.check = .ok .python ∧
      (∃ output warnings, record.convertShape tags = .ok ⟨output, warnings⟩ ∧
        HasLine output "using System.Collections.Generic;" ∧
        ¬ HasLine output "using System.Text.Json.Serialization;") ∧
      ∃ output warnings, listing.convertShape (.array .unknown) = .ok ⟨output, warnings⟩ ∧
        HasLine output "from typing import Any" ∧
        ¬ HasLine output "from dataclasses import dataclass" := by
  intro record tags listing
  have hrecord : record.check = .ok .csharp := by
    decide +kernel
  have hlisting : listing.check = .ok .python := by
    decide +kernel
  refine ⟨hrecord, hlisting, ?_, ?_⟩
  · obtain ⟨output, warnings, hconvert, -, hmatch⟩ := (imports_match_use record tags).1 hrecord
    refine ⟨output, warnings, hconvert, hmatch.lists.2 (.inl ?_), mt hmatch.attributes.1 ?_⟩
    · decide +kernel
    · decide +kernel
  · obtain ⟨output, warnings, hconvert, -, hmatch⟩ :=
      (imports_match_use listing (.array .unknown)).2 hlisting
    refine ⟨output, warnings, hconvert, hmatch.unknown (.inr ?_), mt hmatch.declarations.1 ?_⟩
    · exact ⟨"Root = list[Any]", by decide +kernel, by decide⟩
    · decide +kernel

end SampleTypes
