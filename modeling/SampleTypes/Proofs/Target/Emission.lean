import SampleTypes.Proofs.Naming.Declarations
import SampleTypes.Proofs.Target.Scripts

/-!
# Where declarations are written

Every declaration of a graph is written once: as a block of its own at the top level, or inside the
block of the declaration above it.

* each language has its `BlockForm`, and the blocks that it writes for the declarations; the whole
  text is what its script makes of them (`File.text_of`, in Python `Module.text_of`);
* a type is written from the names of what it refers to only (`CSharp.TypeExpr.of_congr`,
  `Python.TypeHint.of_congr`), so that it is enough to know the names of what is nested;
* `declarations_written_once` is the main result.
-/

namespace SampleTypes

open Naming (Declaration Declares Graph TypeRef)

namespace Target

variable {settings : Settings} {graph : Graph} {d : Declaration}

/-- The names that a declaration writes for those under it are their headers. -/
theorem lookup_nestedName (hstyle : settings.nestedStyle = .inside) (hasc : graph.Ascending)
    (hd : d ∈ graph.declarations) {id : Nat} (hid : id ∈ d.children) :
    (d.nested.map fun c => (c.id, nestedName settings.convention d.members c.name)).lookup id
      = some (settings.header graph id) := by
  have hnames : (d.nested.map fun c => (c.id, nestedName settings.convention d.members c.name))
      = d.children.map fun id => (id, settings.header graph id) := by
    rw [Declaration.children, List.map_map]
    apply List.map_congr_left
    intro c hc
    rw [Function.comp_apply, Settings.header_of_mem_nested hstyle hasc hd hc]
  rw [hnames]
  exact List.lookup_graph (settings.header graph) hid

/-! ### C# -/

namespace CSharp

theorem TypeExpr.of_congr {f g : Nat → String} : (t : TypeRef) →
    (∀ id ∈ t.references, f id = g id) → TypeExpr.of f t = TypeExpr.of g t
  | .unknown, _ => rfl
  | .union _, _ => rfl
  | .primitive _, _ => rfl
  | .declared id, h => congrArg TypeExpr.name (h id List.mem_cons_self)
  | .array t, h => congrArg TypeExpr.list (TypeExpr.of_congr t h)
  | .nullable t, h => congrArg TypeExpr.orNull (TypeExpr.of_congr t h)

theorem Property.of_congr {f g : Nat → String} {m : Naming.Member}
    (h : ∀ id ∈ m.type.references, f id = g id) : Property.of f m = Property.of g m := by
  rw [Property.of, Property.of, TypeExpr.of_congr m.type h]

theorem nestAll_eq_map (convention : Ident.Convention) (siblings : List Naming.Member)
    (ds : List Declaration) :
    nestAll convention siblings ds
      = ds.map fun d => nest convention (nestedName convention siblings d.name) d := by
  induction ds with
  | nil => rfl
  | cons d ds ih => rw [nestAll, ih, List.map_cons]

theorem nest_eq (convention : Ident.Convention) (name : String) (d : Declaration) :
    nest convention name d =
      { name
        properties := d.members.map (Property.of fun id => ((d.nested.map fun c =>
          (c.id, nestedName convention d.members c.name)).lookup id).getD "")
        nested := nestAll convention d.members d.nested } := by
  obtain ⟨id, _, members, nested⟩ := d
  rw [nest]

theorem texts_eq_map (kind : DeclarationKind) (level : Nat) (ds : List TypeDeclaration) :
    TypeDeclaration.texts kind level ds = ds.map (TypeDeclaration.text kind level) := by
  induction ds with
  | nil => rfl
  | cons d ds ih => rw [TypeDeclaration.texts, ih, List.map_cons]

/-- The text of a declaration on a level, given the texts of those inside it. -/
theorem text_eq (kind : DeclarationKind) (level : Nat) (d : TypeDeclaration) :
    d.text kind level =
      if kind = .record then
        recordText level d (d.nested.map (TypeDeclaration.text kind (level + 1)))
      else classText (keyword kind) level d
        (d.nested.map (TypeDeclaration.text kind (level + 1))) := by
  obtain ⟨name, properties, nested⟩ := d
  cases kind with
  | plainClass =>
    rw [TypeDeclaration.text, texts_eq_map]
    · rfl
    · rintro ⟨⟩
  | record =>
    rw [TypeDeclaration.text, texts_eq_map]
    rfl
  | struct =>
    rw [TypeDeclaration.text, texts_eq_map]
    · rfl
    · rintro ⟨⟩

/-- How blocks of a kind look. -/
def form (kind : DeclarationKind) : BlockForm TypeDeclaration where
  script := script kind
  name := (·.name)
  inside := (·.nested)
  members level d := d.properties.map (Property.text kind level)
  text := TypeDeclaration.text kind
  text_eq level d := by
    rw [text_eq]
    cases kind <;> rfl

theorem File.usings_sublist (file : File) :
    file.usings.Sublist (script file.kind).imports := by
  show file.usings.Sublist
    ["using System.Collections.Generic;", "using System.Text.Json.Serialization;"]
  unfold File.usings
  cases file.usesLists <;> cases file.usesAttributes <;> decide

/-- The file for a graph is its directives, its declarations and the comment for the root. -/
theorem File.text_of (settings : Settings) (graph : Graph) :
    (File.of settings graph).text = (script settings.declarationKind).file
      (File.of settings graph).usings
      ((File.of settings graph).declarations.map (TypeDeclaration.text settings.declarationKind 0))
      (Language.csharp.alias? settings graph) := by
  unfold File.text script Language.alias? Language.aliasText
  dsimp only
  rw [texts_eq_map]
  rfl

/-- The block of a declaration. -/
def block (settings : Settings) (graph : Graph) (d : Declaration) : TypeDeclaration :=
  match settings.nestedStyle with
  | .hoisted => TypeDeclaration.hoisted graph d
  | .inside => nest settings.convention (settings.header graph d.id) d

theorem block_of_hoisted (hstyle : settings.nestedStyle = .hoisted) :
    block settings graph = TypeDeclaration.hoisted graph := by
  funext d
  rw [block, hstyle]

theorem block_of_inside (hstyle : settings.nestedStyle = .inside) :
    block settings graph = fun d => nest settings.convention (settings.header graph d.id) d := by
  funext d
  rw [block, hstyle]

/-- A block has the header of its declaration, and holds the blocks of those that stand inside. -/
theorem block_eq (hasc : graph.Ascending) (htree : settings.nestedStyle = .inside → graph.Tree)
    (hd : d ∈ graph.declarations) :
    block settings graph d =
      { name := settings.header graph d.id
        properties := d.members.map (Property.of (settings.header graph))
        nested := (settings.within graph d.id).map (block settings graph) } := by
  cases hstyle : settings.nestedStyle with
  | hoisted =>
    rw [Settings.within_of_hoisted hstyle, Settings.header_of_hoisted hstyle, hasc.nameOf_eq hd,
      block_of_hoisted hstyle]
    rfl
  | inside =>
    have hproperties : d.members.map (Property.of fun id => ((d.nested.map fun c =>
          (c.id, nestedName settings.convention d.members c.name)).lookup id).getD "")
        = d.members.map (Property.of (settings.header graph)) := by
      apply List.map_congr_left
      intro m hm
      apply Property.of_congr
      intro id hid
      have hchild := (htree hstyle).mem_children hd hm hid
      rw [lookup_nestedName hstyle hasc hd hchild, Option.getD_some]
    have hnested : nestAll settings.convention d.members d.nested
        = d.nested.map (block settings graph) := by
      rw [nestAll_eq_map, block_of_inside hstyle]
      apply List.map_congr_left
      intro c hc
      rw [Settings.header_of_mem_nested hstyle hasc hd hc]
    rw [Settings.within_of_inside hstyle hasc hd, ← hproperties, ← hnested]
    simp only [block, hstyle]
    rw [nest_eq]

theorem File.declarations_eq (hasc : graph.Ascending) :
    (File.of settings graph).declarations
      = (settings.topLevel graph).map (block settings graph) := by
  cases hstyle : settings.nestedStyle with
  | hoisted =>
    rw [Settings.topLevel_of_hoisted hstyle, block_of_hoisted hstyle]
    simp only [File.of, hstyle]
  | inside =>
    rw [Settings.topLevel_of_inside hstyle, block_of_inside hstyle]
    simp only [File.of, hstyle]
    apply List.map_congr_left
    intro d hd
    rw [Settings.header_of_mem_forest hstyle hasc hd]

theorem blocks_of (hasc : graph.Ascending) (htree : settings.nestedStyle = .inside → graph.Tree) :
    Blocks (form settings.declarationKind) settings graph (settings.topLevel graph)
      (File.of settings graph).declarations (File.of settings graph).text
      (block settings graph) := by
  have hfile := File.text_of settings graph
  rw [Language.alias?_eq_aliasLine] at hfile
  refine Blocks.of_block hasc (.refl _) (File.declarations_eq hasc) ?_ ?_ ?_
    ⟨_, File.usings_sublist _, hfile⟩
  · intro d hd
    rw [block_eq hasc htree hd]
    rfl
  · intro d hd
    rw [block_eq hasc htree hd]
    rfl
  · intro d hd level
    rw [block_eq hasc htree hd]
    show (d.members.map (Property.of (settings.header graph))).map _ = _
    rw [List.map_map]
    exact List.map_congr_left fun m _ =>
      Property.text_of settings.declarationKind (settings.header graph) level m

end CSharp

/-! ### Python -/

/-- The declarations, with the one that the root leads to first moved to the end. -/
def rootAtEnd (graph : Graph) (ds : List Declaration) : List Declaration :=
  ds.filter (fun d => graph.rootDeclaration? ≠ some d.id)
    ++ ds.filter fun d => graph.rootDeclaration? = some d.id

theorem rootAtEnd_perm (graph : Graph) (ds : List Declaration) : (rootAtEnd graph ds).Perm ds := by
  have hperm := List.filter_append_perm (fun d => decide (graph.rootDeclaration? = some d.id)) ds
  simp only [← decide_not] at hperm
  exact List.perm_append_comm.trans hperm

namespace Python

/-- The root leads to a declaration of the forest, if to any. -/
theorem filter_isRoot (hasc : graph.Ascending) (htree : graph.Tree) :
    graph.declarations.filter (fun d => graph.rootDeclaration? = some d.id)
      = graph.forest.filter fun d => graph.rootDeclaration? = some d.id := by
  cases hroot : graph.rootDeclaration? with
  | none => simp
  | some id =>
    rw [Graph.rootDeclaration?, TypeRef.firstDeclared?_eq_head?, htree.root] at hroot
    obtain ⟨d, hd, rfl⟩ := List.mem_map.1 (List.mem_of_head? hroot)
    have hsub := Declaration.sublist_withNested graph.forest
    have hforest : (graph.forest.map (·.id)).Nodup := hasc.nodup.sublist (hsub.map _)
    simp only [Option.some.injEq, eq_comm (a := d.id)]
    rw [Keyed.filter_eq_singleton hasc.nodup (hsub.subset hd),
      Keyed.filter_eq_singleton hforest hd]

theorem rootLast_topLevel (hasc : graph.Ascending)
    (htree : settings.nestedStyle = .inside → graph.Tree) :
    rootLast graph (settings.topLevel graph) = rootAtEnd graph (settings.topLevel graph) := by
  have hroots : graph.declarations.filter (fun d => graph.rootDeclaration? = some d.id)
      = (settings.topLevel graph).filter fun d => graph.rootDeclaration? = some d.id := by
    cases hstyle : settings.nestedStyle with
    | hoisted => rw [Settings.topLevel_of_hoisted hstyle]
    | inside =>
      rw [Settings.topLevel_of_inside hstyle]
      exact filter_isRoot hasc (htree hstyle)
  rw [rootAtEnd, ← hroots, rootLast]
  congr 1
  · apply List.filter_congr
    intro d _
    by_cases h : graph.rootDeclaration? = some d.id <;> simp [h]
  · apply List.filter_congr
    intro d _
    by_cases h : graph.rootDeclaration? = some d.id <;> simp [h]

mutual

theorem TypeHint.of_congr {f g : Nat → List String} : (t : TypeRef) →
    (∀ id ∈ t.references, f id = g id) → TypeHint.of f t = TypeHint.of g t
  | .unknown, _ => rfl
  | .primitive _, _ => rfl
  | .declared id, h => congrArg TypeHint.name (h id List.mem_cons_self)
  | .array t, h => congrArg TypeHint.list (TypeHint.of_congr t h)
  | .nullable t, h => congrArg TypeHint.orNone (TypeHint.of_congr t h)
  | .union ts, h => congrArg TypeHint.union (TypeHint.ofArms_congr ts h)

theorem TypeHint.ofArms_congr {f g : Nat → List String} : (ts : List TypeRef) →
    (∀ id ∈ TypeRef.referencesOf ts, f id = g id) → TypeHint.ofArms f ts = TypeHint.ofArms g ts
  | [], _ => rfl
  | t :: ts, h => by
    rw [TypeRef.referencesOf, List.forall_mem_append] at h
    rw [TypeHint.ofArms, TypeHint.ofArms, TypeHint.of_congr t h.1, TypeHint.ofArms_congr ts h.2]

end

theorem ClassField.of_congr {f g : Nat → List String} {m : Naming.Member}
    (h : ∀ id ∈ m.type.references, f id = g id) : ClassField.of f m = ClassField.of g m := by
  rw [ClassField.of, ClassField.of, TypeHint.of_congr m.type h]

theorem nestAll_eq_map (convention : Ident.Convention) (path : List String)
    (siblings : List Naming.Member) (ds : List Declaration) :
    nestAll convention path siblings ds
      = ds.map fun d => nest convention path (nestedName convention siblings d.name) d := by
  induction ds with
  | nil => rfl
  | cons d ds ih => rw [nestAll, ih, List.map_cons]

theorem nest_eq (convention : Ident.Convention) (path : List String) (name : String)
    (d : Declaration) :
    nest convention path name d =
      { name
        nested := nestAll convention (path ++ [name]) d.members d.nested
        fields := d.members.map (ClassField.of fun id => path ++ [name] ++ ((d.nested.map fun c =>
          (c.id, nestedName convention d.members c.name)).lookup id).toList) } := by
  obtain ⟨id, _, members, nested⟩ := d
  rw [nest]

theorem texts_eq_map (level : Nat) (cs : List Class) :
    Class.texts level cs = cs.map (Class.text level) := by
  induction cs with
  | nil => rfl
  | cons c cs ih => rw [Class.texts, ih, List.map_cons]

/-- How classes look. -/
def form : BlockForm Class where
  script := script
  name := (·.name)
  inside := (·.nested)
  members level c := c.fields.map (ClassField.text level)
  text := Class.text
  text_eq level c := by
    obtain ⟨name, nested, fields⟩ := c
    rw [Class.text, texts_eq_map]
    cases fields <;> rfl

theorem Module.imports_sublist (m : Module) : m.imports.Sublist script.imports := by
  show m.imports.Sublist ["from dataclasses import dataclass", "from typing import Any"]
  unfold Module.imports
  cases m.classes.isEmpty <;> cases m.usesAny <;> decide

/-- The module for a graph is its imports, its classes and the alias of the root. -/
theorem Module.text_of (settings : Settings) (graph : Graph) :
    (Module.of settings graph).text = script.file (Module.of settings graph).imports
      ((Module.of settings graph).classes.map (Class.text 0))
      (Language.python.alias? settings graph) := by
  unfold Module.text script Language.alias? Language.aliasText
  dsimp only
  rw [texts_eq_map]

/-- The class of a declaration. -/
def block (settings : Settings) (graph : Graph) (d : Declaration) : Class :=
  match settings.nestedStyle with
  | .hoisted => Class.hoisted graph d
  | .inside =>
    nest settings.convention ((settings.around graph d.id).reverse.map (settings.header graph))
      (settings.header graph d.id) d

theorem block_of_hoisted (hstyle : settings.nestedStyle = .hoisted) :
    block settings graph = Class.hoisted graph := by
  funext d
  rw [block, hstyle]

theorem block_of_inside (hstyle : settings.nestedStyle = .inside) :
    block settings graph = fun d =>
      nest settings.convention ((settings.around graph d.id).reverse.map (settings.header graph))
        (settings.header graph d.id) d := by
  funext d
  rw [block, hstyle]

/-- A class has the header of its declaration, and holds the classes of those that stand inside. -/
theorem block_eq (hasc : graph.Ascending) (htree : settings.nestedStyle = .inside → graph.Tree)
    (hd : d ∈ graph.declarations) :
    block settings graph d =
      { name := settings.header graph d.id
        nested := (settings.within graph d.id).map (block settings graph)
        fields := d.members.map (ClassField.of (settings.path graph)) } := by
  cases hstyle : settings.nestedStyle with
  | hoisted =>
    rw [Settings.within_of_hoisted hstyle, Settings.header_of_hoisted hstyle, hasc.nameOf_eq hd,
      Settings.path_of_hoisted hstyle, block_of_hoisted hstyle]
    rfl
  | inside =>
    have hpath : (settings.around graph d.id).reverse.map (settings.header graph)
        ++ [settings.header graph d.id] = settings.path graph d.id := by
      rw [Settings.path, List.reverse_cons, List.map_append]
      rfl
    have hfields : d.members.map (ClassField.of fun id => settings.path graph d.id
          ++ ((d.nested.map fun c =>
            (c.id, nestedName settings.convention d.members c.name)).lookup id).toList)
        = d.members.map (ClassField.of (settings.path graph)) := by
      apply List.map_congr_left
      intro m hm
      apply ClassField.of_congr
      intro id hid
      have hchild := (htree hstyle).mem_children hd hm hid
      obtain ⟨c, hc, rfl⟩ := List.mem_map.1 hchild
      rw [lookup_nestedName hstyle hasc hd hchild,
        Settings.path_of_mem_nested hstyle hasc hd hc]
      rfl
    have hnested : nestAll settings.convention (settings.path graph d.id) d.members d.nested
        = d.nested.map (block settings graph) := by
      rw [nestAll_eq_map, block_of_inside hstyle]
      apply List.map_congr_left
      intro c hc
      rw [Settings.header_of_mem_nested hstyle hasc hd hc,
        Settings.around_of_mem_nested hstyle hasc hd hc]
      rfl
    rw [Settings.within_of_inside hstyle hasc hd, ← hfields, ← hnested]
    simp only [block, hstyle]
    rw [nest_eq, hpath]

theorem Module.classes_eq (hasc : graph.Ascending)
    (htree : settings.nestedStyle = .inside → graph.Tree) :
    (Module.of settings graph).classes
      = (rootAtEnd graph (settings.topLevel graph)).map (block settings graph) := by
  have hlast := rootLast_topLevel hasc htree
  cases hstyle : settings.nestedStyle with
  | hoisted =>
    rw [Settings.topLevel_of_hoisted hstyle] at hlast ⊢
    rw [block_of_hoisted hstyle, ← hlast]
    simp only [Module.of, hstyle]
  | inside =>
    rw [Settings.topLevel_of_inside hstyle] at hlast ⊢
    rw [block_of_inside hstyle]
    simp only [Module.of, hstyle, hlast]
    apply List.map_congr_left
    intro d hd
    have hforest := (rootAtEnd_perm graph graph.forest).subset hd
    rw [Settings.header_of_mem_forest hstyle hasc hforest,
      Settings.around_of_mem_forest hstyle hasc hforest]
    rfl

theorem blocks_of (hasc : graph.Ascending)
    (htree : settings.nestedStyle = .inside → graph.Tree) :
    Blocks form settings graph (rootAtEnd graph (settings.topLevel graph))
      (Module.of settings graph).classes (Module.of settings graph).text
      (block settings graph) := by
  have hfile := Module.text_of settings graph
  rw [Language.alias?_eq_aliasLine] at hfile
  refine Blocks.of_block hasc (rootAtEnd_perm graph _) (Module.classes_eq hasc htree) ?_ ?_ ?_
    ⟨_, Module.imports_sublist _, hfile⟩
  · intro d hd
    rw [block_eq hasc htree hd]
    rfl
  · intro d hd
    rw [block_eq hasc htree hd]
    rfl
  · intro d hd level
    rw [block_eq hasc htree hd]
    show (d.members.map (ClassField.of (settings.path graph))).map _ = _
    rw [List.map_map]
    exact List.map_congr_left fun m _ => ClassField.text_of (settings.path graph) level m

end Python

/-! ### TypeScript and Rust -/

namespace TypeScript

/-- How interfaces look; they are written at the top level only. -/
def form : BlockForm Interface where
  script := script
  name := (·.name)
  inside _ := []
  members _ i := TypeExpr.propertyLines 1 i.properties
  text _ i := i.text
  text_eq _ i := by
    have hindent : indent 0 2 = "" := by
      decide
    have hopening : " \x7b\n" = " " ++ "\x7b\n" := rfl
    unfold Interface.text TypeExpr.text script
    simp only [hindent, hopening, String.append_empty, String.append_assoc]

/-- The file for a graph is its interfaces and the alias of the root. -/
theorem File.text_of (settings : Settings) (graph : Graph) :
    (File.of settings graph).text = script.file []
      ((File.of settings graph).interfaces.map Interface.text)
      (Language.typescript.alias? settings graph) := by
  unfold File.text script Language.alias? Language.aliasText
  rfl

theorem blocks_of (hasc : graph.Ascending) (hstyle : settings.nestedStyle = .hoisted) :
    Blocks form settings graph (settings.topLevel graph)
      (File.of settings graph).interfaces (File.of settings graph).text
      (Interface.hoisted settings.optionalAsNullable graph) := by
  have htop : (File.of settings graph).interfaces
      = (settings.topLevel graph).map (Interface.hoisted settings.optionalAsNullable graph) := by
    rw [Settings.topLevel_of_hoisted hstyle]
    simp only [File.of, hstyle]
  have hfile := File.text_of settings graph
  rw [Language.alias?_eq_aliasLine] at hfile
  refine Blocks.of_block hasc (.refl _) htop ?_ ?_ ?_ ⟨_, .slnil, hfile⟩
  · intro d hd
    rw [Settings.header_of_hoisted hstyle, hasc.nameOf_eq hd]
    rfl
  · intro d hd
    rw [Settings.within_of_hoisted hstyle]
    rfl
  · intro d hd level
    show TypeExpr.propertyLines 1 (Interface.hoisted _ graph d).properties
      = d.members.map (memberText settings.optionalAsNullable (settings.header graph))
    rw [Settings.header_of_hoisted hstyle]
    exact propertyLines_of settings.optionalAsNullable graph.nameOf d.members

end TypeScript

namespace Rust

/-- How structs look; they are written at the top level only. -/
def form : BlockForm Struct where
  script := script
  name := (·.name)
  inside _ := []
  members _ s := s.fields.map StructField.text
  text _ s := s.text
  text_eq _ s := by
    unfold Struct.text script
    dsimp only
    rw [List.isEmpty_map]

/-- The file for a graph is its import, its structs and the alias of the root. -/
theorem File.text_of (settings : Settings) (graph : Graph) : ∃ imports,
    imports.Sublist script.imports ∧ (File.of settings graph).text = script.file imports
      ((File.of settings graph).structs.map Struct.text)
      (Language.rust.alias? settings graph) := by
  refine ⟨if (File.of settings graph).structs.isEmpty then [] else script.imports, ?_, ?_⟩
  · split
    · exact List.nil_sublist _
    · exact .refl _
  · unfold File.text script Language.alias? Language.aliasText
    rfl

theorem blocks_of (hasc : graph.Ascending) (hstyle : settings.nestedStyle = .hoisted) :
    Blocks form settings graph (settings.topLevel graph)
      (File.of settings graph).structs (File.of settings graph).text
      (Struct.of settings.optionalAsNullable graph) := by
  have htop : (File.of settings graph).structs
      = (settings.topLevel graph).map (Struct.of settings.optionalAsNullable graph) := by
    rw [Settings.topLevel_of_hoisted hstyle]
    rfl
  have hfile := File.text_of settings graph
  rw [Language.alias?_eq_aliasLine] at hfile
  refine Blocks.of_block hasc (.refl _) htop ?_ ?_ ?_ hfile
  · intro d hd
    rw [Settings.header_of_hoisted hstyle, hasc.nameOf_eq hd]
    rfl
  · intro d hd
    rw [Settings.within_of_hoisted hstyle]
    rfl
  · intro d hd level
    show (d.members.map (StructField.of settings.optionalAsNullable graph.nameOf)).map _ = _
    rw [List.map_map, ← Settings.header_of_hoisted hstyle]
    exact List.map_congr_left fun m _ =>
      StructField.text_of settings.optionalAsNullable (settings.header graph) m

end Rust

/-! ### All languages -/

/--
The text is made of one block for each declaration, at its place, with the members of the
declaration in it, which call others what their blocks are called.
-/
def Language.Writes (language : Language) (settings : Settings) (graph : Graph) (text : String) :
    Prop :=
  match language with
  | .csharp => ∃ block,
      Blocks (CSharp.form settings.declarationKind) settings graph (settings.topLevel graph)
        (CSharp.File.of settings graph).declarations text block ∧
      ∀ d ∈ graph.declarations, (block d).properties
        = d.members.map (CSharp.Property.of (settings.header graph))
  | .python => ∃ block,
      Blocks Python.form settings graph (rootAtEnd graph (settings.topLevel graph))
        (Python.Module.of settings graph).classes text block ∧
      ∀ d ∈ graph.declarations, (block d).fields
        = d.members.map (Python.ClassField.of (settings.path graph))
  | .typescript => settings.nestedStyle = .hoisted → ∃ block,
      Blocks TypeScript.form settings graph (settings.topLevel graph)
        (TypeScript.File.of settings graph).interfaces text block ∧
      ∀ d ∈ graph.declarations, (block d).properties
        = d.members.map (TypeScript.Property.of settings.optionalAsNullable
            fun id => .name (settings.header graph id))
  | .rust => ∃ block,
      Blocks Rust.form settings graph (settings.topLevel graph)
        (Rust.File.of settings graph).structs text block ∧
      ∀ d ∈ graph.declarations, (block d).fields
        = d.members.map (Rust.StructField.of settings.optionalAsNullable (settings.header graph))

theorem writes_render (language : Language) (hasc : graph.Ascending)
    (htree : settings.nestedStyle = .inside → graph.Tree)
    (hsupport : settings.nestedStyle = .inside → language.supportsInline) :
    language.Writes settings graph (language.render settings graph) := by
  cases language with
  | csharp =>
    refine ⟨CSharp.block settings graph, CSharp.blocks_of hasc htree, fun d hd => ?_⟩
    rw [CSharp.block_eq hasc htree hd]
  | python =>
    refine ⟨Python.block settings graph, Python.blocks_of hasc htree, fun d hd => ?_⟩
    rw [Python.block_eq hasc htree hd]
  | typescript =>
    intro hstyle
    refine ⟨_, TypeScript.blocks_of hasc hstyle, fun d hd => ?_⟩
    rw [Settings.header_of_hoisted hstyle]
    rfl
  | rust =>
    have hstyle : settings.nestedStyle = .hoisted := by
      cases hstyle : settings.nestedStyle with
      | hoisted => rfl
      | inside => exact absurd (hsupport hstyle) Bool.false_ne_true
    refine ⟨_, Rust.blocks_of hasc hstyle, fun d hd => ?_⟩
    rw [Settings.header_of_hoisted hstyle]
    rfl

end Target

/-- What is written for a shape has all its declarations. -/
theorem Settings.writes_graph {settings : Settings} {language : Target.Language}
    (h : settings.check = .ok language) (shape : Shape) :
    language.Writes settings (settings.graph language shape)
      (language.render settings (settings.graph language shape)) := by
  have hasc : (settings.graph language shape).Ascending :=
    Naming.ascending_resolve (settings.naming language) shape settings.rootName
  have htree : settings.nestedStyle = .inside → (settings.graph language shape).Tree :=
    fun hstyle => Naming.tree_resolve (not_shareIdentical_of_check h hstyle) shape settings.rootName
  exact Target.writes_render language hasc htree (check_eq_ok_iff.1 h).2.2

/--
**Every declaration is written once**, where the declarations around it tell, and members refer to
where it is written.  The declarations are those of the objects of the shape, depth first; the text
consists of their blocks.
-/
theorem declarations_written_once (settings : Settings) (language : Target.Language)
    (h : settings.check = .ok language) (shape : Shape) :
    let graph := settings.graph language shape
    (∃ warnings, settings.convertShape shape
        = .ok ⟨language.render settings graph, warnings⟩) ∧
      (∃ objects : List (List Field), objects.Sublist shape.objects ∧
        (settings.shareIdentical = false → objects = shape.objects) ∧
        Declares objects 0 graph.declarations objects) ∧
      (settings.nestedStyle = .inside → ∀ d ∈ graph.declarations,
        d.members.flatMap (·.type.references) = (settings.within graph d.id).map (·.id)) ∧
      language.Writes settings graph (language.render settings graph) := by
  intro graph
  obtain ⟨objects, hsub, hall, -, hdeclares⟩ :=
    Naming.declares_resolve (settings.naming language) shape settings.rootName
  refine ⟨Settings.convertShape_of_check h shape, ⟨objects, hsub, hall, hdeclares⟩, ?_,
    Settings.writes_graph h shape⟩
  intro hstyle d hd
  have hasc : graph.Ascending := hdeclares.ascending
  have htree : graph.Tree :=
    Naming.tree_resolve (Settings.not_shareIdentical_of_check h hstyle) shape settings.rootName
  rw [Settings.within_of_inside hstyle hasc hd]
  exact htree.members d hd

/-- Classes three deep, which are called by their paths. -/
theorem nested_declarations_written_once :
    let settings : Settings := { targetLanguage := "py", nestedStyle := .inside }
    let shape : Shape :=
      .object [⟨"address", .array (.object [⟨"city", .object [], true⟩]), false⟩]
    let graph := settings.graph .python shape
    settings.check = .ok .python ∧
      Target.Language.python.Writes settings graph (Target.Language.python.render settings graph) ∧
      settings.path graph 2 = ["Root", "AddressType", "CityType"] := by
  intro settings shape graph
  have hcheck : settings.check = .ok .python := by
    decide +kernel
  refine ⟨hcheck, (declarations_written_once settings .python hcheck shape).2.2.2, ?_⟩
  decide +kernel

end SampleTypes
