import SampleTypes.Proofs.Naming.TypeNames
import SampleTypes.Proofs.Target.Emission

/-!
# Names inside a class

A class with classes inside it has two kinds of names in it, those of the inner classes and those of
its members, which should all be apart; in C# they should be apart from its own name as well.  An
inner class that would be called like a member is called something else, with a suffix.  The names
that the resolver gave are apart.  Whether those with a suffix are is not looked up: a class whose
names are not apart has one with a suffix among them, which another name meets.

* `Apart` says that the names in a class are apart, `SuffixesApart` that those with a suffix are;
* `Graph.TypeNames.nodup_names`: the names that were given to a declaration and those under it;
* `apart_iff_suffixesApart` is the main result.
-/

namespace SampleTypes

open Naming (Declaration Graph)
open Naming.Declaration (withNested)

/-! ### The names that were given -/

namespace Naming

/-- A declaration is one of the forest or stands under one of it. -/
theorem Declaration.mem_or_exists_of_mem_withNested {d : Declaration} {ds : List Declaration}
    (h : d ∈ withNested ds) : d ∈ ds ∨ ∃ e ∈ ds, d ∈ withNested e.nested := by
  rw [Declaration.withNested_eq_flatMap, List.mem_flatMap] at h
  obtain ⟨e, he, hd⟩ := h
  rcases List.mem_cons.1 hd with rfl | hd
  · exact .inl he
  · exact .inr ⟨e, he, hd⟩

theorem Declaration.names_sublist_innerNames {d : Declaration} {ds : List Declaration}
    (h : d ∈ ds) : (Declaration.names d.nested).Sublist (Declaration.innerNames ds) := by
  obtain ⟨before, after, rfl⟩ := List.append_of_mem h
  rw [Declaration.innerNames, List.flatMap_append, List.flatMap_cons]
  exact (List.sublist_append_left _ _).trans (List.sublist_append_right _ _)

/-- A declaration and those under it have distinct names. -/
theorem Graph.TypeNames.nodup_names {graph : Graph} {reserved : List String}
    (h : graph.TypeNames reserved) {d : Declaration} (hd : d ∈ graph.declarations) :
    (d.name :: Declaration.names d.nested).Nodup := by
  rcases Declaration.mem_or_exists_of_mem_withNested hd with hd | ⟨e, he, hd⟩
  · rw [List.nodup_cons, h.outer d hd]
    have hsub := Declaration.names_sublist_innerNames hd
    constructor
    · intro hmem
      exact (h.inner graph.rootName (hsub.subset hmem)).1 rfl
    · exact h.nodup.sublist hsub
  · have hnames := (Declaration.cons_withNested_sublist hd).map (·.name)
    exact h.nodup.sublist (hnames.trans (Declaration.names_sublist_innerNames he))

end Naming

namespace Target

theorem nestedName_of_notMem {convention : Ident.Convention} {siblings : List Naming.Member}
    {name : String} (h : name ∉ siblings.map (·.ident)) :
    nestedName convention siblings name = name := by
  rw [nestedName, if_neg]
  intro hany
  obtain ⟨m, hm, heq⟩ := List.any_eq_true.1 hany
  exact h (List.mem_map.2 ⟨m, hm, eq_of_beq heq⟩)

/-! ### Names apart -/

/--
The names in a class are apart: those of the classes inside it from each other and from those of
the members, and all from its own where that is given.
-/
structure Apart (ownName : Option String) (inner idents : List String) : Prop where
  nested : inner.Nodup
  members : ∀ name ∈ inner, name ∉ idents
  own : ∀ name, ownName = some name → name ∉ idents ∧ name ∉ inner

/--
The names with a suffix are apart from the others in a class: those of the classes inside it, which
have a suffix if a member has the name that they were given, and where `sharing` is not allowed its
own if it has a suffix.
-/
structure SuffixesApart (settings : Settings) (graph : Graph) (sharing : Bool) (d : Declaration) :
    Prop where
  members : ∀ c ∈ d.nested, c.name ∈ d.members.map (·.ident) →
    settings.header graph c.id ∉ d.members.map (·.ident)
  nested : ∀ c ∈ d.nested, c.name ∈ d.members.map (·.ident) →
    ∀ e ∈ d.nested, settings.header graph e.id = settings.header graph c.id → e.id = c.id
  outer : sharing = false → ∀ c ∈ d.nested, c.name ∈ d.members.map (·.ident) →
    settings.header graph c.id ≠ settings.header graph d.id
  own : sharing = false → settings.header graph d.id ≠ d.name →
    settings.header graph d.id ∉ d.members.map (·.ident) ∧
      ∀ c ∈ d.nested, settings.header graph c.id ≠ settings.header graph d.id

section Apart

variable {settings : Settings} {graph : Graph} {d : Declaration}

/-- **Only names with a suffix can clash.** -/
theorem apart_iff_suffixesApart (sharing : Bool) (hstyle : settings.nestedStyle = .inside)
    (hasc : graph.Ascending) (hd : d ∈ graph.declarations)
    (hnames : (d.name :: d.nested.map (·.name)).Nodup)
    (hown : sharing = false → d.name ∉ d.members.map (·.ident)) :
    Apart (if sharing then none else some (settings.header graph d.id))
        (d.nested.map fun c => settings.header graph c.id) (d.members.map (·.ident))
      ↔ SuffixesApart settings graph sharing d := by
  have hids : (d.nested.map (·.id)).Nodup := by
    have hsub := (Declaration.cons_withNested_sublist hd).map (·.id)
    have hnested := (Declaration.sublist_withNested d.nested).map (·.id)
    exact hasc.nodup.sublist ((hnested.trans (List.sublist_cons_self _ _)).trans hsub)
  -- without a suffix the name is the one that was given
  have hkept : ∀ c ∈ d.nested, c.name ∉ d.members.map (·.ident) →
      settings.header graph c.id = c.name := by
    intro c hc hfree
    rw [Settings.header_of_mem_nested hstyle hasc hd hc, nestedName_of_notMem hfree]
  rw [List.nodup_cons] at hnames
  constructor
  · intro h
    constructor
    · intro c hc _
      exact h.members _ (List.mem_map_of_mem hc)
    · intro c hc _ e he heq
      rw [List.inj_on_of_nodup_map h.nested he hc heq]
    · intro hsharing c hc _ heq
      rw [hsharing] at h
      apply (h.own (settings.header graph d.id) rfl).2
      rw [← heq]
      exact List.mem_map_of_mem hc
    · intro hsharing _
      rw [hsharing] at h
      obtain ⟨hmembers, hnested⟩ := h.own (settings.header graph d.id) rfl
      refine ⟨hmembers, fun c hc heq => hnested ?_⟩
      rw [← heq]
      exact List.mem_map_of_mem hc
  · intro h
    constructor
    · refine List.Nodup.map_on (fun c hc e he heq => ?_) hids.of_map
      by_cases hcs : c.name ∈ d.members.map (·.ident)
      · exact (List.inj_on_of_nodup_map hids he hc (h.nested c hc hcs e he heq.symm)).symm
      · by_cases hes : e.name ∈ d.members.map (·.ident)
        · exact List.inj_on_of_nodup_map hids hc he (h.nested e he hes c hc heq)
        · rw [hkept c hc hcs, hkept e he hes] at heq
          exact List.inj_on_of_nodup_map hnames.2 hc he heq
    · intro name hname
      obtain ⟨c, hc, rfl⟩ := List.mem_map.1 hname
      by_cases hcs : c.name ∈ d.members.map (·.ident)
      · exact h.members c hc hcs
      · rw [hkept c hc hcs]
        exact hcs
    · intro name hname
      cases hsharing : sharing with
      | true =>
        rw [hsharing] at hname
        cases hname
      | false =>
        rw [hsharing] at hname
        obtain rfl := Option.some.inj hname
        by_cases hsame : settings.header graph d.id = d.name
        · refine ⟨hsame ▸ hown hsharing, fun hmem => ?_⟩
          obtain ⟨c, hc, heq⟩ := List.mem_map.1 hmem
          by_cases hcs : c.name ∈ d.members.map (·.ident)
          · exact h.outer hsharing c hc hcs heq
          · rw [hkept c hc hcs, hsame] at heq
            exact hnames.1 (List.mem_map.2 ⟨c, hc, heq⟩)
        · obtain ⟨hmembers, hnested⟩ := h.own hsharing hsame
          refine ⟨hmembers, fun hmem => ?_⟩
          obtain ⟨c, hc, heq⟩ := List.mem_map.1 hmem
          exact hnested c hc heq

/-- The names in the block of a declaration, in C#. -/
theorem CSharp.names_block (hstyle : settings.nestedStyle = .inside) (hasc : graph.Ascending)
    (htree : graph.Tree) (hd : d ∈ graph.declarations) :
    (block settings graph d).name = settings.header graph d.id ∧
      (block settings graph d).nested.map (·.name)
        = d.nested.map (fun c => settings.header graph c.id) ∧
      (block settings graph d).properties.map (·.ident) = d.members.map (·.ident) := by
  rw [block_eq hasc (fun _ => htree) hd, Settings.within_of_inside hstyle hasc hd, List.map_map,
    List.map_map]
  refine ⟨rfl, List.map_congr_left fun c hc => ?_, rfl⟩
  have hmem := Declaration.mem_withNested_of_mem_nested hd hc
  rw [Function.comp_apply, block_eq hasc (fun _ => htree) hmem]

/-- The names in the block of a declaration, in Python. -/
theorem Python.names_block (hstyle : settings.nestedStyle = .inside) (hasc : graph.Ascending)
    (htree : graph.Tree) (hd : d ∈ graph.declarations) :
    (block settings graph d).nested.map (·.name)
        = d.nested.map (fun c => settings.header graph c.id) ∧
      (block settings graph d).fields.map (·.ident) = d.members.map (·.ident) := by
  rw [block_eq hasc (fun _ => htree) hd, Settings.within_of_inside hstyle hasc hd, List.map_map,
    List.map_map]
  refine ⟨List.map_congr_left fun c hc => ?_, rfl⟩
  have hmem := Declaration.mem_withNested_of_mem_nested hd hc
  rw [Function.comp_apply, block_eq hasc (fun _ => htree) hmem]

end Apart

end Target

/--
**The names in a class are apart just if those with a suffix are.**  The names that the classes
were given are apart, and in C# a member is not called like its class was.
-/
theorem names_in_class_apart_iff (settings : Settings) (language : Target.Language)
    (h : settings.check = .ok language) (hstyle : settings.nestedStyle = .inside) (shape : Shape) :
    let graph := settings.graph language shape
    (∀ d ∈ graph.declarations, (d.name :: d.nested.map (·.name)).Nodup ∧
      (language = .csharp → d.name ∉ d.members.map (·.ident))) ∧
    (language = .csharp → ∃ block,
      Target.Blocks (Target.CSharp.form settings.declarationKind) settings graph graph.forest
        (Target.CSharp.File.of settings graph).declarations (language.render settings graph) block ∧
      ∀ d ∈ graph.declarations,
        (Target.Apart (some (block d).name) ((block d).nested.map (·.name))
            ((block d).properties.map (·.ident))
          ↔ Target.SuffixesApart settings graph false d)) ∧
    (language = .python → ∃ block,
      Target.Blocks Target.Python.form settings graph (Target.rootAtEnd graph graph.forest)
        (Target.Python.Module.of settings graph).classes (language.render settings graph) block ∧
      ∀ d ∈ graph.declarations,
        (Target.Apart none ((block d).nested.map (·.name)) ((block d).fields.map (·.ident))
          ↔ Target.SuffixesApart settings graph true d)) := by
  intro graph
  have hasc : graph.Ascending := Naming.ascending_resolve _ shape _
  have htree : graph.Tree :=
    Naming.tree_resolve (Settings.not_shareIdentical_of_check h hstyle) shape settings.rootName
  have htypes := (Naming.typeNames_resolve (settings.naming language) shape settings.rootName).1
  have hnames : ∀ d ∈ graph.declarations, (d.name :: d.nested.map (·.name)).Nodup := by
    intro d hd
    have hsub := (Declaration.sublist_withNested d.nested).map (·.name)
    exact (htypes.nodup_names hd).sublist (hsub.cons_cons d.name)
  have hown : language.memberMayShareTypeName = false →
      ∀ d ∈ graph.declarations, d.name ∉ d.members.map (·.ident) := by
    intro hlanguage d hd
    have hbuilt := Naming.built_of_mem_declarations (settings.naming language) shape
      settings.rootName d hd
    exact hbuilt.name_notMem_idents hlanguage
  have htop : settings.topLevel graph = graph.forest := Settings.topLevel_of_inside hstyle
  refine ⟨fun d hd => ⟨hnames d hd, ?_⟩, ?_, ?_⟩
  · rintro rfl
    exact hown rfl d hd
  · rintro rfl
    refine ⟨_, htop ▸ Target.CSharp.blocks_of hasc fun _ => htree, fun d hd => ?_⟩
    obtain ⟨hname, hnested, hidents⟩ := Target.CSharp.names_block hstyle hasc htree hd
    rw [hname, hnested, hidents]
    exact Target.apart_iff_suffixesApart false hstyle hasc hd (hnames d hd) fun _ => hown rfl d hd
  · rintro rfl
    refine ⟨_, htop ▸ Target.Python.blocks_of hasc fun _ => htree, fun d hd => ?_⟩
    obtain ⟨hnested, hidents⟩ := Target.Python.names_block hstyle hasc htree hd
    rw [hnested, hidents]
    exact Target.apart_iff_suffixesApart true hstyle hasc hd (hnames d hd) fun hsharing =>
      absurd hsharing.symm Bool.false_ne_true

/-- Classes three deep, two of them with a suffix. -/
theorem names_in_classes_three_deep :
    let settings : Settings := { nestedStyle := .inside }
    let shape : Shape := .object [⟨"address", .object [⟨"city", .object [], false⟩], false⟩]
    let graph := settings.graph .csharp shape
    settings.check = .ok .csharp ∧ settings.nestedStyle = .inside ∧
      graph.declarations.map (·.name) = ["Root", "Address", "City"] ∧
      ∀ d ∈ graph.declarations, (d.name :: d.nested.map (·.name)).Nodup ∧
        d.name ∉ d.members.map (·.ident) := by
  intro settings shape graph
  have hcheck : settings.check = .ok .csharp := by
    decide +kernel
  have hnames := (names_in_class_apart_iff settings .csharp hcheck rfl shape).1
  refine ⟨hcheck, rfl, by decide +kernel, fun d hd => ?_⟩
  exact ⟨(hnames d hd).1, (hnames d hd).2 rfl⟩

/-- A class inside another that is called like a member beside it, on account of its suffix. -/
theorem class_named_like_member :
    let settings : Settings := { nestedStyle := .inside }
    let sample : Json.Value := .object
      [("address", .object [("a", .number (.integer 1))]), ("addressType", .string "x")]
    let graph := settings.graph .csharp (Shape.ofSamples [sample])
    settings.check = .ok .csharp ∧ ∃ t ∈ (Target.CSharp.File.of settings graph).declarations,
      t.nested.map (·.name) = ["AddressType"] ∧
      t.properties.map (·.ident) = ["Address", "AddressType"] ∧
      ¬ Target.Apart (some t.name) (t.nested.map (·.name)) (t.properties.map (·.ident)) := by
  intro settings sample graph
  have hshape : Shape.ofSamples [sample] =
      .object [⟨"address", .object [⟨"a", .primitive .integer, false⟩], false⟩,
        ⟨"addressType", .primitive .string, false⟩] := by
    cbv
  have hclass : ∃ t ∈ (Target.CSharp.File.of settings graph).declarations,
      t.nested.map (·.name) = ["AddressType"] ∧
      t.properties.map (·.ident) = ["Address", "AddressType"] := by
    show ∃ t ∈ (Target.CSharp.File.of settings
      (settings.graph .csharp (Shape.ofSamples [sample]))).declarations, _
    rw [hshape]
    decide +kernel
  obtain ⟨t, ht, hnested, hidents⟩ := hclass
  refine ⟨by decide +kernel, t, ht, hnested, hidents, fun hapart => ?_⟩
  rw [hnested, hidents] at hapart
  exact hapart.members "AddressType" (by decide) (by decide)

end SampleTypes
