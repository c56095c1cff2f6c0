import Mathlib.Logic.Relation
import SampleTypes.Proofs.Distinct
import SampleTypes.Proofs.Naming.Places
import SampleTypes.Proofs.Naming.Visits

/-!
# Shared declarations

With sharing, objects that are equal have one declaration, and others have not: the declarations are
the distinct objects of the shape in the order in which they are first met.

* `Interned` ties the names under way to the objects that the walk has passed, each with all that is
  inside it.  An object that is looked up is found if an equal one was passed before.  That one
  cannot be under way still, since what is inside an object is smaller; so nothing inside the two is
  left out (`Closed`);
* `declares_declaredObjects` says which objects have a declaration, with sharing or without;
* `Graph.Refers` leads to smaller objects, so that it has no cycle (`not_transGen_refers_self`);
* `Graph.Shared` says what holds of the graph, and `shared_resolve` is the main result.
-/

namespace SampleTypes

open List (Forall₂)

/-! ### Objects inside others -/

namespace Shape

/-- With each object come those inside it, in their order. -/
def Nests (objects : List (List Field)) : Prop :=
  ∀ fs ∈ objects, (fs :: objectsOfFields fs).Sublist objects

theorem Nests.flatMap {α : Type} {l : List α} {f : α → List (List Field)}
    (h : ∀ a ∈ l, Nests (f a)) : Nests (l.flatMap f) := by
  intro fs hfs
  obtain ⟨a, ha, hfs⟩ := List.mem_flatMap.1 hfs
  exact (h a ha fs hfs).trans (List.sublist_flatten_of_mem (List.mem_map_of_mem ha))

theorem nests_objects (s : Shape) : Nests s.objects := by
  induction s using Shape.induction with
  | unknown | primitive =>
    rintro fs ⟨⟩
  | array e ih => exact ih
  | nullable s ih => exact ih
  | union as ih =>
    rw [objects, objectsOfArms_eq_flatMap]
    exact .flatMap ih
  | object gs ih =>
    have hinside : Nests (objectsOfFields gs) := by
      rw [objectsOfFields_eq_flatMap]
      exact .flatMap ih
    rw [Nests, objects, List.forall_mem_cons]
    exact ⟨.refl _, fun fs hfs => .cons gs (hinside fs hfs)⟩

theorem nests_objectsOfFields (fs : List Field) : Nests (objectsOfFields fs) := by
  rw [objectsOfFields_eq_flatMap]
  exact .flatMap fun f _ => f.shape.nests_objects

/-- Fewer objects are inside an object that is itself inside. -/
theorem length_objectsOfFields_lt {fs fs' : List Field} (h : fs' ∈ objectsOfFields fs) :
    (objectsOfFields fs').length < (objectsOfFields fs).length :=
  (nests_objectsOfFields fs fs' h).length_le

end Shape

namespace Naming

open Declaration (withNested)

/-! ### Looking up objects -/

/--
With each object inside which there are less than `size` others, these have been passed as well.
-/
def Closed (size : Nat) (passed : List (List Field)) : Prop :=
  ∀ fields ∈ passed, (Shape.objectsOfFields fields).length < size →
    Shape.objectsOfFields fields ⊆ passed

theorem closed_nil (size : Nat) : Closed size [] := by
  rintro _ ⟨⟩

theorem Closed.append {size : Nat} {passed : List (List Field)} (h : Closed size passed)
    (s : Shape) : Closed size (passed ++ s.objects) := by
  intro fields hfields hsize
  rcases List.mem_append.1 hfields with hfields | hfields
  · exact List.Subset.trans (h fields hfields hsize) (List.subset_append_left _ _)
  · have hsub := (s.nests_objects fields hfields).subset
    have hinside := List.Subset.trans (List.subset_cons_self _ _) hsub
    exact List.Subset.trans hinside (List.subset_append_right _ _)

/-- On the way into an object only smaller ones are looked up. -/
theorem Closed.enter {size : Nat} {passed : List (List Field)} (h : Closed size passed)
    {fields : List Field} (hsize : (Shape.objectsOfFields fields).length < size) :
    Closed (Shape.objectsOfFields fields).length (passed ++ [fields]) := by
  intro fields' hfields' hless
  rcases List.mem_append.1 hfields' with hfields' | hfields'
  · have hinside := h fields' hfields' (Nat.lt_trans hless hsize)
    exact List.Subset.trans hinside (List.subset_append_left _ _)
  · rw [List.mem_singleton.1 hfields'] at hless
    exact absurd hless (Nat.lt_irrefl _)

/-- The names under way share the distinct ones among the objects passed, by their places. -/
structure Interned (names : Names) (passed : List (List Field)) : Prop where
  count : names.next = passed.eraseDups.length
  shared : names.shared = passed.eraseDups.zipIdx

theorem interned_start (used : List String) : Interned { used } [] := ⟨rfl, rfl⟩

namespace Interned

variable {names : Names} {passed : List (List Field)} (h : Interned names passed)

include h

theorem withTypeName (place : Place) (name : String) :
    Interned (names.withTypeName place name) passed := by
  cases place
  · exact h
  · exact ⟨h.count, h.shared⟩

/-- A new object comes last. -/
theorem add {fields : List Field} (hnew : fields ∉ passed) :
    Interned (names.add true fields) (passed ++ [fields]) := by
  have hlast := eraseDups_concat hnew
  constructor
  · rw [hlast, List.length_append, ← h.count]
    rfl
  · rw [hlast, List.zipIdx_append, ← h.shared, Nat.zero_add, ← h.count]
    rfl

/-- An object is found if it was passed. -/
theorem sharedId?_eq_none_iff (fields : List Field) :
    names.sharedId? fields = none ↔ fields ∉ passed := by
  have hpassed : fields ∈ passed ↔ fields ∈ names.shared.map Prod.fst := by
    rw [h.shared, List.zipIdx_map_fst, List.mem_eraseDups]
  rw [hpassed, List.mem_map, Names.sharedId?, Option.map_eq_none_iff, List.find?_eq_none]
  constructor
  · rintro hnone ⟨p, hp, hfields⟩
    exact hnone p hp (beq_iff_eq.2 hfields)
  · intro hno p hp hfields
    exact hno ⟨p, hp, beq_iff_eq.1 hfields⟩

/-- The objects with numbers are the distinct ones among those passed. -/
theorem objects_eq {objects : List (List Field)} (hr : Records objects names) :
    objects = passed.eraseDups := by
  have hlength : objects.length = passed.eraseDups.length := by
    rw [← hr.count, h.count]
  apply List.ext_getElem hlength
  intro id hid hid'
  have hshared : (passed.eraseDups[id], id) ∈ names.shared := by
    rw [h.shared, List.mk_mem_zipIdx_iff_getElem?]
    exact List.getElem?_eq_getElem hid'
  have hplace := hr.shared _ hshared
  rw [List.getElem?_eq_getElem hid] at hplace
  exact Option.some.inj hplace

end Interned

section Walk

variable {cx : Context}

mutual

/-- **A walk shares the distinct ones among the objects passed.** -/
theorem interned_nameType (hshare : cx.shareIdentical = true) (place : Place) {names : Names}
    {passed : List (List Field)} {size : Nat} (hi : Interned names passed)
    (hc : Closed size passed) : (s : Shape) →
    s.objects.length ≤ size → Interned (cx.nameType place names s).names (passed ++ s.objects)
  | .unknown, _ => by
    rw [Context.nameType, Shape.objects, List.append_nil]
    exact hi
  | .primitive _, _ => by
    rw [Context.nameType, Shape.objects, List.append_nil]
    exact hi
  | .array e, hsize => by
    rw [Context.nameType]
    exact interned_nameType hshare place hi hc e hsize
  | .nullable s, hsize => by
    rw [Context.nameType]
    exact interned_nameType hshare place hi hc s hsize
  | .union as, hsize => by
    rw [Context.nameType]
    exact interned_nameArms hshare place hi hc as hsize
  | .object fs, hsize => by
    rw [Shape.objects, List.length_cons] at hsize
    rw [Context.nameType, hshare, if_pos rfl, Shape.objects]
    split
    · -- the walk does not go inside, but was there with the equal object
      rename_i id hid
      have hpassed : fs ∈ passed := by
        by_contra hno
        rw [(hi.sharedId?_eq_none_iff fs).2 hno] at hid
        cases hid
      have hinside : fs :: Shape.objectsOfFields fs ⊆ passed :=
        List.cons_subset.2 ⟨hpassed, hc fs hpassed hsize⟩
      have hnames := eraseDups_append_of_subset hinside
      exact ⟨hnames ▸ hi.count, hnames ▸ hi.shared⟩
    · -- the walk goes inside, where only smaller objects are looked up
      rename_i hnone
      have hnew := (hi.sharedId?_eq_none_iff fs).1 hnone
      have hfields := interned_nameFields hshare (cx.typeName place names)
        (cx.memberNames (cx.typeName place names) (fs.map (·.key)))
        ((hi.withTypeName place (cx.typeName place names)).add hnew) (hc.enter hsize) fs
        (Nat.le_refl _)
      rwa [List.append_assoc] at hfields

theorem interned_nameArms (hshare : cx.shareIdentical = true) (place : Place) {names : Names}
    {passed : List (List Field)} {size : Nat} (hi : Interned names passed)
    (hc : Closed size passed) : (as : List Shape) →
    (Shape.objectsOfArms as).length ≤ size →
    Interned (cx.nameArms place names as).names (passed ++ Shape.objectsOfArms as)
  | [], _ => by
    rw [Context.nameArms, Shape.objectsOfArms, List.append_nil]
    exact hi
  | a :: as, hsize => by
    rw [Shape.objectsOfArms, List.length_append] at hsize
    have hfirst := interned_nameType hshare place hi hc a (by omega)
    have hrest := interned_nameArms hshare place hfirst (hc.append a) as (by omega)
    rw [Context.nameArms, Shape.objectsOfArms, ← List.append_assoc]
    exact hrest

theorem interned_nameFields (hshare : cx.shareIdentical = true) (owner : String)
    (idents : List Candidate) {names : Names} {passed : List (List Field)} {size : Nat}
    (hi : Interned names passed) (hc : Closed size passed) : (fs : List Field) →
    (Shape.objectsOfFields fs).length ≤ size →
    Interned (cx.nameFields owner names idents fs).names (passed ++ Shape.objectsOfFields fs)
  | [], _ => by
    rw [Context.nameFields, Shape.objectsOfFields, List.append_nil]
    exact hi
  | ⟨key, s, _⟩ :: fs, hsize => by
    rw [Shape.objectsOfFields, List.length_append] at hsize
    have hfirst := interned_nameType hshare (.field owner key) hi hc s (by omega)
    have hrest := interned_nameFields hshare owner idents.tail hfirst (hc.append s) fs (by omega)
    rw [Context.nameFields, Shape.objectsOfFields, ← List.append_assoc]
    exact hrest

end

end Walk

/-! ### The objects with a declaration -/

/-- The objects of a shape that get a declaration, in the order of their numbers. -/
def Context.declaredObjects (cx : Context) (s : Shape) : List (List Field) :=
  if cx.shareIdentical then s.objects.eraseDups else s.objects

theorem Context.mem_declaredObjects {cx : Context} {s : Shape} {fields : List Field} :
    fields ∈ cx.declaredObjects s ↔ fields ∈ s.objects := by
  rw [declaredObjects]
  split
  · rw [List.mem_eraseDups]
  · exact Iff.rfl

/-- A walk from the start declares these objects. -/
theorem declares_nameType (cx : Context) (place : Place) (used : List String) (s : Shape) :
    Denotes (cx.declaredObjects s) (cx.nameType place { used } s).result s ∧
      Declares (cx.declaredObjects s) 0 (withNested (cx.nameType place { used } s).declared)
        (cx.declaredObjects s) := by
  obtain ⟨objects, -, hall, hr, hd⟩ := faithful_nameType cx place _ [] (records_start used) s
  have hobjects : cx.declaredObjects s = objects := by
    rw [Context.declaredObjects]
    split
    · rename_i hshare
      have hinterned := interned_nameType hshare place (interned_start used) (closed_nil _) s
        (Nat.le_refl _)
      exact (hinterned.objects_eq hr).symm
    · rename_i hshare
      exact (hall (Bool.eq_false_iff.2 hshare)).symm
  rw [hobjects]
  exact hd objects (List.prefix_refl _)

section Resolve

variable (cx : Context) (s : Shape) (rootName : String)

/-- **The declarations of a graph** stand for these objects, and its root for the shape. -/
theorem declares_declaredObjects :
    Denotes (cx.declaredObjects s) (cx.resolve s rootName).1.root s ∧
      Declares (cx.declaredObjects s) 0 (cx.resolve s rootName).1.declarations
        (cx.declaredObjects s) :=
  declares_nameType cx (.root (cx.rootName rootName).ident) _ s

/-- Every object has a declaration, which has its keys. -/
theorem exists_declaration_of_mem_objects {fields : List Field} (h : fields ∈ s.objects) :
    ∃ d ∈ (cx.resolve s rootName).1.declarations, d.members.map (·.key) = fields.map (·.key) := by
  have hd := (declares_declaredObjects cx s rootName).2
  obtain ⟨d, hd, hmembers⟩ :=
    exists_left_of_forall₂ hd.members fields (Context.mem_declaredObjects.2 h)
  exact ⟨d, hd, map_eq_of_forall₂ hmembers fun _ _ hmakes => hmakes.key⟩

end Resolve

/-! ### References -/

/-- A member of the first declaration has a type that mentions the second. -/
def Graph.Refers (graph : Graph) (id id' : Nat) : Prop :=
  ∃ d ∈ graph.declarations, d.id = id ∧ ∃ m ∈ d.members, id' ∈ m.type.references

section Refers

variable {graph : Graph} {objects : List (List Field)}
  (hg : Declares objects 0 graph.declarations objects) {id id' : Nat}

include hg

/-- A declaration mentions only those of the objects inside its own. -/
theorem Graph.Refers.exists_object (h : graph.Refers id id') :
    ∃ fields fields', objects[id]? = some fields ∧ objects[id']? = some fields' ∧
      fields' ∈ Shape.objectsOfFields fields := by
  obtain ⟨d, hd, rfl, m, hm, hid'⟩ := h
  obtain ⟨i, hi⟩ := List.getElem?_of_mem hd
  obtain ⟨fields, hplace, hmembers⟩ := exists_getElem?_of_forall₂ hg.members.flip hi
  obtain ⟨f, hf, hmakes⟩ := exists_right_of_forall₂ hmembers m hm
  obtain ⟨fields', hfields', hplace'⟩ := Denotes.exists_object f.shape m.type hmakes.type id' hid'
  refine ⟨fields, fields', ?_, hplace', ?_⟩
  · rw [hg.id_eq hi, hplace]
  · rw [Shape.objectsOfFields_eq_flatMap]
    exact List.mem_flatMap.2 ⟨f, hf, hfields'⟩

variable (objects) in
/-- How many objects are inside the one with a number. -/
def rankOf (id : Nat) : Nat :=
  (objects[id]?.map fun fields => (Shape.objectsOfFields fields).length).getD 0

/-- A declaration mentions only those with fewer objects inside. -/
theorem Graph.Refers.rankOf_lt (h : graph.Refers id id') :
    rankOf objects id' < rankOf objects id := by
  obtain ⟨fields, fields', hplace, hplace', hinside⟩ := h.exists_object hg
  rw [rankOf, rankOf, hplace, hplace']
  exact Shape.length_objectsOfFields_lt hinside

/-- **References never lead back.** -/
theorem not_transGen_refers_self : ¬ Relation.TransGen graph.Refers id id := by
  intro hcycle
  have hdown : Relation.TransGen (· > ·) (rankOf objects id) (rankOf objects id) :=
    hcycle.lift (rankOf objects) fun _ _ h => h.rankOf_lt hg
  rw [Relation.transGen_eq_self] at hdown
  exact Nat.lt_irrefl _ hdown

end Refers

/-! ### The graph of a shape -/

/-- The declarations are the distinct objects of the shape in the order in which they come. -/
structure Graph.Shared (graph : Graph) (s : Shape) : Prop where
  numbers : graph.declarations.map (·.id) = List.range s.objects.eraseDups.length
  /-- Steps to an object lead in the graph to its number. -/
  places : ∀ path fields, s.at? path = some (.object fields) →
    ∃ id, graph.at? path = some (.declared id) ∧ s.objects.eraseDups[id]? = some fields
  /-- Two objects have one declaration if they are equal, else in the order of the first ones. -/
  merged : ∀ path path' fields fields' id id', s.at? path = some (.object fields) →
    s.at? path' = some (.object fields') → graph.at? path = some (.declared id) →
    graph.at? path' = some (.declared id') →
      (id = id' ↔ fields = fields') ∧
        (id < id' ↔ s.objects.idxOf fields < s.objects.idxOf fields')
  /-- A declaration mentions only those of objects inside its own, which have fewer inside. -/
  smaller : ∀ id id', graph.Refers id id' → ∃ fields fields',
    s.objects.eraseDups[id]? = some fields ∧ s.objects.eraseDups[id']? = some fields' ∧
      fields' ∈ Shape.objectsOfFields fields ∧
      (Shape.objectsOfFields fields').length < (Shape.objectsOfFields fields).length
  acyclic : ∀ id, ¬ Relation.TransGen graph.Refers id id

theorem idxOf_eq_of_getElem? {l : List (List Field)} (h : l.Nodup) {id : Nat} {fields : List Field}
    (hid : l[id]? = some fields) : l.idxOf fields = id := by
  obtain ⟨hlt, rfl⟩ := List.getElem?_eq_some_iff.1 hid
  exact h.idxOf_getElem id hlt

/--
**With sharing two objects have one declaration if and only if they are equal**; the declarations
are in the order in which the objects are first met, and refer to smaller ones only.
-/
theorem shared_resolve (cx : Context) (hshare : cx.shareIdentical = true) (s : Shape)
    (rootName : String) : (cx.resolve s rootName).1.Shared s := by
  obtain ⟨hroot, hd⟩ := declares_declaredObjects cx s rootName
  have hobjects : cx.declaredObjects s = s.objects.eraseDups := if_pos hshare
  rw [hobjects] at hroot hd
  have hplaces : ∀ path fields, s.at? path = some (.object fields) →
      ∃ id, (cx.resolve s rootName).1.at? path = some (.declared id) ∧
        s.objects.eraseDups[id]? = some fields :=
    fun _ _ hpath => exists_at?_eq_declared hd hroot hpath
  constructor
  · rw [hd.ids, List.range_eq_range']
  · exact hplaces
  · intro path path' fields fields' id id' hpath hpath' hid hid'
    have hnumber : ∀ p fs i, s.at? p = some (.object fs) →
        (cx.resolve s rootName).1.at? p = some (.declared i) →
        s.objects.eraseDups.idxOf fs = i := by
      intro p fs i hp hi
      obtain ⟨j, hj, hfs⟩ := hplaces p fs hp
      rw [hi] at hj
      cases hj
      exact idxOf_eq_of_getElem? (nodup_eraseDups _) hfs
    have hmem := Shape.mem_objects_of_at? hpath
    have hmem' := Shape.mem_objects_of_at? hpath'
    rw [← hnumber path fields id hpath hid, ← hnumber path' fields' id' hpath' hid']
    exact ⟨List.idxOf_inj (List.mem_eraseDups.2 hmem), idxOf_eraseDups_lt_iff hmem hmem'⟩
  · intro id id' h
    obtain ⟨fields, fields', hplace, hplace', hinside⟩ := h.exists_object hd
    exact ⟨fields, fields', hplace, hplace', hinside, Shape.length_objectsOfFields_lt hinside⟩
  · exact fun id => not_transGen_refers_self hd

/-- Equal objects in an array and in an arm that may be null, and one that differs from them. -/
theorem declaration_of_equal_objects :
    let cx : Context := ⟨.csharp, .pascal, true⟩
    let point : Shape := .object [⟨"x", .primitive .integer, false⟩]
    let shape : Shape := .object [⟨"points", .array point, false⟩,
      ⟨"center", .union [.primitive .string, .nullable point], true⟩,
      ⟨"origin", .object [⟨"x", .primitive .integer, true⟩], false⟩]
    let graph := (cx.resolve shape "Root").1
    cx.shareIdentical = true ∧ graph.declarations.map (·.id) = [0, 1, 2] ∧
      graph.at? [.field 0, .element] = graph.at? [.field 1, .arm 1, .inner] ∧
      graph.at? [.field 0, .element] ≠ graph.at? [.field 2] := by
  intro cx point shape graph
  have hshared := shared_resolve cx rfl shape "Root"
  have hdistinct : shape.objects.eraseDups.length = 3 := by
    decide +kernel
  have hnumbers := hshared.numbers
  rw [hdistinct] at hnumbers
  obtain ⟨i, hi, -⟩ := hshared.places [.field 0, .element] _ rfl
  obtain ⟨j, hj, -⟩ := hshared.places [.field 1, .arm 1, .inner] _ rfl
  obtain ⟨k, hk, -⟩ := hshared.places [.field 2] _ rfl
  have hequal := (hshared.merged _ _ _ _ i j rfl rfl hi hj).1.2 rfl
  have hdiffer := (hshared.merged _ _ _ _ i k rfl rfl hi hk).1.not.2 (by decide)
  refine ⟨rfl, hnumbers, hi.trans (hequal ▸ hj.symm), fun heq => hdiffer ?_⟩
  rw [hi, hk] at heq
  cases heq
  rfl

end Naming

end SampleTypes
