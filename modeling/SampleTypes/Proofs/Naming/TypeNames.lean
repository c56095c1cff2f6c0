import SampleTypes.Proofs.Naming.FreshName
import SampleTypes.Proofs.Naming.Walk
import SampleTypes.Shape.Infer

/-!
# Type names

The name of an object under a field is new: `Context.typeName` leaves out the names in use, and the
walk marks the name as used before it goes on.  An object at the root gets the root's name without
regard to the names in use, and each object there gets it.  So the names of the declarations are
distinct when at most one object stands at the root, and only then.

* `Marks` says which names a walk marks as used, with `marks_nameType` for a walk under a field;
* `Rooted` is the law of a walk at the root, with `rooted_nameType`;
* `nodup_names_resolve_iff` is the main result.
-/

namespace SampleTypes

/-! ### The objects at the root -/

namespace Shape

mutual

/-- The objects of a shape that stand in no other object, each as the list of its fields. -/
def outerObjects : Shape → List (List Field)
  | .object fields => [fields]
  | .array element => outerObjects element
  | .nullable inner => outerObjects inner
  | .union arms => outerObjectsOfArms arms
  | .unknown => []
  | .primitive _ => []

/-- The objects of several arms that stand in no other object. -/
def outerObjectsOfArms : List Shape → List (List Field)
  | [] => []
  | arm :: arms => outerObjects arm ++ outerObjectsOfArms arms

end

end Shape

namespace Naming

open Declaration (withNested)

/-- The names of several declarations and of all those under them. -/
def Declaration.names (ds : List Declaration) : List String :=
  (withNested ds).map (·.name)

/-- The names of the declarations under several others. -/
def Declaration.innerNames (ds : List Declaration) : List String :=
  ds.flatMap fun d => Declaration.names d.nested

namespace Declaration

@[simp] theorem names_cons (d : Declaration) (ds : List Declaration) :
    names (d :: ds) = d.name :: (names d.nested ++ names ds) := by
  simp [names]

@[simp] theorem names_append (ds es : List Declaration) :
    names (ds ++ es) = names ds ++ names es := by
  simp [names]

theorem names_singleton (d : Declaration) : names [d] = d.name :: names d.nested := by
  simp [names]

theorem innerNames_append (ds es : List Declaration) :
    innerNames (ds ++ es) = innerNames ds ++ innerNames es :=
  List.flatMap_append

theorem innerNames_singleton (d : Declaration) : innerNames [d] = names d.nested :=
  List.append_nil _

theorem name_mem_names {d : Declaration} {ds : List Declaration} (h : d ∈ ds) :
    d.name ∈ names ds := by
  induction ds with
  | nil => cases h
  | cons e ds ih =>
    rw [names_cons]
    rcases List.mem_cons.1 h with rfl | h
    · exact List.mem_cons_self
    · exact List.mem_cons_of_mem _ (List.mem_append_right _ (ih h))

/-- A name belongs to one of the declarations, or to one under them. -/
theorem exists_name_or_mem_innerNames {name : String} {ds : List Declaration}
    (h : name ∈ names ds) : (∃ d ∈ ds, d.name = name) ∨ name ∈ innerNames ds := by
  induction ds with
  | nil => cases h
  | cons d ds ih =>
    rw [innerNames, List.flatMap_cons, List.mem_append]
    rw [names_cons, List.mem_cons, List.mem_append] at h
    rcases h with rfl | h | h
    · exact .inl ⟨d, List.mem_cons_self, rfl⟩
    · exact .inr (.inl h)
    · rcases ih h with ⟨e, he, rfl⟩ | h
      · exact .inl ⟨e, List.mem_cons_of_mem _ he, rfl⟩
      · exact .inr (.inr h)

end Declaration

open Declaration (innerNames)

/-- How the type names of a graph relate to each other, and to names that are reserved. -/
structure Graph.TypeNames (graph : Graph) (reserved : List String) : Prop where
  outer : ∀ d ∈ graph.forest, d.name = graph.rootName
  root : graph.rootName ∉ reserved
  nodup : (innerNames graph.forest).Nodup
  inner : ∀ name ∈ innerNames graph.forest, name ≠ graph.rootName ∧ name ∉ reserved

/-- Under these rules only a second declaration at the root can repeat a name. -/
theorem Graph.TypeNames.nodup_iff {graph : Graph} {reserved : List String}
    (h : graph.TypeNames reserved) :
    (graph.declarations.map (·.name)).Nodup ↔ graph.forest.length ≤ 1 := by
  rw [Graph.declarations_eq]
  show (Declaration.names graph.forest).Nodup ↔ _
  obtain ⟨rootName, root, forest⟩ := graph
  match forest, h with
  | [], _ => simp [Declaration.names]
  | [d], h =>
    have hd : d.name = rootName := h.outer d List.mem_cons_self
    have hnested : innerNames [d] = Declaration.names d.nested :=
      Declaration.innerNames_singleton d
    have hnodup := h.nodup
    have hinner := h.inner
    rw [hnested] at hnodup hinner
    constructor
    · intro _
      exact Nat.le_refl 1
    · intro _
      rw [Declaration.names_singleton, List.nodup_cons, hd]
      constructor
      · intro hmem
        exact (hinner _ hmem).1 rfl
      · exact hnodup
  | d :: e :: ds, h =>
    have hd : d.name = rootName := h.outer d List.mem_cons_self
    have he : e.name = rootName := h.outer e (List.mem_cons_of_mem _ List.mem_cons_self)
    constructor
    · intro hnodup
      rw [Declaration.names_cons, List.nodup_cons] at hnodup
      refine absurd ?_ hnodup.1
      rw [hd, ← he]
      exact List.mem_append_right _ (Declaration.name_mem_names List.mem_cons_self)
    · intro hle
      rw [List.length_cons, List.length_cons] at hle
      omega

/-- No declaration has a name that is reserved. -/
theorem Graph.TypeNames.notMem_reserved {graph : Graph} {reserved : List String}
    (h : graph.TypeNames reserved) : ∀ d ∈ graph.declarations, d.name ∉ reserved := by
  intro d hd
  have hname : d.name ∈ Declaration.names graph.forest := List.mem_map_of_mem hd
  rcases Declaration.exists_name_or_mem_innerNames hname with ⟨e, he, heq⟩ | hinner
  · rw [← heq, h.outer e he]
    exact h.root
  · exact (h.inner d.name hinner).2

/-! ### Marking names as used -/

/-- The names were marked as used one after the other, each while it was free. -/
structure Marks (before : List String) (after : Names) (marked : List String) : Prop where
  used : after.used = marked.reverse ++ before
  nodup : marked.Nodup
  fresh : ∀ name ∈ marked, name ∉ before

theorem Marks.nil (names : Names) : Marks names.used names [] :=
  ⟨rfl, .nil, by simp⟩

theorem Marks.cons {before marked : List String} {after : Names} {name : String}
    (hname : name ∉ before) (h : Marks (name :: before) after marked) :
    Marks before after (name :: marked) where
  used := by
    rw [h.used, List.reverse_cons, List.append_assoc]
    rfl
  nodup := by
    rw [List.nodup_cons]
    constructor
    · intro hmem
      exact h.fresh name hmem List.mem_cons_self
    · exact h.nodup
  fresh := by
    rw [List.forall_mem_cons]
    constructor
    · exact hname
    · intro name' hmem hbefore
      exact h.fresh name' hmem (List.mem_cons_of_mem _ hbefore)

theorem Marks.append {before marked marked' : List String} {mid after : Names}
    (h : Marks before mid marked) (h' : Marks mid.used after marked') :
    Marks before after (marked ++ marked') where
  used := by
    rw [h'.used, h.used, List.reverse_append, List.append_assoc]
  nodup := by
    rw [List.nodup_append]
    refine ⟨h.nodup, h'.nodup, fun name hmem name' hmem' heq => ?_⟩
    subst heq
    apply h'.fresh name hmem'
    rw [h.used]
    exact List.mem_append_left _ (List.mem_reverse.2 hmem)
  fresh := by
    intro name hmem
    rcases List.mem_append.1 hmem with hmem | hmem
    · exact h.fresh name hmem
    · intro hbefore
      apply h'.fresh name hmem
      rw [h.used]
      exact List.mem_append_right _ hbefore

/-- Two walks, one after the other. -/
theorem Marks.join {α β : Type} {before : List String} {first : Outcome α} {rest : Outcome β}
    (h : Marks before first.names (Declaration.names first.declared))
    (h' : Marks first.names.used rest.names (Declaration.names rest.declared)) :
    Marks before (rest.after first).names (Declaration.names (rest.after first).declared) := by
  show Marks before rest.names (Declaration.names (first.declared ++ rest.declared))
  rw [Declaration.names_append]
  exact h.append h'

section Walk

variable (cx : Context)

/-- The name for an object under a field is not in use. -/
theorem typeName_notMem (owner key : String) (names : Names) :
    cx.typeName (.field owner key) names ∉ names.used := by
  unfold Context.typeName
  simp only
  split_ifs with hplain hqualified
  · simpa using hplain
  · simpa using hqualified
  · exact freshName_notMem _ (cx.convention.withCounter_injective _)

mutual

/-- **Under a field the walk marks the names of its declarations**, and no others. -/
theorem marks_nameType (owner key : String) (names : Names) : (s : Shape) →
    Marks names.used (cx.nameType (.field owner key) names s).names
      (Declaration.names (cx.nameType (.field owner key) names s).declared)
  | .unknown => by
    rw [Context.nameType]
    exact .nil names
  | .primitive _ => by
    rw [Context.nameType]
    exact .nil names
  | .array e => by
    rw [Context.nameType]
    exact marks_nameType owner key names e
  | .nullable s => by
    rw [Context.nameType]
    exact marks_nameType owner key names s
  | .union as => by
    rw [Context.nameType]
    exact marks_nameArms owner key names as
  | .object fs => by
    rw [Context.nameType]
    split
    · exact .nil names
    · have hfields := marks_nameFields (cx.typeName (.field owner key) names)
        ((names.use (cx.typeName (.field owner key) names)).add cx.shareIdentical fs)
        (cx.memberNames (cx.typeName (.field owner key) names) (fs.map (·.key))) fs
      rw [Declaration.names_singleton]
      exact .cons (typeName_notMem cx owner key names) hfields

theorem marks_nameArms (owner key : String) (names : Names) : (as : List Shape) →
    Marks names.used (cx.nameArms (.field owner key) names as).names
      (Declaration.names (cx.nameArms (.field owner key) names as).declared)
  | [] => by
    rw [Context.nameArms]
    exact .nil names
  | a :: as => by
    rw [Context.nameArms]
    exact (marks_nameType owner key names a).join (marks_nameArms owner key _ as)

theorem marks_nameFields (owner : String) (names : Names) (idents : List Candidate) :
    (fs : List Field) → Marks names.used (cx.nameFields owner names idents fs).names
      (Declaration.names (cx.nameFields owner names idents fs).declared)
  | [] => by
    rw [Context.nameFields]
    exact .nil names
  | ⟨key, s, _⟩ :: fs => by
    rw [Context.nameFields]
    have h := (marks_nameType owner key names s).join (marks_nameFields owner _ idents.tail fs)
    exact h

end

/-! ### The walk at the root -/

/--
A walk at the root past the objects `outer`: it gives the root's name to its own declarations, one
for each object unless that is shared, and marks the names of those under them.
-/
structure Rooted {α : Type} (rootName : String) (names : Names) (outer : List (List Field))
    (o : Outcome α) : Prop where
  marks : Marks names.used o.names (innerNames o.declared)
  named : ∀ d ∈ o.declared, d.name = rootName
  length_le : o.declared.length ≤ outer.length
  length_eq : cx.shareIdentical = false → o.declared.length = outer.length

variable {cx}

theorem Rooted.nothing {α : Type} (rootName : String) (result : α) (names : Names) :
    Rooted cx rootName names [] (.pure result names) :=
  ⟨.nil names, by rintro d ⟨⟩, Nat.le_refl 0, fun _ => rfl⟩

theorem Rooted.map {α β : Type} {rootName : String} {names : Names} {outer : List (List Field)}
    {o : Outcome α} (h : Rooted cx rootName names outer o) (f : α → β) :
    Rooted cx rootName names outer (o.map f) :=
  ⟨h.marks, h.named, h.length_le, h.length_eq⟩

/-- Two walks at the root, one after the other. -/
theorem Rooted.join {α β : Type} {rootName : String} {names : Names}
    {outer outer' : List (List Field)} {first : Outcome α} {rest : Outcome β}
    (hfirst : Rooted cx rootName names outer first)
    (hrest : Rooted cx rootName first.names outer' rest) :
    Rooted cx rootName names (outer ++ outer') (rest.after first) where
  marks := by
    show Marks _ _ (innerNames (_ ++ _))
    rw [Declaration.innerNames_append]
    exact hfirst.marks.append hrest.marks
  named := by
    intro d hd
    rcases List.mem_append.1 hd with hd | hd
    · exact hfirst.named d hd
    · exact hrest.named d hd
  length_le := by
    show (first.declared ++ rest.declared).length ≤ _
    rw [List.length_append, List.length_append]
    exact Nat.add_le_add hfirst.length_le hrest.length_le
  length_eq := by
    intro hshare
    show (first.declared ++ rest.declared).length = _
    rw [List.length_append, List.length_append, hfirst.length_eq hshare, hrest.length_eq hshare]

variable (cx)

mutual

/-- **At the root every object gets the root's name.** -/
theorem rooted_nameType (rootName : String) (names : Names) : (s : Shape) →
    Rooted cx rootName names s.outerObjects (cx.nameType (.root rootName) names s)
  | .unknown => by
    rw [Context.nameType, Shape.outerObjects]
    exact .nothing rootName _ names
  | .primitive _ => by
    rw [Context.nameType, Shape.outerObjects]
    exact .nothing rootName _ names
  | .array e => by
    rw [Context.nameType, Shape.outerObjects]
    exact (rooted_nameType rootName names e).map TypeRef.array
  | .nullable s => by
    rw [Context.nameType, Shape.outerObjects]
    exact (rooted_nameType rootName names s).map TypeRef.nullable
  | .union as => by
    rw [Context.nameType, Shape.outerObjects]
    exact (rooted_nameArms rootName names as).map TypeRef.union
  | .object fs => by
    rw [Context.nameType, Shape.outerObjects]
    split
    · -- nothing is declared for a shared object
      rename_i id hid
      constructor
      · exact .nil names
      · rintro d ⟨⟩
      · exact Nat.zero_le 1
      · intro hshare
        rw [hshare] at hid
        cases hid
    · have hfields := marks_nameFields cx rootName (names.add cx.shareIdentical fs)
        (cx.memberNames rootName (fs.map (·.key))) fs
      constructor
      · rw [Declaration.innerNames_singleton]
        exact hfields
      · intro d hd
        rw [List.mem_singleton.1 hd]
        rfl
      · exact Nat.le_refl 1
      · intro _
        rfl

theorem rooted_nameArms (rootName : String) (names : Names) : (as : List Shape) →
    Rooted cx rootName names (Shape.outerObjectsOfArms as) (cx.nameArms (.root rootName) names as)
  | [] => by
    rw [Context.nameArms, Shape.outerObjectsOfArms]
    exact .nothing rootName _ names
  | a :: as => by
    rw [Context.nameArms, Shape.outerObjectsOfArms]
    exact (rooted_nameType rootName names a).join ((rooted_nameArms rootName _ as).map _)

end

/-- The root's name is not reserved. -/
theorem rootName_notMem (rootName : String) :
    (cx.rootName rootName).ident ∉ cx.language.reservedTypeNames := by
  unfold Context.rootName
  simp only
  split_ifs with h
  · exact freshName_notMem _ (cx.convention.withCounter_injective _)
  · simpa using h

/-- The names in the graph of a shape obey the rules, and only objects at the root get its name. -/
theorem typeNames_resolve (s : Shape) (rootName : String) :
    (cx.resolve s rootName).1.TypeNames cx.language.reservedTypeNames ∧
      (cx.resolve s rootName).1.forest.length ≤ s.outerObjects.length := by
  have hwalk := rooted_nameType cx (cx.rootName rootName).ident
    { used := (cx.rootName rootName).ident :: cx.language.reservedTypeNames } s
  refine ⟨⟨hwalk.named, rootName_notMem cx rootName, hwalk.marks.nodup, fun name hname => ?_⟩,
    hwalk.length_le⟩
  have hfresh := hwalk.marks.fresh name hname
  rwa [List.mem_cons, not_or] at hfresh

/--
**The names of the declarations are distinct just if at most one of them stands at the root.**  If
nothing is shared, that is to say that at most one object of the shape stands in no other.
-/
theorem nodup_names_resolve_iff (s : Shape) (rootName : String) :
    let graph := (cx.resolve s rootName).1
    ((graph.declarations.map (·.name)).Nodup ↔ graph.forest.length ≤ 1) ∧
      graph.forest.length ≤ s.outerObjects.length ∧
      (cx.shareIdentical = false → graph.forest.length = s.outerObjects.length) ∧
      graph.TypeNames cx.language.reservedTypeNames := by
  intro graph
  have hwalk := rooted_nameType cx (cx.rootName rootName).ident
    { used := (cx.rootName rootName).ident :: cx.language.reservedTypeNames } s
  obtain ⟨hnames, hlength⟩ := typeNames_resolve cx s rootName
  exact ⟨hnames.nodup_iff, hlength, hwalk.length_eq, hnames⟩

/-- An array of objects and an object as samples give two declarations of one name. -/
theorem names_of_array_and_object_samples :
    let shape := Shape.ofSamples [.array [.object [("b", .bool true)]], .object [("a", .bool true)]]
    let graph := (Context.resolve ⟨.csharp, .pascal, false⟩ shape "Root").1
    graph.declarations.map (·.name) = ["Root", "Root"] ∧
      ¬ (graph.declarations.map (·.name)).Nodup := by
  have hshape : Shape.ofSamples
      [.array [.object [("b", .bool true)]], .object [("a", .bool true)]] =
        .union [.array (.object [⟨"b", .primitive .bool, false⟩]),
          .object [⟨"a", .primitive .bool, false⟩]] := by
    cbv
  rw [hshape]
  decide +kernel

end Walk

end Naming

end SampleTypes
