import SampleTypes.Proofs.Naming.Places

/-!
# Numbers of declarations

Where nothing is shared, the declarations of a graph are the objects of the shape, and the number of
a declaration tells the place of its object among all objects, depth first.  The declarations make
up a forest, and the types refer to each of them once, from where it is first met.

* `places_nameType`: the steps to the objects that a walk passes lead to successive numbers;
* `Declaration.references_perm`: every declaration stands under one other or under none;
* `Graph.Numbered` says what holds of the graph, and `numbered_resolve` is the main result.
-/

namespace SampleTypes.Naming

open Declaration (withNested)

/-! ### The numbers that a walk gives -/

/-- The graph has the declarations and those under them. -/
def Graph.Finds (graph : Graph) (ds : List Declaration) : Prop :=
  ∀ d ∈ withNested ds, graph.find? d.id = some d

/-- References to the numbers from `start` on, one for each of the objects. -/
def declaredFrom (start : Nat) (objects : List (List Field)) : List (Option TypeRef) :=
  (List.range' start objects.length).map fun id => some (.declared id)

theorem declaredFrom_cons (start : Nat) (fields : List Field) (objects : List (List Field)) :
    declaredFrom start (fields :: objects)
      = some (.declared start) :: declaredFrom (start + 1) objects := by
  rw [declaredFrom, List.length_cons, List.range'_succ, List.map_cons, declaredFrom]

theorem declaredFrom_append (start : Nat) (objects objects' : List (List Field)) :
    declaredFrom start (objects ++ objects')
      = declaredFrom start objects ++ declaredFrom (start + objects.length) objects' := by
  rw [declaredFrom, List.length_append, ← List.range'_append_1, List.map_append]
  rfl

theorem Graph.Finds.of_append {graph : Graph} {ds es : List Declaration}
    (h : graph.Finds (ds ++ es)) : graph.Finds ds ∧ graph.Finds es := by
  rwa [Graph.Finds, Declaration.withNested_append, List.forall_mem_append] at h

section Walk

variable {cx : Context} (hshare : cx.shareIdentical = false)

include hshare

/-- Without sharing the walk gives a number to each object that it passes. -/
theorem records_nameType (place : Place) {names : Names} {before : List (List Field)}
    (hr : Records before names) (s : Shape) :
    Records (before ++ s.objects) (cx.nameType place names s).names := by
  obtain ⟨new, -, hall, hr', -⟩ := faithful_nameType cx place names before hr s
  rwa [hall hshare] at hr'

variable (graph : Graph)

mutual

/-- **The steps to the objects that a walk passes lead to successive numbers.** -/
theorem places_nameType (place : Place) (names : Names) (before : List (List Field))
    (hr : Records before names) : (s : Shape) →
    graph.Finds (cx.nameType place names s).declared →
    s.places.map (graph.follow? (cx.nameType place names s).result)
      = declaredFrom before.length s.objects
  | .unknown, _ => rfl
  | .primitive _, _ => rfl
  | .array e, h => by
    rw [Context.nameType] at h ⊢
    rw [Shape.places, List.map_map]
    exact places_nameType place names before hr e h
  | .nullable s, h => by
    rw [Context.nameType] at h ⊢
    rw [Shape.places, List.map_map]
    exact places_nameType place names before hr s h
  | .union as, h => by
    rw [Context.nameType] at h ⊢
    rw [Shape.places]
    exact places_nameArms place names before hr [] as h
  | .object fs, h => by
    rw [Context.nameType, hshare] at h ⊢
    simp only [Bool.false_eq_true, if_false] at h ⊢
    rw [Graph.Finds, Declaration.withNested_cons, Declaration.withNested_nil, List.append_nil,
      List.forall_mem_cons] at h
    obtain ⟨hself, hnested⟩ := h
    -- the object has the next number, and those inside it the numbers after that
    have hfields := places_nameFields _ (cx.typeName place names) _
      (cx.memberNames (cx.typeName place names) (fs.map (·.key))) (before ++ [fs])
      ((hr.withTypeName place _).add _ fs) [] fs hself rfl hnested
    rw [List.length_append] at hfields
    rw [Shape.places, Shape.objects, List.map_cons, declaredFrom_cons, Graph.follow?_nil,
      ← hr.count]
    rw [← hr.count] at hfields
    exact congrArg (_ :: ·) hfields

theorem places_nameArms (place : Place) (names : Names) (before : List (List Field))
    (hr : Records before names) (arms : List TypeRef) : (as : List Shape) →
    graph.Finds (cx.nameArms place names as).declared →
    (Shape.placesOfArms arms.length as).map
        (graph.follow? (.union (arms ++ (cx.nameArms place names as).result)))
      = declaredFrom before.length (Shape.objectsOfArms as)
  | [], _ => rfl
  | a :: as, h => by
    rw [Context.nameArms] at h ⊢
    simp only [Outcome.after, Outcome.map] at h ⊢
    obtain ⟨hfirst, hrest⟩ := Graph.Finds.of_append h
    have hr' := records_nameType hshare place hr a
    -- the arms before stay part of the union, so that the step into this one counts them
    have harms := places_nameArms place _ _ hr' (arms ++ [(cx.nameType place names a).result]) as
      hrest
    have hpart : graph.part? (.union (arms ++ (cx.nameType place names a).result ::
        (cx.nameArms place (cx.nameType place names a).names as).result)) (.arm arms.length)
          = some (cx.nameType place names a).result := by
      rw [Graph.part?, List.getElem?_append_right (Nat.le_refl _), Nat.sub_self]
      rfl
    rw [List.append_assoc, List.singleton_append, List.length_append, List.length_append,
      List.length_singleton] at harms
    rw [Shape.placesOfArms, Shape.objectsOfArms, declaredFrom_append, List.map_append,
      List.map_map, Graph.follow?_of_part? hpart, places_nameType place names before hr a hfirst,
      harms]

theorem places_nameFields (d : Declaration) (owner : String) (names : Names)
    (idents : List Candidate) (before : List (List Field)) (hr : Records before names)
    (members : List Member) : (fs : List Field) → graph.find? d.id = some d →
    d.members = members ++ (cx.nameFields owner names idents fs).result →
    graph.Finds (cx.nameFields owner names idents fs).declared →
    (Shape.placesOfFields members.length fs).map (graph.follow? (.declared d.id))
      = declaredFrom before.length (Shape.objectsOfFields fs)
  | [], _, _, _ => rfl
  | ⟨key, s, optional⟩ :: fs, hfind, hmembers, h => by
    rw [Context.nameFields] at h hmembers
    simp only [Outcome.after, Outcome.map, List.nil_append] at h hmembers
    obtain ⟨hfirst, hrest⟩ := Graph.Finds.of_append h
    have hr' := records_nameType hshare (.field owner key) hr s
    have hpart : graph.part? (.declared d.id) (.field members.length)
        = some (cx.nameType (.field owner key) names s).result := by
      rw [Graph.part?, hfind, Option.bind_some, hmembers,
        List.getElem?_append_right (Nat.le_refl _), Nat.sub_self]
      rfl
    -- what is left to name are the members after this one
    rw [← List.singleton_append, ← List.append_assoc] at hmembers
    have hfields := places_nameFields d owner _ idents.tail _ hr' _ fs hfind hmembers hrest
    rw [List.length_append, List.length_append, List.length_singleton] at hfields
    rw [Shape.placesOfFields, Shape.objectsOfFields, declaredFrom_append, List.map_append,
      List.map_map, Graph.follow?_of_part? hpart,
      places_nameType (.field owner key) names before hr s hfirst, hfields]

end

end Walk

/-! ### References in a forest -/

/-- **Every declaration stands once under another, or under none.** -/
theorem Declaration.references_perm (ds : List Declaration) :
    (ds.map (·.id) ++ (withNested ds).flatMap children).Perm ((withNested ds).map (·.id)) := by
  induction ds using forest_induction with
  | nil => exact .nil
  | cons d ds ihNested ihRest =>
    have hnested : d.children ++ (withNested d.nested).flatMap children
        = d.nested.map (·.id) ++ (withNested d.nested).flatMap children := rfl
    rw [withNested_cons, List.map_cons, List.map_cons, List.map_append, List.flatMap_cons,
      List.flatMap_append, ← List.append_assoc d.children, hnested, List.cons_append]
    refine .cons d.id ?_
    exact (List.perm_append_comm_assoc _ _ _).trans (ihNested.append ihRest)

theorem Graph.Tree.references_perm {graph : Graph} (h : graph.Tree) :
    graph.references.Perm (graph.declarations.map (·.id)) := by
  have hmembers : (graph.declarations.flatMap fun d => d.members.flatMap (·.type.references))
      = graph.declarations.flatMap Declaration.children :=
    List.flatMap_congr h.members
  rw [Graph.references, h.root, hmembers]
  exact Declaration.references_perm graph.forest

/-- A declaration is in the root, or in a member of the declaration above it. -/
theorem Graph.Tree.parent?_cases {graph : Graph} (h : graph.Tree) (hasc : graph.Ascending)
    {d : Declaration} (hd : d ∈ graph.declarations) :
    (graph.parent? d.id = none ∧ d.id ∈ graph.root.references) ∨
      ∃ owner ∈ graph.declarations, graph.parent? d.id = some owner.id ∧ owner.id < d.id ∧
        ∃ m ∈ owner.members, d.id ∈ m.type.references := by
  obtain ⟨⟨parent, d⟩, hlisting, rfl⟩ := List.mem_map.1 hd
  rcases Declaration.mem_listingOf_iff.1 hlisting with ⟨-, hforest⟩ | ⟨owner, howner, -, hnested⟩
  · refine .inl ⟨Graph.parent?_of_mem_forest hasc hforest, ?_⟩
    rw [h.root]
    exact List.mem_map_of_mem hforest
  · refine .inr ⟨owner, howner, Graph.parent?_of_mem_nested hasc howner hnested,
      hasc.lt howner hnested, ?_⟩
    have hchild : d.id ∈ owner.members.flatMap (·.type.references) := by
      rw [h.members owner howner]
      exact List.mem_map_of_mem hnested
    exact List.mem_flatMap.1 hchild

theorem Graph.Tree.rootDeclaration?_eq {graph : Graph} (h : graph.Tree) :
    graph.rootDeclaration? = (graph.declarations.map (·.id)).head? := by
  rw [Graph.rootDeclaration?, TypeRef.firstDeclared?_eq_head?, h.root, Graph.declarations_eq]
  cases graph.forest with
  | nil => rfl
  | cons d ds => rw [Declaration.withNested_cons, List.map_cons, List.map_cons]; rfl

/-! ### The graph of a shape -/

/-- The declarations are the objects of the shape in their places, and make up a forest. -/
structure Graph.Numbered (graph : Graph) (s : Shape) : Prop where
  numbers : graph.declarations.map (·.id) = List.range s.places.length
  /-- To the place that has a number among all places lead the steps in the graph as well. -/
  positions : ∀ id path, s.places[id]? = some path → graph.at? path = some (.declared id)
  /-- Every number is mentioned once. -/
  once : graph.references.Perm (List.range s.places.length)
  parents : ∀ d ∈ graph.declarations,
    (graph.parent? d.id = none ∧ d.id ∈ graph.root.references) ∨
      ∃ owner ∈ graph.declarations, graph.parent? d.id = some owner.id ∧ owner.id < d.id ∧
        ∃ m ∈ owner.members, d.id ∈ m.type.references
  /-- The root leads first to the first declaration, if there is one. -/
  root : graph.rootDeclaration? = if graph.declarations.isEmpty then none else some 0
  children : ∀ d ∈ graph.declarations,
    (graph.under (some d.id)).map (·.id) = d.members.flatMap (·.type.references)

section Resolve

variable (cx : Context) (hshare : cx.shareIdentical = false) (s : Shape) (rootName : String)

include hshare

/-- The steps to the objects lead from the root to the numbers in their order. -/
theorem map_at?_places_resolve : s.places.map (cx.resolve s rootName).1.at?
    = (List.range s.places.length).map fun id => some (.declared id) := by
  have hasc := ascending_resolve cx s rootName
  have hplaces := places_nameType hshare (cx.resolve s rootName).1
    (.root (cx.rootName rootName).ident) _ [] (records_start _) s fun d hd => hasc.find?_eq_some hd
  rwa [declaredFrom, ← Shape.length_places, List.length_nil, ← List.range_eq_range'] at hplaces

omit hshare in
/-- No place is listed twice: where nothing is shared, each leads to another number. -/
theorem nodup_places : s.places.Nodup := by
  have hplaces := map_at?_places_resolve ⟨.csharp, .pascal, false⟩ rfl s ""
  apply List.Nodup.of_map
  rw [hplaces]
  refine List.Nodup.map (fun i j hij => ?_) List.nodup_range
  cases hij
  rfl

/--
**Without sharing the declarations are the objects of the shape**, numbered depth first, and the
types refer to each of them once, in the declaration above it or in the root.
-/
theorem numbered_resolve :
    (∀ path, path ∈ s.places ↔ ∃ fields, s.at? path = some (.object fields)) ∧
      s.places.Nodup ∧ (cx.resolve s rootName).1.Numbered s := by
  have htree := tree_resolve hshare s rootName
  have hasc := ascending_resolve cx s rootName
  obtain ⟨objects, -, hobjects, -, hd⟩ := declares_resolve cx s rootName
  have hids := hd.ids
  rw [hobjects hshare, ← Shape.length_places, ← List.range_eq_range'] at hids
  refine ⟨fun _ => Shape.mem_places_iff, nodup_places s, ?_⟩
  constructor
  · exact hids
  · intro id path hpath
    have hmap := congrArg (·[id]?) (map_at?_places_resolve cx hshare s rootName)
    simp only [List.getElem?_map, hpath, Option.map_some] at hmap
    rw [List.getElem?_range (List.getElem?_eq_some_iff.1 hpath).1] at hmap
    exact Option.some.inj hmap
  · rw [← hids]
    exact htree.references_perm
  · intro d hd
    exact htree.parent?_cases hasc hd
  · have hlength := congrArg List.length hids
    rw [List.length_map, List.length_range] at hlength
    rw [htree.rootDeclaration?_eq, hids]
    simp only [List.isEmpty_iff_length_eq_zero, hlength]
    cases s.places.length with
    | zero => rfl
    | succ n => rw [List.range_succ_eq_map]; rfl
  · intro d hd
    rw [Graph.under_some hasc hd, htree.members d hd]
    rfl

end Resolve

/-- Equal objects in an array and in an arm that may be null, each with a declaration. -/
theorem numbers_of_equal_objects :
    let cx : Context := ⟨.csharp, .pascal, false⟩
    let point : Shape := .object [⟨"x", .primitive .integer, false⟩]
    let shape : Shape := .object [⟨"points", .array point, false⟩,
      ⟨"center", .union [.primitive .string, .nullable point], true⟩]
    let graph := (cx.resolve shape "Root").1
    cx.shareIdentical = false ∧
      shape.places = [[], [.field 0, .element], [.field 1, .arm 1, .inner]] ∧
      graph.declarations.map (·.id) = [0, 1, 2] ∧
      graph.at? [.field 0, .element] = some (.declared 1) ∧
      graph.at? [.field 1, .arm 1, .inner] = some (.declared 2) := by
  intro cx point shape graph
  have hplaces : shape.places = [[], [.field 0, .element], [.field 1, .arm 1, .inner]] := rfl
  have hnumbered := (numbered_resolve cx rfl shape "Root").2.2
  have hnumbers := hnumbered.numbers
  have hpositions := hnumbered.positions
  rw [hplaces] at hnumbers hpositions
  exact ⟨rfl, hplaces, hnumbers, hpositions 1 _ rfl, hpositions 2 _ rfl⟩

end SampleTypes.Naming
