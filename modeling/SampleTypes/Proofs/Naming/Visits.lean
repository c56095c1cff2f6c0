import SampleTypes.Proofs.Naming.Declarations
import SampleTypes.Proofs.Naming.Nesting

/-!
# The members of a graph in the order of a walk

A depth-first walk through the fields of a shape meets the members of a graph in an order that can
be read from the graph: the members of a declaration one after the other, and after each member
those of the declarations that it is the first to lead to.

* `Graph.visits` is that order;
* `Declaration.interleave_cons` cuts it where the walk does, after the first member of a
  declaration: what is declared below later members has numbers that no earlier one knows
  (`Denotes.lt_length`, `Declares.le_id`);
* `visits_perm_resolve`: in the graph of a shape every member of every declaration is met once.
-/

namespace SampleTypes.Naming

open Declaration (withNested)

/-! ### The order -/

namespace Declaration

/--
The given members of a declaration, each followed by what is below it.  Of the numbered lists
`below` a member is followed by those whose number its type mentions, and no member before it.
-/
def interleave (d : Declaration) (below : List (Nat × List (Declaration × Member))) :
    List Member → List (Declaration × Member)
  | [] => []
  | m :: ms =>
    (d, m) :: ((below.filter fun b => m.type.references.contains b.1).flatMap (·.2)
      ++ interleave d (below.filter fun b => !m.type.references.contains b.1) ms)

mutual

/-- The members of a declaration and of those under it, each with its declaration. -/
def visits : Declaration → List (Declaration × Member)
  | ⟨id, name, members, nested⟩ =>
    interleave ⟨id, name, members, nested⟩ (numberedVisits nested) members

/-- The members of several declarations and of those under them, by their numbers. -/
def numberedVisits : List Declaration → List (Nat × List (Declaration × Member))
  | [] => []
  | d :: ds => (d.id, visits d) :: numberedVisits ds

end

theorem numberedVisits_eq_map (ds : List Declaration) :
    numberedVisits ds = ds.map fun d => (d.id, d.visits) := by
  induction ds with
  | nil => rw [numberedVisits, List.map_nil]
  | cons d ds ih => rw [numberedVisits, List.map_cons, ih]

theorem visits_eq (d : Declaration) :
    d.visits = interleave d (d.nested.map fun c => (c.id, c.visits)) d.members := by
  obtain ⟨id, name, members, nested⟩ := d
  rw [visits, numberedVisits_eq_map]

/-- A member is followed by what its type mentions, and the rest by the rest. -/
theorem interleave_cons {d : Declaration} {here later : List (Nat × List (Declaration × Member))}
    {m : Member} (ms : List Member) (hhere : ∀ b ∈ here, b.1 ∈ m.type.references)
    (hlater : ∀ b ∈ later, b.1 ∉ m.type.references) :
    interleave d (here ++ later) (m :: ms)
      = (d, m) :: (here.flatMap (·.2) ++ interleave d later ms) := by
  have hnow : (here ++ later).filter (fun b => m.type.references.contains b.1) = here := by
    rw [List.filter_append, List.filter_eq_self.2 (by simpa using hhere),
      List.filter_eq_nil_iff.2 (by simpa using hlater), List.append_nil]
  have hafter : (here ++ later).filter (fun b => !m.type.references.contains b.1) = later := by
    rw [List.filter_append, List.filter_eq_nil_iff.2 (by simpa using hhere),
      List.filter_eq_self.2 (by simpa using hlater), List.nil_append]
  rw [interleave, hnow, hafter]

/-- Nothing is left out if all numbers are mentioned. -/
theorem interleave_perm (d : Declaration) {below : List (Nat × List (Declaration × Member))}
    {ms : List Member} (h : ∀ b ∈ below, ∃ m ∈ ms, b.1 ∈ m.type.references) :
    (interleave d below ms).Perm (ms.map (d, ·) ++ below.flatMap (·.2)) := by
  induction ms generalizing below with
  | nil =>
    have hnil : below = [] := by
      rw [List.eq_nil_iff_forall_not_mem]
      intro b hb
      obtain ⟨m, hm, -⟩ := h b hb
      cases hm
    rw [hnil]
    exact .nil
  | cons m ms ih =>
    have hlater : ∀ b ∈ below.filter fun b => !m.type.references.contains b.1,
        ∃ m' ∈ ms, b.1 ∈ m'.type.references := by
      intro b hb
      obtain ⟨hb, hno⟩ := List.mem_filter.1 hb
      obtain ⟨m', hm', hid⟩ := h b hb
      rcases List.mem_cons.1 hm' with rfl | hm'
      · simp [hid] at hno
      · exact ⟨m', hm', hid⟩
    have hsplit := (List.filter_append_perm (fun b => m.type.references.contains b.1) below
      ).flatMap_right (·.2)
    rw [List.flatMap_append] at hsplit
    rw [interleave, List.map_cons, List.cons_append]
    refine .cons (d, m) (((ih hlater).append_left _).trans ?_)
    exact (List.perm_append_comm_assoc _ _ _).trans (hsplit.append_left _)

/-- Every declaration right under this one is in the type of a member. -/
def Covered (d : Declaration) : Prop :=
  ∀ c ∈ d.nested, ∃ m ∈ d.members, c.id ∈ m.type.references

/-- **Every member of every declaration is met once.** -/
theorem visits_perm {ds : List Declaration} (h : ∀ d ∈ withNested ds, d.Covered) :
    (ds.flatMap visits).Perm ((withNested ds).flatMap fun d => d.members.map (d, ·)) := by
  induction ds using forest_induction with
  | nil => exact .nil
  | cons d ds ihNested ihRest =>
    rw [withNested_cons, List.forall_mem_cons, List.forall_mem_append] at h
    obtain ⟨hd, hnested, hrest⟩ := h
    have hbelow : ∀ b ∈ d.nested.map fun c => (c.id, c.visits),
        ∃ m ∈ d.members, b.1 ∈ m.type.references := by
      rw [List.forall_mem_map]
      exact hd
    -- the declaration's own members and what stands below it, then the declarations after it
    have hown := interleave_perm d hbelow
    rw [← visits_eq, List.flatMap_map] at hown
    rw [withNested_cons, List.flatMap_cons, List.flatMap_cons, List.flatMap_append,
      ← List.append_assoc]
    exact (hown.trans ((ihNested hnested).append_left _)).append (ihRest hrest)

end Declaration

/-- The members of all declarations in the order of a walk, each with its declaration. -/
def Graph.visits (graph : Graph) : List (Declaration × Member) :=
  graph.forest.flatMap Declaration.visits

/-! ### What the walk declares and mentions -/

theorem TypeRef.mem_referencesOf_iff {id : Nat} {ts : List TypeRef} :
    id ∈ TypeRef.referencesOf ts ↔ ∃ t ∈ ts, id ∈ t.references := by
  induction ts with
  | nil => simp [TypeRef.referencesOf]
  | cons t ts ih => simp [TypeRef.referencesOf, ih]

/-- A type refers to objects of the shape that it stands for, by their places. -/
theorem Denotes.exists_object {objects : List (List Field)} (s : Shape) :
    ∀ t, Denotes objects t s → ∀ id ∈ t.references,
      ∃ fields ∈ s.objects, objects[id]? = some fields := by
  induction s using Shape.induction with
  | unknown =>
    rintro t ⟨⟩ id ⟨⟩
  | primitive k =>
    rintro t ⟨⟩ id ⟨⟩
  | object fs _ =>
    intro t ht id hid
    cases ht with
    | declared hplace =>
      rw [List.mem_singleton.1 hid]
      exact ⟨fs, List.mem_cons_self, hplace⟩
  | array e ih =>
    intro t ht
    cases ht with
    | @array t _ he => exact ih t he
  | nullable s ih =>
    intro t ht
    cases ht with
    | @nullable t _ hs => exact ih t hs
  | union as ih =>
    intro t ht id hid
    cases ht with
    | @union ts _ has =>
      rw [TypeRef.references, TypeRef.mem_referencesOf_iff] at hid
      obtain ⟨t, ht, hid⟩ := hid
      obtain ⟨a, ha, hta⟩ := exists_right_of_forall₂ has t ht
      obtain ⟨fields, hfields, hplace⟩ := ih a ha t hta id hid
      refine ⟨fields, ?_, hplace⟩
      rw [Shape.objects, Shape.objectsOfArms_eq_flatMap]
      exact List.mem_flatMap.2 ⟨a, ha, hfields⟩

theorem Denotes.lt_length {objects : List (List Field)} (s : Shape) :
    ∀ t, Denotes objects t s → ∀ id ∈ t.references, id < objects.length := by
  intro t ht id hid
  obtain ⟨fields, -, hplace⟩ := Denotes.exists_object s t ht id hid
  exact (List.getElem?_eq_some_iff.1 hplace).1

/-- Declarations have the numbers from the start on. -/
theorem Declares.le_id {objects declared : List (List Field)} {start : Nat}
    {ds : List Declaration} (h : Declares objects start ds declared) : ∀ d ∈ ds, start ≤ d.id := by
  intro d hd
  have hid := List.mem_map_of_mem (f := Declaration.id) hd
  rw [h.ids, List.mem_range'_1] at hid
  exact hid.1

section Walk

variable (cx : Context)

mutual

/-- What is declared for a type is mentioned in it. -/
theorem mem_references_nameType (place : Place) (names : Names) : (s : Shape) →
    ∀ d ∈ (cx.nameType place names s).declared,
      d.id ∈ (cx.nameType place names s).result.references
  | .unknown => by
    rw [Context.nameType]
    rintro d ⟨⟩
  | .primitive _ => by
    rw [Context.nameType]
    rintro d ⟨⟩
  | .array e => by
    rw [Context.nameType]
    exact mem_references_nameType place names e
  | .nullable s => by
    rw [Context.nameType]
    exact mem_references_nameType place names s
  | .union as => by
    rw [Context.nameType]
    exact mem_references_nameArms place names as
  | .object fs => by
    rw [Context.nameType]
    split
    · -- a shared object is mentioned, but was declared before
      rintro d ⟨⟩
    · rw [List.forall_mem_singleton]
      exact List.mem_cons_self

theorem mem_references_nameArms (place : Place) (names : Names) : (as : List Shape) →
    ∀ d ∈ (cx.nameArms place names as).declared,
      d.id ∈ TypeRef.referencesOf (cx.nameArms place names as).result
  | [] => by
    rw [Context.nameArms]
    rintro d ⟨⟩
  | a :: as => by
    rw [Context.nameArms]
    simp only [Outcome.after, Outcome.map, TypeRef.referencesOf, List.mem_append]
    rintro d (hd | hd)
    · exact .inl (mem_references_nameType place names a d hd)
    · exact .inr (mem_references_nameArms place _ as d hd)

end

theorem mem_references_nameFields (owner : String) (names : Names) (idents : List Candidate)
    (fs : List Field) : ∀ d ∈ (cx.nameFields owner names idents fs).declared,
      ∃ m ∈ (cx.nameFields owner names idents fs).result, d.id ∈ m.type.references := by
  induction fs generalizing names idents with
  | nil =>
    rw [Context.nameFields]
    rintro d ⟨⟩
  | cons f fs ih =>
    obtain ⟨key, s, optional⟩ := f
    rw [Context.nameFields]
    simp only [Outcome.after, Outcome.map, List.nil_append, List.mem_append]
    rintro d (hd | hd)
    · exact ⟨_, List.mem_cons_self, mem_references_nameType cx _ names s d hd⟩
    · obtain ⟨m, hm, hid⟩ := ih _ _ d hd
      exact ⟨m, List.mem_cons_of_mem _ hm, hid⟩

/-- What is declared for later fields has a number that the type of an earlier one does not know. -/
theorem notMem_references_of_mem_nameFields {place : Place} {names : Names}
    {before : List (List Field)} (hr : Records before names) (s : Shape) (owner : String)
    (idents : List Candidate) (fs : List Field) {d : Declaration}
    (hd : d ∈ (cx.nameFields owner (cx.nameType place names s).names idents fs).declared) :
    d.id ∉ (cx.nameType place names s).result.references := by
  obtain ⟨new, -, -, hr', hwalk⟩ := faithful_nameType cx place names before hr s
  obtain ⟨new', -, -, -, hwalk'⟩ := faithful_nameFields cx owner _ idents _ hr' fs
  intro hid
  have hlt := Denotes.lt_length s _ (hwalk _ (List.prefix_refl _)).1 d.id hid
  have hle := (hwalk' _ (List.prefix_refl _)).2.le_id d (Declaration.mem_withNested_of_mem hd)
  omega

variable {cx} in
theorem Built.covered {place : Place} {d : Declaration} (h : Built cx place d) : d.Covered := by
  obtain ⟨hin, before, after, id, fields⟩ := h
  exact mem_references_nameFields cx _ _ _ fields

/-- **The walk meets every member of every declaration once.** -/
theorem visits_perm_resolve (s : Shape) (rootName : String) :
    (cx.resolve s rootName).1.visits.Perm
      ((cx.resolve s rootName).1.declarations.flatMap fun d => d.members.map (d, ·)) := by
  rw [Graph.declarations_eq]
  apply Declaration.visits_perm
  intro d hd
  exact (built_of_mem_declarations cx s rootName d hd).covered

end Walk

end SampleTypes.Naming
