import Mathlib.Data.Finset.Card
import SampleTypes.Proofs.Naming.Walk
import SampleTypes.Proofs.Pointwise
import SampleTypes.Proofs.Shape.WellFormed

/-!
# Reading a graph back

A graph holds all of the shape that it names: with objects put in the place of numbers, over and
over until no number is left, its root is the shape again.

* `TypeRef.replace?`, `Graph.object?` and `Graph.expand?` put objects in the place of numbers, to a
  depth that is given;
* `replace?_of_denotes` is the main step.  Numbers may lead forward and, where objects are shared,
  backward as well, so that the order of the declarations is no measure for the depth; but objects
  get smaller on the way in, so that no number can come twice on one path (`Covers.erase`);
* `holds_resolve` is the main result.
-/

namespace SampleTypes.Naming

open List (Forall₂)

/-! ### Putting objects in the place of numbers -/

namespace TypeRef

mutual

/-- The shape that a type stands for if each number in it stands for a shape. -/
def replace? (object? : Nat → Option Shape) : TypeRef → Option Shape
  | .unknown => some .unknown
  | .primitive kind => some (.primitive kind)
  | .declared id => object? id
  | .array element => (replace? object? element).map .array
  | .nullable inner => (replace? object? inner).map .nullable
  | .union arms => (replaceAll? object? arms).map .union

/-- The shapes that several types stand for. -/
def replaceAll? (object? : Nat → Option Shape) : List TypeRef → Option (List Shape)
  | [] => some []
  | arm :: arms =>
    (replace? object? arm).bind fun s => (replaceAll? object? arms).map (s :: ·)

end

mutual

/-- The numbers that a type mentions. -/
def references : TypeRef → List Nat
  | .declared id => [id]
  | .array element => references element
  | .nullable inner => references inner
  | .union arms => referencesOf arms
  | .unknown => []
  | .primitive _ => []

/-- The numbers that several types mention. -/
def referencesOf : List TypeRef → List Nat
  | [] => []
  | arm :: arms => references arm ++ referencesOf arms

end

end TypeRef

/-- The field that a member stands for. -/
def Member.field? (object? : Nat → Option Shape) (m : Member) : Option Field :=
  (m.type.replace? object?).map fun shape => ⟨m.key, shape, m.optional⟩

namespace Graph

/-- The object that a number stands for, read through at most `depth` nested declarations. -/
def object? (graph : Graph) : Nat → Nat → Option Shape
  | 0, _ => none
  | depth + 1, id =>
    graph.declarations[id]?.bind fun d =>
      (d.members.mapM (Member.field? (graph.object? depth))).map .object

/-- The shape that a graph stands for, read through at most `depth` nested declarations. -/
def expand? (graph : Graph) (depth : Nat) : Option Shape :=
  graph.root.replace? (graph.object? depth)

/-- The numbers that the root and the members mention. -/
def references (graph : Graph) : List Nat :=
  graph.root.references
    ++ graph.declarations.flatMap fun d => d.members.flatMap fun m => m.type.references

/-- The graph holds the shape, its declarations objects of the shape. -/
structure Holds (graph : Graph) (s : Shape) : Prop where
  /-- To read the graph back takes no more depth than it has declarations. -/
  expand : ∀ depth, graph.declarations.length ≤ depth → graph.expand? depth = some s
  object : ∀ depth, graph.declarations.length ≤ depth → ∀ id < graph.declarations.length,
    ∃ fields ∈ s.objects, graph.object? depth id = some (.object fields)
  inRange : ∀ id ∈ graph.references, id < graph.declarations.length
  numbered : graph.declarations.map (·.id) = List.range graph.declarations.length

end Graph

/-! ### What can be read is there -/

namespace TypeRef

mutual

theorem isSome_of_replace? {object? : Nat → Option Shape} : (t : TypeRef) → {s : Shape} →
    t.replace? object? = some s → ∀ id ∈ t.references, (object? id).isSome
  | .unknown, _, _, id, hid => by
    rw [references] at hid
    cases hid
  | .primitive _, _, _, id, hid => by
    rw [references] at hid
    cases hid
  | .declared id, s, h, id', hid => by
    rw [references, List.mem_singleton] at hid
    rw [replace?] at h
    rw [hid, h]
    rfl
  | .array t, s, h, id, hid => by
    rw [references] at hid
    rw [replace?] at h
    obtain ⟨s', h', -⟩ := Option.map_eq_some_iff.1 h
    exact isSome_of_replace? t h' id hid
  | .nullable t, s, h, id, hid => by
    rw [references] at hid
    rw [replace?] at h
    obtain ⟨s', h', -⟩ := Option.map_eq_some_iff.1 h
    exact isSome_of_replace? t h' id hid
  | .union ts, s, h, id, hid => by
    rw [references] at hid
    rw [replace?] at h
    obtain ⟨ss, h', -⟩ := Option.map_eq_some_iff.1 h
    exact isSome_of_replaceAll? ts h' id hid

theorem isSome_of_replaceAll? {object? : Nat → Option Shape} : (ts : List TypeRef) →
    {ss : List Shape} → replaceAll? object? ts = some ss →
    ∀ id ∈ referencesOf ts, (object? id).isSome
  | [], _, _, id, hid => by
    rw [referencesOf] at hid
    cases hid
  | t :: ts, ss, h, id, hid => by
    rw [referencesOf, List.mem_append] at hid
    rw [replaceAll?] at h
    obtain ⟨s, hs, h⟩ := Option.bind_eq_some_iff.1 h
    obtain ⟨ss', hss, -⟩ := Option.map_eq_some_iff.1 h
    rcases hid with hid | hid
    · exact isSome_of_replace? t hs id hid
    · exact isSome_of_replaceAll? ts hss id hid

end

theorem replaceAll?_of_forall₂ {object? : Nat → Option Shape} {ts : List TypeRef}
    {ss : List Shape} (h : Forall₂ (fun t s => t.replace? object? = some s) ts ss) :
    replaceAll? object? ts = some ss := by
  induction h with
  | nil => rfl
  | cons hts _ ih =>
    rw [replaceAll?, hts, ih]
    rfl

end TypeRef

theorem Graph.lt_of_object? {graph : Graph} {depth id : Nat}
    (h : (graph.object? depth id).isSome) : id < graph.declarations.length := by
  cases depth with
  | zero => cases h
  | succ depth =>
    by_contra hno
    rw [Graph.object?, List.getElem?_eq_none (Nat.le_of_not_lt hno)] at h
    cases h

/-! ### The numbers that may still come -/

/-- The numbers are enough for all objects up to a size. -/
def Covers (objects : List (List Field)) (size : Nat) (ids : Finset Nat) : Prop :=
  ∀ id fields, objects[id]? = some fields → sizeOf (Shape.object fields) ≤ size → id ∈ ids

section Covers

variable {objects : List (List Field)} {size small : Nat} {ids : Finset Nat}

theorem covers_range (objects : List (List Field)) (size : Nat) :
    Covers objects size (Finset.range objects.length) := by
  intro id fields hid _
  rw [Finset.mem_range]
  exact (List.getElem?_eq_some_iff.1 hid).1

theorem Covers.mono (h : Covers objects size ids) (hle : small ≤ size) :
    Covers objects small ids := by
  intro id fields hid hsize
  exact h id fields hid (Nat.le_trans hsize hle)

/-- The number of an object does not come again inside, where all is smaller. -/
theorem Covers.erase (h : Covers objects size ids) {id : Nat} {fields : List Field}
    (place : objects[id]? = some fields) (hle : small ≤ size)
    (hlt : small < sizeOf (Shape.object fields)) : Covers objects small (ids.erase id) := by
  intro id' fields' hid' hsize
  rw [Finset.mem_erase]
  constructor
  · rintro rfl
    rw [place, Option.some.injEq] at hid'
    subst hid'
    omega
  · exact h.mono hle id' fields' hid' hsize

end Covers

/-! ### Going through the declarations -/

section Reading

variable {graph : Graph} {objects : List (List Field)}

/--
**What stands for a shape can be read back to it**, with as much depth as there are numbers that may
still come.
-/
theorem replace?_of_denotes (hg : Declares objects 0 graph.declarations objects) (s : Shape) :
    ∀ (t : TypeRef) (depth : Nat) (ids : Finset Nat), Denotes objects t s →
      Covers objects (sizeOf s) ids → ids.card ≤ depth →
      t.replace? (graph.object? depth) = some s := by
  induction s using Shape.induction with
  | unknown =>
    rintro t depth ids ⟨⟩ - -
    rfl
  | primitive k =>
    rintro t depth ids ⟨⟩ - -
    rfl
  | array e ih =>
    intro t depth ids ht hids hdepth
    cases ht with
    | @array t _ he =>
      have hsmall : sizeOf e ≤ sizeOf (Shape.array e) := by
        rw [Shape.array.sizeOf_spec]
        omega
      rw [TypeRef.replace?, ih t depth ids he (hids.mono hsmall) hdepth]
      rfl
  | nullable s ih =>
    intro t depth ids ht hids hdepth
    cases ht with
    | @nullable t _ hs =>
      have hsmall : sizeOf s ≤ sizeOf (Shape.nullable s) := by
        rw [Shape.nullable.sizeOf_spec]
        omega
      rw [TypeRef.replace?, ih t depth ids hs (hids.mono hsmall) hdepth]
      rfl
  | union as ih =>
    intro t depth ids ht hids hdepth
    cases ht with
    | @union ts _ has =>
      have hall : Forall₂ (fun t a => t.replace? (graph.object? depth) = some a) ts as := by
        refine forall₂_imp_of_mem_right has fun t a ha hta => ?_
        have hsmall : sizeOf a ≤ sizeOf (Shape.union as) := by
          have := List.sizeOf_lt_of_mem ha
          rw [Shape.union.sizeOf_spec]
          omega
        exact ih a ha t depth ids hta (hids.mono hsmall) hdepth
      rw [TypeRef.replace?, TypeRef.replaceAll?_of_forall₂ hall]
      rfl
  | object fs ih =>
    intro t depth ids ht hids hdepth
    cases ht with
    | @declared id _ place =>
      have hid : id ∈ ids := hids id fs place (Nat.le_refl _)
      have hpos : 0 < ids.card := Finset.card_pos.2 ⟨id, hid⟩
      obtain ⟨depth, rfl⟩ := Nat.exists_eq_add_of_le' (Nat.lt_of_lt_of_le hpos hdepth)
      have hcard : (ids.erase id).card ≤ depth := by
        rw [Finset.card_erase_of_mem hid]
        omega
      obtain ⟨d, hd, hmembers⟩ := exists_getElem?_of_forall₂ hg.members place
      have hfields : d.members.mapM (Member.field? (graph.object? depth)) = some fs := by
        apply mapM_eq_some_of_forall₂
        refine forall₂_imp_of_mem_right hmembers fun m f hf hm => ?_
        have hlt := Shape.sizeOf_lt_of_mem_fields hf
        have hinside := hids.erase place (Nat.le_of_lt hlt) hlt
        have hshape := ih f hf m.type depth (ids.erase id) hm.type hinside hcard
        rw [Member.field?, hshape, hm.key, hm.optional]
        cases f
        rfl
      rw [TypeRef.replace?, Graph.object?, hd, Option.bind_some, hfields]
      rfl

/-- No more depth than there are declarations is needed. -/
theorem replace?_of_denotes_of_le (hg : Declares objects 0 graph.declarations objects) {t : TypeRef}
    {s : Shape} (h : Denotes objects t s) {depth : Nat}
    (hdepth : graph.declarations.length ≤ depth) : t.replace? (graph.object? depth) = some s := by
  apply replace?_of_denotes hg s t depth (Finset.range objects.length) h (covers_range objects _)
  rwa [Finset.card_range, ← hg.members.length_eq]

theorem lt_of_mem_references (hg : Declares objects 0 graph.declarations objects) {t : TypeRef}
    {s : Shape} (h : Denotes objects t s) {id : Nat} (hid : id ∈ t.references) :
    id < graph.declarations.length := by
  have hread := replace?_of_denotes_of_le hg h (Nat.le_refl _)
  exact Graph.lt_of_object? (t.isSome_of_replace? hread id hid)

end Reading

/-- **Naming a shape loses nothing of it.** -/
theorem holds_resolve (cx : Context) (s : Shape) (rootName : String) :
    (cx.resolve s rootName).1.Holds s := by
  obtain ⟨objects, hsub, -, hroot, hg⟩ := declares_resolve cx s rootName
  have hlength := hg.members.length_eq
  constructor
  · intro depth hdepth
    exact replace?_of_denotes_of_le hg hroot hdepth
  · intro depth hdepth id hid
    have hplace := List.getElem?_eq_getElem (hlength ▸ hid)
    refine ⟨_, hsub.subset (List.mem_of_getElem? hplace), ?_⟩
    exact replace?_of_denotes_of_le hg (.declared hplace) hdepth
  · intro id hid
    rcases List.mem_append.1 hid with hid | hid
    · exact lt_of_mem_references hg hroot hid
    · obtain ⟨d, hd, hid⟩ := List.mem_flatMap.1 hid
      obtain ⟨m, hm, hid⟩ := List.mem_flatMap.1 hid
      obtain ⟨fields, -, hmembers⟩ := exists_right_of_forall₂ hg.members d hd
      obtain ⟨f, -, hf⟩ := exists_right_of_forall₂ hmembers m hm
      exact lt_of_mem_references hg hf.type hid
  · rw [hg.ids, hlength, List.range_eq_range']

-- An object that is shared, a key that comes twice, an empty union, and a field that is nullable.
example :
    let point : Shape := .object [⟨"x", .primitive .integer, false⟩, ⟨"x", .union [], true⟩]
    let s : Shape := .union [.array point, .object [⟨"p", .nullable point, true⟩]]
    (Context.resolve ⟨.typescript, .pascal, true⟩ s "shape").1.expand? 2 = some s := by
  decide +kernel

end SampleTypes.Naming
