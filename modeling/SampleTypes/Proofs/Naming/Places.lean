import SampleTypes.Proofs.Naming.Declarations
import SampleTypes.Proofs.Naming.Nesting

/-!
# Places

A place in a shape is given by the steps that lead to it, each from a shape into one of its parts.
The same steps lead through the graph of a shape, where the step into a field goes by way of the
declaration of the object; what is reached there stands for what is reached in the shape.

* `Shape.at?` and `Graph.at?` follow steps through a shape and through a graph;
* `Shape.places` lists the places of the objects, depth first (`Shape.mem_places_iff`);
* `denotes_follow?` is the main result.
-/

namespace SampleTypes

open List (Forall₂)

/-! ### Places in a shape -/

namespace Shape

/-- A step from a shape into one of its parts; arms and fields are counted from zero. -/
inductive Step where
  | element
  | inner
  | arm (index : Nat)
  | field (index : Nat)
deriving DecidableEq, Repr

/-- The part of a shape that a step leads into. -/
def part? : Shape → Step → Option Shape
  | .array element, .element => some element
  | .nullable inner, .inner => some inner
  | .union arms, .arm index => arms[index]?
  | .object fields, .field index => fields[index]?.map (·.shape)
  | _, _ => none

/-- What stands in a shape at the end of some steps. -/
def at? (s : Shape) (path : List Step) : Option Shape :=
  path.foldlM part? s

mutual

/-- The places of the objects in a shape, depth first. -/
def places : Shape → List (List Step)
  | .object fields => [] :: placesOfFields 0 fields
  | .array element => (places element).map (.element :: ·)
  | .nullable inner => (places inner).map (.inner :: ·)
  | .union arms => placesOfArms 0 arms
  | .unknown => []
  | .primitive _ => []

/-- The places of the objects in the fields of an object, from the field `index` on. -/
def placesOfFields (index : Nat) : List Field → List (List Step)
  | [] => []
  | ⟨_, shape, _⟩ :: fields =>
    (places shape).map (.field index :: ·) ++ placesOfFields (index + 1) fields

/-- The places of the objects in the arms of a union, from the arm `index` on. -/
def placesOfArms (index : Nat) : List Shape → List (List Step)
  | [] => []
  | arm :: arms => (places arm).map (.arm index :: ·) ++ placesOfArms (index + 1) arms

end

@[simp] theorem at?_nil (s : Shape) : s.at? [] = some s := rfl

theorem at?_cons (s : Shape) (step : Step) (path : List Step) :
    s.at? (step :: path) = (s.part? step).bind (·.at? path) := rfl

theorem at?_of_part? {s part : Shape} {step : Step} (h : s.part? step = some part) :
    (s.at? ∘ (step :: ·)) = part.at? := by
  funext path
  rw [Function.comp_apply, at?_cons, h, Option.bind_some]

/-! ### Places in several parts -/

/-- The places in several parts, from the one with the number `index` on. -/
def placesIn (step : Nat → Step) (index : Nat) : List (List (List Step)) → List (List Step)
  | [] => []
  | paths :: parts => paths.map (step index :: ·) ++ placesIn step (index + 1) parts

theorem placesOfFields_eq_placesIn (index : Nat) (fs : List Field) :
    placesOfFields index fs = placesIn .field index (fs.map (·.shape.places)) := by
  induction fs generalizing index with
  | nil => rfl
  | cons f fs ih =>
    obtain ⟨key, s, optional⟩ := f
    rw [placesOfFields, ih, List.map_cons, placesIn]

theorem placesOfArms_eq_placesIn (index : Nat) (as : List Shape) :
    placesOfArms index as = placesIn .arm index (as.map places) := by
  induction as generalizing index with
  | nil => rfl
  | cons a as ih => rw [placesOfArms, ih, List.map_cons, placesIn]

theorem mem_placesIn {step : Nat → Step} {parts : List (List (List Step))} {i : Nat}
    {paths : List (List Step)} {path : List Step} (hpart : parts[i]? = some paths)
    (hpath : path ∈ paths) (index : Nat) :
    step (index + i) :: path ∈ placesIn step index parts := by
  induction parts generalizing i index with
  | nil => cases hpart
  | cons first parts ih =>
    rw [placesIn, List.mem_append]
    cases i with
    | zero =>
      rw [List.getElem?_cons_zero, Option.some.injEq] at hpart
      subst hpart
      exact .inl (List.mem_map_of_mem hpath)
    | succ i =>
      have hindex : index + (i + 1) = index + 1 + i := by omega
      rw [hindex]
      exact .inr (ih hpart (index + 1))

/-- What stands at the places in several parts is what stands at those in each. -/
theorem map_placesIn {α β : Type} {step : Nat → Step} {l : List α} {paths : α → List (List Step)}
    {f : List Step → β} {values : α → List β} (index : Nat)
    (h : ∀ i a, l[i]? = some a → (paths a).map (f ∘ (step (index + i) :: ·)) = values a) :
    (placesIn step index (l.map paths)).map f = l.flatMap values := by
  induction l generalizing index with
  | nil => rfl
  | cons a l ih =>
    have hrest : ∀ i b, l[i]? = some b →
        (paths b).map (f ∘ (step (index + 1 + i) :: ·)) = values b := by
      intro i b hb
      have hindex : index + 1 + i = index + (i + 1) := by omega
      rw [hindex]
      exact h (i + 1) b hb
    have hfirst : (paths a).map (f ∘ (step index :: ·)) = values a := h 0 a rfl
    rw [List.map_cons, placesIn, List.map_append, List.map_map, hfirst, ih (index + 1) hrest,
      List.flatMap_cons]

/-! ### The places of objects -/

/-- **At the places stand the objects.** -/
theorem map_at?_places (s : Shape) :
    s.places.map s.at? = s.objects.map fun fields => some (.object fields) := by
  induction s using Shape.induction with
  | unknown => rfl
  | primitive _ => rfl
  | array e ih =>
    rw [places, List.map_map, at?_of_part? rfl]
    exact ih
  | nullable s ih =>
    rw [places, List.map_map, at?_of_part? rfl]
    exact ih
  | union as ih =>
    rw [places, placesOfArms_eq_placesIn, objects, objectsOfArms_eq_flatMap, List.map_flatMap]
    apply map_placesIn
    intro i a ha
    have hpart : part? (.union as) (.arm i) = some a := ha
    rw [Nat.zero_add, at?_of_part? hpart]
    exact ih a (List.mem_of_getElem? ha)
  | object fs ih =>
    rw [places, placesOfFields_eq_placesIn, objects, objectsOfFields_eq_flatMap, List.map_cons,
      List.map_cons, List.map_flatMap, at?_nil, List.cons.injEq]
    refine ⟨rfl, ?_⟩
    apply map_placesIn
    intro i f hf
    have hpart : part? (.object fs) (.field i) = some f.shape := by
      rw [part?, hf, Option.map_some]
    rw [Nat.zero_add, at?_of_part? hpart]
    exact ih f (List.mem_of_getElem? hf)

theorem cons_mem_places {s part : Shape} {step : Step} (h : s.part? step = some part)
    {path : List Step} (hpath : path ∈ part.places) : step :: path ∈ s.places := by
  unfold part? at h
  split at h
  · cases h
    exact List.mem_map_of_mem hpath
  · cases h
    exact List.mem_map_of_mem hpath
  · rename_i arms index
    have hpart : (arms.map places)[index]? = some part.places := by
      rw [List.getElem?_map, h, Option.map_some]
    have hmem : .arm (0 + index) :: path ∈ _ := mem_placesIn hpart hpath 0
    rwa [← placesOfArms_eq_placesIn, Nat.zero_add] at hmem
  · rename_i fields index
    obtain ⟨f, hf, rfl⟩ := Option.map_eq_some_iff.1 h
    have hpart : (fields.map (·.shape.places))[index]? = some f.shape.places := by
      rw [List.getElem?_map, hf, Option.map_some]
    have hmem : .field (0 + index) :: path ∈ _ := mem_placesIn hpart hpath 0
    rw [← placesOfFields_eq_placesIn, Nat.zero_add] at hmem
    exact List.mem_cons_of_mem _ hmem
  · cases h

/-- **The places are those at which an object stands.** -/
theorem mem_places_iff {s : Shape} {path : List Step} :
    path ∈ s.places ↔ ∃ fields, s.at? path = some (.object fields) := by
  constructor
  · intro hpath
    have hmem := List.mem_map_of_mem (f := s.at?) hpath
    rw [map_at?_places] at hmem
    obtain ⟨fields, -, hat⟩ := List.mem_map.1 hmem
    exact ⟨fields, hat.symm⟩
  · rintro ⟨fields, hat⟩
    induction path generalizing s with
    | nil =>
      rw [at?_nil, Option.some.injEq] at hat
      rw [hat]
      exact List.mem_cons_self
    | cons step path ih =>
      rw [at?_cons] at hat
      obtain ⟨part, hpart, hat⟩ := Option.bind_eq_some_iff.1 hat
      exact cons_mem_places hpart (ih hat)

theorem length_places (s : Shape) : s.places.length = s.objects.length := by
  have hlength := congrArg List.length (map_at?_places s)
  rwa [List.length_map, List.length_map] at hlength

theorem mem_objects_of_at? {s : Shape} {path : List Step} {fields : List Field}
    (h : s.at? path = some (.object fields)) : fields ∈ s.objects := by
  have hmem := List.mem_map_of_mem (f := s.at?) (mem_places_iff.2 ⟨fields, h⟩)
  rw [map_at?_places, h] at hmem
  obtain ⟨fields', hfields, heq⟩ := List.mem_map.1 hmem
  cases heq
  exact hfields

end Shape

/-! ### Places in a graph -/

namespace Naming

namespace Graph

/-- The part of a type that a step leads into, through a declaration if it goes into a field. -/
def part? (graph : Graph) : TypeRef → Shape.Step → Option TypeRef
  | .array element, .element => some element
  | .nullable inner, .inner => some inner
  | .union arms, .arm index => arms[index]?
  | .declared id, .field index =>
    (graph.find? id).bind fun d => d.members[index]?.map (·.type)
  | _, _ => none

/-- The type that some steps lead to from another. -/
def follow? (graph : Graph) (t : TypeRef) (path : List Shape.Step) : Option TypeRef :=
  path.foldlM graph.part? t

/-- The type that some steps lead to from the root. -/
def at? (graph : Graph) (path : List Shape.Step) : Option TypeRef :=
  graph.follow? graph.root path

@[simp] theorem follow?_nil (graph : Graph) (t : TypeRef) : graph.follow? t [] = some t := rfl

theorem follow?_cons (graph : Graph) (t : TypeRef) (step : Shape.Step) (path : List Shape.Step) :
    graph.follow? t (step :: path) = (graph.part? t step).bind (graph.follow? · path) := rfl

theorem follow?_of_part? {graph : Graph} {t part : TypeRef} {step : Shape.Step}
    (h : graph.part? t step = some part) :
    (graph.follow? t ∘ (step :: ·)) = graph.follow? part := by
  funext path
  rw [Function.comp_apply, follow?_cons, h, Option.bind_some]

end Graph

section Denotes

variable {graph : Graph} {objects : List (List Field)}

/-- The object in a place has the declaration with that number. -/
theorem Declares.exists_find? (hg : Declares objects 0 graph.declarations objects) {id : Nat}
    {fields : List Field} (place : objects[id]? = some fields) :
    ∃ d, graph.find? id = some d ∧ Forall₂ (Makes objects) d.members fields := by
  obtain ⟨d, hd, hmembers⟩ := exists_getElem?_of_forall₂ hg.members place
  have hfind := hg.ascending.find?_eq_some (List.mem_of_getElem? hd)
  rw [hg.id_eq hd] at hfind
  exact ⟨d, hfind, hmembers⟩

theorem denotes_part? (hg : Declares objects 0 graph.declarations objects) {t : TypeRef}
    {s part : Shape} (ht : Denotes objects t s) {step : Shape.Step}
    (hpart : s.part? step = some part) :
    ∃ u, graph.part? t step = some u ∧ Denotes objects u part := by
  unfold Shape.part? at hpart
  split at hpart
  · cases hpart
    cases ht with
    | @array u _ element => exact ⟨u, rfl, element⟩
  · cases hpart
    cases ht with
    | @nullable u _ inner => exact ⟨u, rfl, inner⟩
  · cases ht with
    | @union ts _ arms => exact exists_getElem?_of_forall₂ arms hpart
  · obtain ⟨f, hf, rfl⟩ := Option.map_eq_some_iff.1 hpart
    cases ht with
    | @declared id _ place =>
      obtain ⟨d, hd, hmembers⟩ := hg.exists_find? place
      obtain ⟨m, hm, hmakes⟩ := exists_getElem?_of_forall₂ hmembers hf
      refine ⟨m.type, ?_, hmakes.type⟩
      rw [Graph.part?, hd, Option.bind_some, hm, Option.map_some]
  · cases hpart

/-- **Steps lead in the graph to what stands for the end of the same steps in the shape.** -/
theorem denotes_follow? (hg : Declares objects 0 graph.declarations objects) {t : TypeRef}
    {s target : Shape} (ht : Denotes objects t s) {path : List Shape.Step}
    (hpath : s.at? path = some target) :
    ∃ u, graph.follow? t path = some u ∧ Denotes objects u target := by
  induction path generalizing t s with
  | nil =>
    rw [Shape.at?_nil, Option.some.injEq] at hpath
    exact ⟨t, rfl, hpath ▸ ht⟩
  | cons step path ih =>
    rw [Shape.at?_cons] at hpath
    obtain ⟨part, hpart, hpath⟩ := Option.bind_eq_some_iff.1 hpath
    obtain ⟨u, hu, hpartDenotes⟩ := denotes_part? hg ht hpart
    obtain ⟨v, hv, hend⟩ := ih hpartDenotes hpath
    refine ⟨v, ?_, hend⟩
    rw [Graph.follow?_cons, hu, Option.bind_some, hv]

/-- Where the shape has an object, the graph has the number of an equal one. -/
theorem exists_at?_eq_declared (hg : Declares objects 0 graph.declarations objects) {s : Shape}
    (hroot : Denotes objects graph.root s) {path : List Shape.Step} {fields : List Field}
    (hpath : s.at? path = some (.object fields)) :
    ∃ id, graph.at? path = some (.declared id) ∧ objects[id]? = some fields := by
  obtain ⟨t, ht, hobject⟩ := denotes_follow? hg hroot hpath
  cases hobject with
  | @declared id _ place => exact ⟨id, ht, place⟩

end Denotes

end Naming

end SampleTypes
