import Mathlib.Data.List.Perm.Basic
import SampleTypes.Proofs.Keyed
import SampleTypes.Proofs.Naming.Walk

/-!
# Declarations inside others

A graph keeps its declarations as a forest, and lists them with the number of the one above each.
The list alone tells the forest as well: `Graph.parent?` reads the number above from it,
`Graph.under` what stands right under a number, `Graph.ancestors` the way up.  Where the numbers
grow along the list, as they do in the graph of a shape, this is the forest again.

* `listingOf` is known entry by entry from `mem_listingOf_iff`;
* `Graph.under_none` and `Graph.under_some`: what is read from the list is what the forest has;
* `Graph.ancestors_of_mem_forest` and `Graph.ancestors_of_mem_nested`: the way up.
-/

namespace SampleTypes.Naming

open Declaration (listing listingOf withNested)

/-! ### Going through a forest -/

namespace Declaration

/-- Induction on a forest: over the declarations under the first one, and those after it. -/
theorem forest_induction {P : List Declaration → Prop} (nil : P [])
    (cons : ∀ d ds, P d.nested → P ds → P (d :: ds)) : (ds : List Declaration) → P ds
  | [] => nil
  | ⟨id, name, members, nested⟩ :: ds =>
    cons ⟨id, name, members, nested⟩ ds (forest_induction nil cons nested)
      (forest_induction nil cons ds)

@[simp] theorem listingOf_nil (parent : Option Nat) : listingOf parent [] = [] := rfl

theorem listingOf_cons (parent : Option Nat) (d : Declaration) (ds : List Declaration) :
    listingOf parent (d :: ds)
      = (parent, d) :: (listingOf (some d.id) d.nested ++ listingOf parent ds) := by
  obtain ⟨id, name, members, nested⟩ := d
  rfl

theorem sublist_withNested (ds : List Declaration) : ds.Sublist (withNested ds) := by
  induction ds with
  | nil => exact .slnil
  | cons d ds ih =>
    rw [withNested_cons]
    exact (ih.trans (List.sublist_append_right _ _)).cons_cons d

theorem mem_withNested_of_mem {d : Declaration} {ds : List Declaration} (h : d ∈ ds) :
    d ∈ withNested ds :=
  (sublist_withNested ds).subset h

/-- With a declaration come those under it, in their order. -/
theorem cons_withNested_sublist {d : Declaration} {ds : List Declaration}
    (h : d ∈ withNested ds) : (d :: withNested d.nested).Sublist (withNested ds) := by
  induction ds using forest_induction with
  | nil => cases h
  | cons e ds ihNested ihRest =>
    rw [withNested_cons]
    rw [withNested_cons, List.mem_cons, List.mem_append] at h
    rcases h with rfl | h | h
    · exact (List.sublist_append_left _ _).cons_cons d
    · exact ((ihNested h).trans (List.sublist_append_left _ _)).cons e
    · exact ((ihRest h).trans (List.sublist_append_right _ _)).cons e

theorem withNested_eq_flatMap (ds : List Declaration) :
    withNested ds = ds.flatMap fun d => d :: withNested d.nested := by
  induction ds with
  | nil => rfl
  | cons d ds ih => rw [withNested_cons, List.flatMap_cons, ih, List.cons_append]

theorem withNested_perm {ds es : List Declaration} (h : ds.Perm es) :
    (withNested ds).Perm (withNested es) := by
  rw [withNested_eq_flatMap, withNested_eq_flatMap]
  exact h.flatMap fun _ _ => .refl _

theorem mem_withNested_of_mem_nested {c d : Declaration} {ds : List Declaration}
    (hd : d ∈ withNested ds) (hc : c ∈ d.nested) : c ∈ withNested ds :=
  (cons_withNested_sublist hd).subset (List.mem_cons_of_mem d (mem_withNested_of_mem hc))

/-- A declaration is listed with no number above if it is one of the forest, else with its own. -/
theorem mem_listingOf_iff {parent p : Option Nat} {c : Declaration} {ds : List Declaration} :
    (p, c) ∈ listingOf parent ds ↔
      (p = parent ∧ c ∈ ds) ∨ ∃ d ∈ withNested ds, p = some d.id ∧ c ∈ d.nested := by
  induction ds using forest_induction generalizing parent with
  | nil => simp
  | cons d ds ihNested ihRest =>
    rw [listingOf_cons, List.mem_cons, List.mem_append, ihNested, ihRest, withNested_cons]
    simp only [Prod.mk.injEq, List.mem_cons, List.mem_append]
    grind

/-! ### Reading the list -/

/-- No number above that is not one of a declaration or given for all. -/
theorem filter_listingOf {parent p : Option Nat} {ds : List Declaration}
    (h : ∀ d ∈ withNested ds, p ≠ some d.id) :
    ((listingOf parent ds).filter (·.1 == p)).map (·.2) = if parent = p then ds else [] := by
  induction ds using forest_induction generalizing parent with
  | nil => simp
  | cons d ds ihNested ihRest =>
    rw [withNested_cons, List.forall_mem_cons, List.forall_mem_append] at h
    obtain ⟨hd, hnested, hrest⟩ := h
    rw [listingOf_cons, List.filter_cons, List.filter_append, apply_ite (List.map _),
      List.map_cons, List.map_append, ihNested hnested, ihRest hrest, if_neg (Ne.symm hd)]
    by_cases hp : parent = p <;> simp [hp]

/-- Right under a declaration stands what the list has with its number. -/
theorem filter_listingOf_of_mem {parent : Option Nat} {d : Declaration} {ds : List Declaration}
    (hids : ((withNested ds).map (·.id)).Nodup) (hparent : parent ≠ some d.id)
    (hd : d ∈ withNested ds) :
    ((listingOf parent ds).filter (·.1 == some d.id)).map (·.2) = d.nested := by
  induction ds using forest_induction generalizing parent with
  | nil => cases hd
  | cons e ds ihNested ihRest =>
    rw [withNested_cons, List.map_cons, List.map_append, List.nodup_cons, List.mem_append,
      not_or, List.nodup_append] at hids
    obtain ⟨⟨hnested, hrest⟩, hidsNested, hidsRest, hapart⟩ := hids
    rw [listingOf_cons, List.filter_cons, List.filter_append, apply_ite (List.map _),
      List.map_cons, List.map_append, if_neg (by simpa using hparent)]
    rw [withNested_cons, List.mem_cons, List.mem_append] at hd
    rcases hd with rfl | hd | hd
    · rw [filter_listingOf, filter_listingOf, if_pos rfl, if_neg hparent, List.append_nil]
      · rintro c hc heq
        exact hrest (List.mem_map.2 ⟨c, hc, (Option.some.inj heq).symm⟩)
      · rintro c hc heq
        exact hnested (List.mem_map.2 ⟨c, hc, (Option.some.inj heq).symm⟩)
    · have hne : some e.id ≠ some d.id := by
        rintro heq
        exact hnested (List.mem_map.2 ⟨d, hd, (Option.some.inj heq).symm⟩)
      rw [ihNested hidsNested hne hd, filter_listingOf, if_neg hparent, List.append_nil]
      intro c hc heq
      exact hapart _ (List.mem_map_of_mem hd) _ (List.mem_map_of_mem hc) (Option.some.inj heq)
    · have hne : some e.id ≠ some d.id := by
        rintro heq
        exact hrest (List.mem_map.2 ⟨d, hd, (Option.some.inj heq).symm⟩)
      rw [ihRest hidsRest hparent hd, filter_listingOf, if_neg hne, List.nil_append]
      intro c hc heq
      exact hapart _ (List.mem_map_of_mem hc) _ (List.mem_map_of_mem hd) (Option.some.inj heq).symm

end Declaration

/-! ### Graphs -/

namespace Graph

/-- The number of the declaration right above the one with a number, as the list has it. -/
def parent? (graph : Graph) (id : Nat) : Option Nat :=
  (Keyed.find? (·.2.id) id graph.listing).bind (·.1)

/-- The declarations that are listed with a number above them, or with none. -/
def under (graph : Graph) (parent : Option Nat) : List Declaration :=
  (graph.listing.filter (·.1 == parent)).map (·.2)

/-- The numbers on the way up from a declaration; each is less than the one before. -/
def ancestors (graph : Graph) (id : Nat) : List Nat :=
  match graph.parent? id with
  | none => []
  | some parent => if parent < id then parent :: graph.ancestors parent else []

/-- The numbers of the declarations grow along the list. -/
def Ascending (graph : Graph) : Prop :=
  (graph.declarations.map (·.id)).Pairwise (· < ·)

section Ascending

variable {graph : Graph}

theorem Ascending.nodup (h : graph.Ascending) : (graph.declarations.map (·.id)).Nodup :=
  List.Pairwise.imp Nat.ne_of_lt h

/-- A declaration is found under its number. -/
theorem Ascending.find?_eq_some (h : graph.Ascending) {d : Declaration}
    (hd : d ∈ graph.declarations) : graph.find? d.id = some d :=
  (Keyed.find?_eq_some_iff h.nodup).2 ⟨hd, rfl⟩

theorem Ascending.nameOf_eq (h : graph.Ascending) {d : Declaration}
    (hd : d ∈ graph.declarations) : graph.nameOf d.id = d.name := by
  rw [nameOf, h.find?_eq_some hd]
  rfl

theorem under_none (graph : Graph) : graph.under none = graph.forest := by
  rw [under, listing, Declaration.filter_listingOf, if_pos rfl]
  rintro d - ⟨⟩

theorem under_some (h : graph.Ascending) {d : Declaration} (hd : d ∈ graph.declarations) :
    graph.under (some d.id) = d.nested := by
  have hnone : none ≠ some d.id := (Option.some_ne_none d.id).symm
  rw [under, listing, Declaration.filter_listingOf_of_mem h.nodup hnone hd]

/-- A declaration has a lower number than those under it. -/
theorem Ascending.lt (h : graph.Ascending) {c d : Declaration} (hd : d ∈ graph.declarations)
    (hc : c ∈ d.nested) : d.id < c.id := by
  have hsub := (Declaration.cons_withNested_sublist hd).map (·.id)
  have hpairs := List.Pairwise.sublist hsub h
  rw [List.map_cons, List.pairwise_cons] at hpairs
  exact hpairs.1 c.id (List.mem_map_of_mem (Declaration.mem_withNested_of_mem hc))

theorem parent?_of_mem_listing (h : graph.Ascending) {p : Option Nat} {d : Declaration}
    (hmem : (p, d) ∈ graph.listing) : graph.parent? d.id = p := by
  have hnodup : (graph.listing.map (·.2.id)).Nodup := by
    have := h.nodup
    rwa [declarations, List.map_map] at this
  rw [parent?, (Keyed.find?_eq_some_iff hnodup).2 ⟨hmem, rfl⟩]
  rfl

theorem parent?_of_mem_forest (h : graph.Ascending) {d : Declaration} (hd : d ∈ graph.forest) :
    graph.parent? d.id = none :=
  parent?_of_mem_listing h (Declaration.mem_listingOf_iff.2 (.inl ⟨rfl, hd⟩))

theorem parent?_of_mem_nested (h : graph.Ascending) {c d : Declaration}
    (hd : d ∈ graph.declarations) (hc : c ∈ d.nested) : graph.parent? c.id = some d.id :=
  parent?_of_mem_listing h (Declaration.mem_listingOf_iff.2 (.inr ⟨d, hd, rfl, hc⟩))

theorem ancestors_of_mem_forest (h : graph.Ascending) {d : Declaration} (hd : d ∈ graph.forest) :
    graph.ancestors d.id = [] := by
  rw [ancestors, parent?_of_mem_forest h hd]

theorem ancestors_of_mem_nested (h : graph.Ascending) {c d : Declaration}
    (hd : d ∈ graph.declarations) (hc : c ∈ d.nested) :
    graph.ancestors c.id = d.id :: graph.ancestors d.id := by
  rw [ancestors, parent?_of_mem_nested h hd hc]
  exact if_pos (h.lt hd hc)

end Ascending

end Graph

theorem Declares.ascending {graph : Graph} {objects : List (List Field)}
    (h : Declares objects 0 graph.declarations objects) : graph.Ascending := by
  rw [Graph.Ascending, h.ids]
  exact List.pairwise_lt_range'

theorem ascending_resolve (cx : Context) (s : Shape) (rootName : String) :
    (cx.resolve s rootName).1.Ascending := by
  obtain ⟨objects, -, -, -, hd⟩ := declares_resolve cx s rootName
  exact hd.ascending

end SampleTypes.Naming
