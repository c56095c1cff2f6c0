import SampleTypes.Proofs.Pointwise
import SampleTypes.Proofs.Shape.WellFormed

/-!
# Similar shapes

Two shapes are similar if they are equal up to the order in which the fields of each object stand,
at every depth.  Kinds, arms, marks for null and optional fields are the same in both.

* `Similar` is an equivalence: `Similar.refl`, `Similar.symm`, `Similar.trans`;
* what is similar to a well-formed shape is well formed (`Similar.wellFormed`);
* well-formed shapes are similar if their parts are (`WellFormed.similar`), and objects if the
  fields under each key are (`similar_object_iff`).
-/

namespace SampleTypes

open List (Forall₂)

namespace Keyed

variable {α κ : Type} [DecidableEq κ] {key : α → κ} {r : α → α → Prop} {l m : List α}

/-- The order of the entries makes no difference to what is found. -/
theorem find?_perm (hl : (l.map key).Nodup) (h : l.Perm m) (k : κ) :
    find? key k l = find? key k m := by
  have hm : (m.map key).Nodup := (h.map key).nodup_iff.1 hl
  refine Option.ext fun a => ?_
  rw [find?_eq_some_iff hl, find?_eq_some_iff hm, h.mem_iff]

theorem rel_find? (hkey : ∀ a b, r a b → key a = key b) (h : Forall₂ r l m) (k : κ) :
    Option.Rel r (find? key k l) (find? key k m) := by
  induction h with
  | nil => exact .none
  | @cons a b _ _ hab _ ih =>
    rw [find?_cons, find?_cons, hkey a b hab]
    split
    · exact .some hab
    · exact ih

/-- Where related entries are found under each key, the lists are related up to order. -/
theorem exists_perm_forall₂ (hl : (l.map key).Nodup) (hm : (m.map key).Nodup)
    (hrel : ∀ k, Option.Rel r (find? key k l) (find? key k m)) :
    ∃ l', l.Perm l' ∧ Forall₂ r l' m := by
  -- the entries of `l` in the order of the keys of `m`
  refine ⟨(m.map key).filterMap (find? key · l), ?_, ?_⟩
  · have hnodup : ((m.map key).filterMap (find? key · l)).Nodup := by
      refine hm.filterMap fun k k' a hk hk' => ?_
      exact (mem_of_find? hk).2.symm.trans (mem_of_find? hk').2
    refine (List.perm_ext_iff_of_nodup (hl.of_map key) hnodup).2 fun a => ?_
    rw [List.mem_filterMap]
    constructor
    · intro ha
      have hfind := (find?_eq_some_iff hl).2 ⟨ha, rfl⟩
      refine ⟨key a, ?_, hfind⟩
      by_contra hmem
      have hnone := hrel (key a)
      rw [hfind, find?_eq_none_iff.2 hmem] at hnone
      cases hnone
    · rintro ⟨k, -, hk⟩
      exact (mem_of_find? hk).1
  · conv => rhs; rw [← filterMap_find? hm]
    exact List.rel_filterMap (R := Eq) (fun k _ hk => hk ▸ hrel k) (List.forall₂_refl _)

end Keyed

namespace Shape

open Keyed (find?)

/-! ### The relation -/

mutual

/-- The shapes are equal up to the order of the fields of every object. -/
inductive Similar : Shape → Shape → Prop
  | unknown : Similar .unknown .unknown
  | primitive (kind : Primitive) : Similar (.primitive kind) (.primitive kind)
  | object {fs hs gs : List Field} (reordered : fs.Perm hs) (fields : Forall₂ SimilarField hs gs) :
    Similar (.object fs) (.object gs)
  | array {d e : Shape} (element : Similar d e) : Similar (.array d) (.array e)
  | nullable {s t : Shape} (inner : Similar s t) : Similar (.nullable s) (.nullable t)
  | union {as bs : List Shape} (arms : Forall₂ Similar as bs) : Similar (.union as) (.union bs)

/-- The fields are equal but for the order of fields within their shapes. -/
inductive SimilarField : Field → Field → Prop
  | mk (key : String) {s t : Shape} (shape : Similar s t) (optional : Bool) :
    SimilarField ⟨key, s, optional⟩ ⟨key, t, optional⟩

end

theorem similarField_iff {f g : Field} :
    SimilarField f g ↔ f.key = g.key ∧ Similar f.shape g.shape ∧ f.optional = g.optional := by
  constructor
  · rintro ⟨key, h, optional⟩
    exact ⟨rfl, h, rfl⟩
  · obtain ⟨key, s, optional⟩ := f
    obtain ⟨_, t, _⟩ := g
    rintro ⟨rfl, h, rfl⟩
    exact .mk key h optional

theorem SimilarField.key_eq (f g : Field) (h : SimilarField f g) : f.key = g.key :=
  (similarField_iff.1 h).1

/-! ### An equivalence -/

theorem Similar.refl (s : Shape) : Similar s s := by
  induction s using Shape.induction with
  | unknown => exact .unknown
  | primitive k => exact .primitive k
  | object fs ih =>
    refine .object (.refl fs) (List.forall₂_same.2 fun f hf => ?_)
    exact similarField_iff.2 ⟨rfl, ih f hf, rfl⟩
  | array e ih => exact .array ih
  | nullable s ih => exact .nullable ih
  | union as ih => exact .union (List.forall₂_same.2 ih)

theorem SimilarField.refl (f : Field) : SimilarField f f :=
  similarField_iff.2 ⟨rfl, .refl f.shape, rfl⟩

theorem Similar.symm {s t : Shape} (h : Similar s t) : Similar t s := by
  induction s using Shape.induction generalizing t with
  | unknown => cases h; exact .unknown
  | primitive k => cases h; exact .primitive k
  | object fs ih =>
    cases h with
    | @object _ hs gs hp hf =>
      have hsymm : ∀ h ∈ hs, ∀ g, SimilarField h g → SimilarField g h := fun h hh g hg => by
        obtain ⟨hkey, hshape, hopt⟩ := similarField_iff.1 hg
        exact similarField_iff.2 ⟨hkey.symm, ih h (hp.mem_iff.2 hh) hshape, hopt.symm⟩
      obtain ⟨_, hp', hf'⟩ := exists_perm_forall₂_of_perm (forall₂_symm_of hf hsymm) hp.symm
      exact .object hp' hf'
  | array e ih => cases h with | array h => exact .array (ih h)
  | nullable s ih => cases h with | nullable h => exact .nullable (ih h)
  | union as ih =>
    cases h with
    | union h => exact .union (forall₂_symm_of h fun a ha _ hab => ih a ha hab)

theorem Similar.trans {s t u : Shape} (hst : Similar s t) (htu : Similar t u) : Similar s u := by
  induction s using Shape.induction generalizing t u with
  | unknown => cases hst; exact htu
  | primitive k => cases hst; exact htu
  | object fs ih =>
    cases hst with
    | @object _ hs gs hp hf =>
      cases htu with
      | @object _ hs' ks hp' hf' =>
        obtain ⟨is, hp'', hf''⟩ := exists_perm_forall₂_of_perm hf hp'
        have hmem : ∀ i ∈ is, i ∈ fs := fun i hi => hp.mem_iff.2 (hp''.mem_iff.2 hi)
        refine .object (hp.trans hp'') (forall₂_trans_of hf'' hf' fun i hi j k hij hjk => ?_)
        obtain ⟨hkey, hshape, hopt⟩ := similarField_iff.1 hij
        obtain ⟨hkey', hshape', hopt'⟩ := similarField_iff.1 hjk
        exact similarField_iff.2
          ⟨hkey.trans hkey', ih i (hmem i hi) hshape hshape', hopt.trans hopt'⟩
  | array e ih =>
    cases hst with
    | array h => cases htu with | array h' => exact .array (ih h h')
  | nullable s ih =>
    cases hst with
    | nullable h => cases htu with | nullable h' => exact .nullable (ih h h')
  | union as ih =>
    cases hst with
    | union h =>
      cases htu with
      | union h' => exact .union (forall₂_trans_of h h' fun a ha _ _ hab hbc => ih a ha hab hbc)

/-! ### What similar shapes have in common -/

section Common

variable {s t : Shape} (h : Similar s t)

include h

theorem Similar.family_eq : s.family = t.family := by
  cases h <;> rfl

theorem Similar.rank_eq : s.rank = t.rank := by
  rw [rank, rank, h.family_eq]

theorem Similar.isNullable_eq : s.isNullable = t.isNullable := by
  cases h <;> rfl

theorem Similar.allowsNull_eq : s.allowsNull = t.allowsNull := by
  cases h <;> rfl

theorem Similar.withoutNull : Similar s.withoutNull t.withoutNull := by
  cases h with
  | nullable h => exact h
  | unknown => exact .unknown
  | primitive k => exact .primitive k
  | object hp hf => exact .object hp hf
  | array h => exact .array h
  | union h => exact .union h

theorem Similar.core (hs : Core s) : Core t where
  known := fun e => hs.known (by subst e; cases h; rfl)
  nonnull := fun e => hs.nonnull (by subst e; cases h; rfl)
  plain := h.isNullable_eq ▸ hs.plain

end Common

theorem Similar.arms {s t : Shape} (h : Similar s t) : Forall₂ Similar s.arms t.arms := by
  induction s using Shape.induction generalizing t with
  | unknown => cases h; exact .nil
  | primitive k => cases h; exact List.forall₂_same.2 fun a _ => .refl a
  | object fs ih => cases h with | object hp hf => exact .cons (.object hp hf) .nil
  | array e ih => cases h with | array h => exact .cons (.array h) .nil
  | nullable s ih =>
    cases h with
    | nullable h =>
      rw [arms_nullable, arms_nullable]
      exact ih h
  | union as ih => cases h with | union h => exact h

theorem ranked_of_similar {as bs : List Shape} (h : Forall₂ Similar as bs) (ha : Ranked as) :
    Ranked bs := by
  constructor
  · intro b hb hfam
    obtain ⟨a, has, hab⟩ := exists_left_of_forall₂ h b hb
    exact ha.hasFamily a has (hab.family_eq.trans hfam)
  · have hranks : as.map rank = bs.map rank := map_eq_of_forall₂ h fun _ _ hab => hab.rank_eq
    have hincreasing : (as.map rank).Pairwise (· < ·) := List.pairwise_map.2 ha.increasing
    rw [hranks] at hincreasing
    exact List.pairwise_map.1 hincreasing

/-- What is similar to a well-formed shape is well formed. -/
theorem Similar.wellFormed {s t : Shape} (h : Similar s t) (hs : WellFormed s) : WellFormed t := by
  induction hs generalizing t with
  | unknown => cases h; exact .unknown
  | primitive k => cases h; exact .primitive k
  | @object fs hd hplain hw ih =>
    cases h with
    | @object _ hs gs hp hf =>
      have hkeys : hs.map Field.key = gs.map Field.key := map_eq_of_forall₂ hf SimilarField.key_eq
      have hleft : ∀ g ∈ gs, ∃ f ∈ fs, Similar f.shape g.shape := fun g hg => by
        obtain ⟨f, hf', hfg⟩ := exists_left_of_forall₂ hf g hg
        exact ⟨f, hp.mem_iff.2 hf', (similarField_iff.1 hfg).2.1⟩
      refine .object (hkeys ▸ (hp.map Field.key).nodup_iff.1 hd) (fun g hg => ?_) fun g hg => ?_
      · obtain ⟨f, hfs, hfg⟩ := hleft g hg
        rw [← hfg.isNullable_eq, hplain f hfs]
      · obtain ⟨f, hfs, hfg⟩ := hleft g hg
        exact ih f hfs hfg
  | array hw ih => cases h with | array h => exact .array (ih h)
  | nullable hc hw ih => cases h with | nullable h => exact .nullable (h.core hc) (ih h)
  | union hl hr hw ih =>
    cases h with
    | union h =>
      refine .union (h.length_eq ▸ hl) (ranked_of_similar h hr) fun b hb => ?_
      obtain ⟨a, ha, hab⟩ := exists_left_of_forall₂ h b hb
      exact ih a ha hab

/-! ### Similar by parts -/

theorem similar_ofParts {as bs : List Shape} (n : Bool) (h : Forall₂ Similar as bs) :
    Similar (ofParts n as) (ofParts n bs) := by
  cases h with
  | nil => exact .refl _
  | cons hab h =>
    cases h with
    | nil =>
      cases n
      · exact hab
      · exact .nullable hab
    | cons hab' h =>
      have hu := Similar.union (.cons hab (.cons hab' h))
      cases n
      · exact hu
      · exact .nullable hu

theorem rel_armOf? {as bs : List Shape} (h : Forall₂ Similar as bs) (f : Family) :
    Option.Rel Similar (armOf? f as) (armOf? f bs) :=
  Keyed.rel_find? (fun _ _ hab => hab.family_eq) h (some f)

/-- A list of arms is made of the arms that the families have in it. -/
theorem Ranked.eq_ofFamilies {as : List Shape} (h : Ranked as) : as = ofFamilies (armOf? · as) := by
  have hfam : ∀ f a, armOf? f as = some a → a.family = some f := fun f a hfa =>
    (mem_of_armOf? hfa).2
  exact h.ext (ranked_ofFamilies hfam) fun f => (armOf?_ofFamilies hfam f).symm

/--
**Well-formed shapes are similar** if both or neither allow null and their arms are similar family
by family.
-/
theorem WellFormed.similar {s t : Shape} (hs : WellFormed s) (ht : WellFormed t)
    (hnull : s.allowsNull = t.allowsNull) (harms : ∀ f, Option.Rel Similar (s.arm? f) (t.arm? f)) :
    Similar s t := by
  have hlists : Forall₂ Similar s.arms t.arms := by
    rw [hs.ranked.eq_ofFamilies, ht.ranked.eq_ofFamilies]
    exact List.rel_filterMap (R := Eq) (fun f _ hfg => hfg ▸ harms f) (List.forall₂_refl _)
  rw [← hs.ofParts_arms, ← ht.ofParts_arms, hnull]
  exact similar_ofParts _ hlists

/-- **Objects are similar** if the fields under each key are. -/
theorem similar_object_iff {fs gs : List Field} (hf : (fs.map Field.key).Nodup)
    (hg : (gs.map Field.key).Nodup) :
    Similar (.object fs) (.object gs)
      ↔ ∀ k, Option.Rel SimilarField (find? Field.key k fs) (find? Field.key k gs) := by
  constructor
  · intro h k
    cases h with
    | object hp hfields =>
      rw [Keyed.find?_perm hf hp]
      exact Keyed.rel_find? SimilarField.key_eq hfields k
  · intro h
    obtain ⟨_, hp, hfields⟩ := Keyed.exists_perm_forall₂ hf hg h
    exact .object hp hfields

end Shape

end SampleTypes
