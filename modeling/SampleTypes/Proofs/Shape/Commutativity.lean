import SampleTypes.Proofs.Shape.Samples
import SampleTypes.Proofs.Shape.Similarity

/-!
# Unification is commutative up to the order of fields

`unify` keeps the fields of its left operand in front, so `unify a b` and `unify b a` are not equal
but similar.  `similar_unify_swap` says so together with the congruence laws: similar operands may
take each other's place and their own.  It follows that the order of the samples shows in the order
of fields and nowhere else.
-/

namespace SampleTypes

open Json (Value)

namespace Shape

open Keyed (find?)

/-! ### Fields -/

theorem SimilarField.lax {f g : Field} (h : SimilarField f g) : SimilarField f.lax g.lax := by
  obtain ⟨hkey, hshape, -⟩ := similarField_iff.1 h
  exact similarField_iff.2 ⟨hkey, hshape, rfl⟩

/-- Joined fields are similar if the unified shapes are. -/
theorem similarField_joinFields {f f' g g' : Field} (hf : SimilarField f f')
    (hg : SimilarField g g') (hkey : f.key = g.key)
    (hu : Similar (unify f.shape g.shape) (unify g'.shape f'.shape)) :
    SimilarField (joinFields f g) (joinFields g' f') := by
  obtain ⟨-, -, hfo⟩ := similarField_iff.1 hf
  obtain ⟨hgk, -, hgo⟩ := similarField_iff.1 hg
  refine similarField_iff.2 ⟨?_, ?_, ?_⟩
  · rw [key_joinFields, key_joinFields, hkey, hgk]
  · rw [shape_joinFields, shape_joinFields]
    exact hu.withoutNull
  · rw [optional_joinFields, optional_joinFields, hu.isNullable_eq, hfo, hgo,
      Bool.or_comm f'.optional]

/-- What two objects have together under a key, in either order. -/
theorem rel_joinField? {x x' y y' : Option Field} (hx : Option.Rel SimilarField x x')
    (hy : Option.Rel SimilarField y y') (hkey : ∀ f ∈ x, ∀ g ∈ y, f.key = g.key)
    (hu : ∀ f ∈ x, ∀ f' ∈ x', ∀ g ∈ y, ∀ g' ∈ y', SimilarField f f' → SimilarField g g' →
      Similar (unify f.shape g.shape) (unify g'.shape f'.shape)) :
    Option.Rel SimilarField (joinField? x y) (joinField? y' x') := by
  cases hx with
  | none =>
    cases hy with
    | none => exact .none
    | some hg => exact .some hg.lax
  | some hf =>
    cases hy with
    | none => exact .some hf.lax
    | some hg =>
      have hshapes := hu _ rfl _ rfl _ rfl _ rfl hf hg
      exact .some (similarField_joinFields hf hg (hkey _ rfl _ rfl) hshapes)

/-- Objects merge to similar objects in either order. -/
theorem similar_mergeFields {fs fs' gs gs' : List Field} (hf : (fs.map Field.key).Nodup)
    (hf' : (fs'.map Field.key).Nodup) (hg : (gs.map Field.key).Nodup)
    (hg' : (gs'.map Field.key).Nodup) (hfs : Similar (.object fs) (.object fs'))
    (hgs : Similar (.object gs) (.object gs'))
    (hu : ∀ f ∈ fs, ∀ f' ∈ fs', ∀ g ∈ gs, ∀ g' ∈ gs', Similar f.shape f'.shape →
      Similar g.shape g'.shape → Similar (unify f.shape g.shape) (unify g'.shape f'.shape)) :
    Similar (.object (mergeFields fs gs)) (.object (mergeFields gs' fs')) := by
  rw [similar_object_iff hf hf'] at hfs
  rw [similar_object_iff hg hg'] at hgs
  rw [similar_object_iff (nodup_keys_mergeFields hf hg) (nodup_keys_mergeFields hg' hf')]
  intro k
  rw [find?_mergeFields hf hg, find?_mergeFields hg' hf']
  refine rel_joinField? (hfs k) (hgs k) (fun f hkf g hkg => ?_)
    fun f hkf f' hkf' g hkg g' hkg' hff hgg => ?_
  · exact (Keyed.mem_of_find? hkf).2.trans (Keyed.mem_of_find? hkg).2.symm
  · exact hu f (Keyed.mem_of_find? hkf).1 f' (Keyed.mem_of_find? hkf').1 g
      (Keyed.mem_of_find? hkg).1 g' (Keyed.mem_of_find? hkg').1 (similarField_iff.1 hff).2.1
      (similarField_iff.1 hgg).2.1

/-! ### Shapes -/

theorem unify_primitive_comm {k l : Primitive} (hk : k ≠ .null) (hl : l ≠ .null)
    (hw : (k.widen? l).isSome) :
    unify (.primitive k) (.primitive l) = unify (.primitive l) (.primitive k) := by
  have hcomm : l.widen? k = k.widen? l := by
    cases k <;> cases l <;> rfl
  rw [unify_primitive hk hl hw, unify_primitive hl hk (hcomm ▸ hw), hcomm]
  obtain ⟨m, hm⟩ := Option.isSome_iff_exists.1 hw
  rw [hm, Option.getD_some, Option.getD_some]

/-- The arms that two shapes have together in a family, in either order. -/
theorem rel_merge {x x' y y' : Option Shape} (hx : Option.Rel Similar x x')
    (hy : Option.Rel Similar y y')
    (hu : ∀ a ∈ x, ∀ a' ∈ x', ∀ b ∈ y, ∀ b' ∈ y', Similar a a' → Similar b b' →
      Similar (unify a b) (unify b' a')) :
    Option.Rel Similar (Option.merge unify x y) (Option.merge unify y' x') := by
  cases hx with
  | none =>
    cases hy with
    | none => exact .none
    | some hb => exact .some hb
  | some ha =>
    cases hy with
    | none => exact .some ha
    | some hb => exact .some (hu _ rfl _ rfl _ rfl _ rfl ha hb)

/-- **Unification of similar shapes**, in either order, gives similar shapes. -/
theorem similar_unify_swap {a a' b b' : Shape} (ha : WellFormed a) (hb : WellFormed b)
    (haa : Similar a a') (hbb : Similar b b') : Similar (unify a b) (unify b' a') := by
  refine WellFormed.induction (P := fun a => ∀ a' b b', WellFormed b → Similar a a' →
    Similar b b' → Similar (unify a b) (unify b' a'))
    (fun a ha harray hobject a' b b' hb haa hbb => ?_) a ha a' b b' hb haa hbb
  have ha' := haa.wellFormed ha
  have hb' := hbb.wellFormed hb
  refine (ha.unify hb).similar (hb'.unify ha') ?_ fun f => ?_
  · rw [allowsNull_unify ha hb, allowsNull_unify hb' ha', haa.allowsNull_eq, hbb.allowsNull_eq,
      Bool.or_comm]
  · rw [arm?_unify ha hb, arm?_unify hb' ha']
    refine rel_merge (rel_armOf? haa.arms f) (rel_armOf? hbb.arms f)
      fun x hx x' hx' y hy y' hy' hxx hyy => ?_
    obtain ⟨hxa, hfx⟩ := mem_of_armOf? hx
    obtain ⟨hyb, hfy⟩ := mem_of_armOf? hy
    have hwx := ha.of_mem_arms hxa
    have hwy := hb.of_mem_arms hyb
    -- the arms of one family have one constructor, and similar arms share it
    cases alike_of_family hfx hfy with
    | array d e =>
      cases hxx with
      | array hd =>
        cases hyy with
        | array he =>
          rw [unify_array, unify_array]
          exact .array (harray d hxa _ e _ (wellFormed_array_iff.1 hwy) hd he)
    | object fs gs =>
      have hwx' := hxx.wellFormed hwx
      have hwy' := hyy.wellFormed hwy
      cases hxx with
      | object hpf hff =>
        cases hyy with
        | object hpg hgg =>
          rw [unify_object, unify_object]
          refine similar_mergeFields hwx.fields.1 hwx'.fields.1 hwy.fields.1 hwy'.fields.1
            (.object hpf hff) (.object hpg hgg) fun f hf f' _ g hg g' _ hfs hgs => ?_
          exact hobject fs hxa f hf _ _ _ (hwy.fields.2 g hg).wellFormed hfs hgs
    | primitive hk hl hw =>
      cases hxx
      cases hyy
      rw [unify_primitive_comm hk hl hw]
      exact .refl _

section Laws

variable {a b : Shape} (ha : WellFormed a) (hb : WellFormed b)

include ha hb

theorem similar_unify_comm : Similar (unify a b) (unify b a) :=
  similar_unify_swap ha hb (.refl a) (.refl b)

/-- Similar operands give similar results. -/
theorem similar_unify {a' b' : Shape} (haa : Similar a a') (hbb : Similar b b') :
    Similar (unify a b) (unify a' b') :=
  (similar_unify_swap ha hb haa hbb).trans
    (similar_unify_comm (hbb.wellFormed hb) (haa.wellFormed ha))

end Laws

/-! ### Samples -/

/-- Samples in another order have a similar shape. -/
theorem similar_ofSamples_of_perm {vs ws : List Value} (hp : vs.Perm ws)
    (h : ∀ v ∈ vs, v.DistinctKeys) : Similar (ofSamples vs) (ofSamples ws) := by
  induction hp with
  | nil => exact .refl _
  | @cons v vs ws hp ih =>
    have hws : ∀ w ∈ v :: ws, w.DistinctKeys := fun w hw => h w ((hp.cons v).mem_iff.2 hw)
    rw [ofSamples_cons h, ofSamples_cons hws]
    rw [List.forall_mem_cons] at h
    exact similar_unify (wellFormed_ofValue h.1) (wellFormed_ofSamples h.2) (.refl _) (ih h.2)
  | swap v w vs =>
    have hwv : ∀ u ∈ v :: w :: vs, u.DistinctKeys := fun u hu =>
      h u ((List.Perm.swap w v vs).mem_iff.1 hu)
    rw [ofSamples_cons h, ofSamples_cons (List.forall_mem_cons.1 h).2, ofSamples_cons hwv,
      ofSamples_cons (List.forall_mem_cons.1 hwv).2]
    simp only [List.forall_mem_cons] at h
    obtain ⟨hw, hv, hvs⟩ := h
    have hw := wellFormed_ofValue hw
    have hv := wellFormed_ofValue hv
    have hvs := wellFormed_ofSamples hvs
    rw [← unify_assoc hw hv hvs, ← unify_assoc hv hw hvs]
    exact similar_unify (hw.unify hv) hvs (similar_unify_comm hw hv) (.refl _)
  | trans hp _ ih ih' => exact (ih h).trans (ih' fun w hw => h w (hp.mem_iff.2 hw))

/--
**The order of the samples only orders fields.** Unification is commutative up to the order of
fields, takes similar operands to similar results, and gives the samples of any list in any order
similar shapes.
-/
theorem similar_unify_and_similar_ofSamples :
    (∀ a b : Shape, a.WellFormed → b.WellFormed → Similar (unify a b) (unify b a)) ∧
      (∀ a a' b b' : Shape, a.WellFormed → b.WellFormed → Similar a a' → Similar b b' →
        Similar (unify a b) (unify a' b')) ∧
      ∀ vs ws : List Value, (∀ v ∈ vs, v.DistinctKeys) → vs.Perm ws →
        Similar (vs.foldl Inference.observe {}).shape (ws.foldl Inference.observe {}).shape :=
  ⟨fun _ _ ha hb => similar_unify_comm ha hb,
    fun _ _ _ _ ha hb haa hbb => similar_unify ha hb haa hbb,
    fun _ _ h hp => similar_ofSamples_of_perm hp h⟩

set_option maxRecDepth 4000 in
/-- Fields that change places, beside a mark for null and another arm; and samples in two orders. -/
theorem similar_unify_of_swapped_fields :
    Similar
        (unify (.object [⟨"k", .primitive .integer, false⟩, ⟨"n", .array .unknown, true⟩])
          (.nullable (.union [.object [⟨"n", .null, false⟩, ⟨"m", .unknown, false⟩],
            .primitive .string])))
        (unify (.nullable (.union [.object [⟨"n", .null, false⟩, ⟨"m", .unknown, false⟩],
            .primitive .string]))
          (.object [⟨"k", .primitive .integer, false⟩, ⟨"n", .array .unknown, true⟩])) ∧
      Similar
        (unify (.object [⟨"k", .primitive .integer, false⟩, ⟨"n", .array .unknown, true⟩])
          (.array .null))
        (unify (.object [⟨"n", .array .unknown, true⟩, ⟨"k", .primitive .integer, false⟩])
          (.array .null)) ∧
      Similar
        (List.foldl Inference.observe {} [.object [("k", .bool true), ("n", .null)], .null,
          .object [("m", .string "x"), ("k", .null)]]).shape
        (List.foldl Inference.observe {} [.null, .object [("m", .string "x"), ("k", .null)],
          .object [("k", .bool true), ("n", .null)]]).shape ∧
      (List.foldl Inference.observe {} [.object [("k", .bool true), ("n", .null)], .null,
          .object [("m", .string "x"), ("k", .null)]]).shape
        = .nullable (.object [⟨"k", .primitive .bool, true⟩, ⟨"n", .null, true⟩,
            ⟨"m", .primitive .string, true⟩]) ∧
      (List.foldl Inference.observe {} [.null, .object [("m", .string "x"), ("k", .null)],
          .object [("k", .bool true), ("n", .null)]]).shape
        = .nullable (.object [⟨"m", .primitive .string, true⟩, ⟨"k", .primitive .bool, true⟩,
            ⟨"n", .null, true⟩]) := by
  refine ⟨?_, ?_, ?_, by cbv, by cbv⟩
  · exact similar_unify_and_similar_ofSamples.1 _ _ (by decide) (by decide)
  · refine similar_unify_and_similar_ofSamples.2.1 _ _ _ _ (by decide) (by decide) ?_ (.refl _)
    exact .object (.swap _ _ _) (List.forall₂_same.2 fun f _ => .refl f)
  · refine similar_unify_and_similar_ofSamples.2.2 _ _ (by decide) ?_
    exact (List.Perm.swap _ _ _).trans ((List.Perm.swap _ _ _).cons _)

end Shape

end SampleTypes
