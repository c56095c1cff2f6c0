import SampleTypes.Proofs.Shape.Acceptance

/-!
# Inference is sound

No sample is ever lost: what one of two shapes accepts, their unification accepts.  A single value
is accepted by its own shape, so after any run of observations the shape accepts all values
observed, and it goes on to do so whatever is observed later.
-/

namespace SampleTypes

open Json (Value Number)

namespace Shape

open Keyed (find?)

/-! ### Unification -/

theorem fieldAccepts_lax {f : Field} {v? : Option Value} :
    fieldAccepts f.lax v? ↔ fieldAccepts f v? ∨ v? = none ∨ v? = some .null := by
  cases v? with
  | none => simp [fieldAccepts_none]
  | some v => cases v <;> simp [fieldAccepts_some, Value.isNull]

/-- Folding the mark for null into the field keeps what is accepted. -/
theorem fieldAccepts_foldNull {f : Field} {v : Value} (h : accepts f.shape v) :
    fieldAccepts (foldNull f) (some v) := by
  rw [accepts_withoutNull] at h
  rw [foldNull_eq, fieldAccepts_some]
  exact h.imp_right fun h => ⟨by rw [h.1, Bool.true_or], h.2⟩

/-- What one of two fields accepts, the joined field accepts. -/
theorem fieldAccepts_joinFields {f g : Field} {v? : Option Value}
    (hu : ∀ v, accepts f.shape v ∨ accepts g.shape v → accepts (unify f.shape g.shape) v)
    (h : fieldAccepts f v? ∨ fieldAccepts g v?) : fieldAccepts (joinFields f g) v? := by
  cases v? with
  | none =>
    rw [fieldAccepts_none, fieldAccepts_none] at h
    rw [fieldAccepts_none, optional_joinFields]
    rcases h with h | h <;> simp [h]
  | some v =>
    rw [fieldAccepts_some, fieldAccepts_some] at h
    rcases h with (h | ⟨ho, hn⟩) | h | ⟨ho, hn⟩
    · exact fieldAccepts_foldNull (hu v (.inl h))
    · exact fieldAccepts_some.2 (.inr ⟨by simp [ho], hn⟩)
    · exact fieldAccepts_foldNull (hu v (.inr h))
    · exact fieldAccepts_some.2 (.inr ⟨by simp [ho], hn⟩)

theorem acceptsAt_joinField? {x y : Option Field} {v? : Option Value}
    (hu : ∀ f ∈ x, ∀ g ∈ y, ∀ v, accepts f.shape v ∨ accepts g.shape v →
      accepts (unify f.shape g.shape) v)
    (h : acceptsAt x v? ∨ acceptsAt y v?) : acceptsAt (joinField? x y) v? := by
  cases x with
  | none =>
    cases y with
    | none => exact h.elim id id
    | some g =>
      refine fieldAccepts_lax.2 (h.elim (fun h => .inr (.inl ?_)) .inl)
      exact Option.isNone_iff_eq_none.1 h
  | some f =>
    cases y with
    | none =>
      refine fieldAccepts_lax.2 (h.elim .inl fun h => .inr (.inl ?_))
      exact Option.isNone_iff_eq_none.1 h
    | some g => exact fieldAccepts_joinFields (hu f rfl g rfl) h

/-- What one of two objects accepts, the merged object accepts. -/
theorem accepts_mergeFields {fs gs : List Field} (hf : (fs.map Field.key).Nodup)
    (hg : (gs.map Field.key).Nodup) {v : Value}
    (hu : ∀ f ∈ fs, ∀ g ∈ gs, ∀ v, accepts f.shape v ∨ accepts g.shape v →
      accepts (unify f.shape g.shape) v)
    (h : accepts (.object fs) v ∨ accepts (.object gs) v) :
    accepts (.object (mergeFields fs gs)) v := by
  cases v with
  | object ms =>
    rw [accepts_object_iff hf, accepts_object_iff hg] at h
    rw [accepts_object_iff (nodup_keys_mergeFields hf hg)]
    intro k
    rw [find?_mergeFields hf hg]
    refine acceptsAt_joinField? (fun f hkf g hkg => ?_) (h.imp (· k) (· k))
    exact hu f (Keyed.mem_of_find? hkf).1 g (Keyed.mem_of_find? hkg).1
  | _ => simp [accepts] at h

theorem accepts_unify_primitive {k l : Primitive} (hk : k ≠ .null) (hl : l ≠ .null)
    (hw : (k.widen? l).isSome) {v : Value}
    (h : accepts (.primitive k) v ∨ accepts (.primitive l) v) :
    accepts (unify (.primitive k) (.primitive l)) v := by
  rw [accepts, accepts] at h
  rw [unify_primitive hk hl hw, accepts]
  by_cases hkl : k = l
  · subst hkl
    simpa [Primitive.widen?] using h
  · -- the kinds are an integer and a float, and the wider one accepts all numbers
    cases k <;> cases l <;> first | exact absurd rfl hkl | (cases hw; done) | skip
    all_goals cases v <;> simp_all [Primitive.widen?, Primitive.accepts]

theorem accepts_unify_array {d e : Shape} {v : Value}
    (hu : ∀ v, accepts d v ∨ accepts e v → accepts (unify d e) v)
    (h : accepts (.array d) v ∨ accepts (.array e) v) :
    accepts (unify (.array d) (.array e)) v := by
  cases v with
  | array vs =>
    simp only [accepts, List.all_eq_true] at h
    rw [unify_array, accepts, List.all_eq_true]
    exact fun w hw => hu w (h.imp (· w hw) (· w hw))
  | _ => simp [accepts] at h

/-- **Unification loses no value.** -/
theorem accepts_unify {a b : Shape} (ha : WellFormed a) (hb : WellFormed b) {v : Value}
    (h : accepts a v ∨ accepts b v) : accepts (unify a b) v := by
  refine WellFormed.induction (P := fun a => ∀ b, WellFormed b → ∀ v, accepts a v ∨ accepts b v →
    accepts (unify a b) v) (fun a ha harray hobject b hb v h => ?_) a ha b hb v h
  cases hv : v.family with
  | none =>
    obtain rfl := Value.family_eq_none_iff.1 hv
    rw [ha.accepts_null, hb.accepts_null] at h
    rwa [(ha.unify hb).accepts_null, allowsNull_unify ha hb, Bool.or_eq_true]
  | some f =>
    rw [ha.accepts_iff_arm? hv, hb.accepts_iff_arm? hv] at h
    rw [(ha.unify hb).accepts_iff_arm? hv, arm?_unify ha hb]
    cases hx : a.arm? f with
    | none => simpa [hx] using h
    | some x =>
      cases hy : b.arm? f with
      | none => simpa [hx, hy] using h
      | some y =>
        simp only [hx, hy, Option.some.injEq, exists_eq_left'] at h
        rw [Option.merge_some_some]
        refine ⟨_, rfl, ?_⟩
        obtain ⟨hxa, hfx⟩ := mem_of_armOf? hx
        obtain ⟨hyb, hfy⟩ := mem_of_armOf? hy
        have hwy := hb.of_mem_arms hyb
        cases alike_of_family hfx hfy with
        | array d e =>
          exact accepts_unify_array (harray d hxa e (wellFormed_array_iff.1 hwy)) h
        | object fs gs =>
          rw [unify_object]
          refine accepts_mergeFields (ha.of_mem_arms hxa).fields.1 hwy.fields.1
            (fun f hf g hg v hv => ?_) h
          exact hobject fs hxa f hf _ (hwy.fields.2 g hg).wellFormed v hv
        | primitive hk hl hw => exact accepts_unify_primitive hk hl hw h

/-! ### Observations -/

section Observations

variable {inference : Inference} (hw : WellFormed inference.shape)

include hw

theorem wellFormed_observe {v : Value} (h : v.DistinctKeys) :
    WellFormed (inference.observe v).shape :=
  hw.unify (wellFormed_ofValue h)

/-- One more observation takes no value away. -/
theorem accepts_observe {v w : Value} (h : v.DistinctKeys) (hacc : accepts inference.shape w) :
    accepts (inference.observe v).shape w :=
  accepts_unify hw (wellFormed_ofValue h) (.inl hacc)

/-- Nor does any run of observations. -/
theorem accepts_foldl_observe {vs : List Value} (h : ∀ v ∈ vs, v.DistinctKeys) {w : Value}
    (hacc : accepts inference.shape w) :
    accepts (vs.foldl Inference.observe inference).shape w := by
  induction vs generalizing inference with
  | nil => exact hacc
  | cons v vs ih =>
    rw [List.forall_mem_cons] at h
    exact ih (wellFormed_observe hw h.1) h.2 (accepts_observe hw h.1 hacc)

/-- What is observed is accepted from then on. -/
theorem accepts_foldl_observe_of_mem {vs : List Value} (h : ∀ v ∈ vs, v.DistinctKeys)
    (hself : ∀ v ∈ vs, accepts (ofValue v) v) :
    ∀ v ∈ vs, accepts (vs.foldl Inference.observe inference).shape v := by
  induction vs generalizing inference with
  | nil => simp
  | cons w vs ih =>
    rw [List.forall_mem_cons] at h hself
    have hw' := wellFormed_observe hw h.1
    refine List.forall_mem_cons.2 ⟨accepts_foldl_observe hw' h.2 ?_, ih hw' h.2 hself.2⟩
    exact accepts_unify hw (wellFormed_ofValue h.1) (.inr hself.1)

end Observations

/-- **A value is accepted by its own shape.** -/
theorem accepts_ofValue {v : Value} (h : v.DistinctKeys) : accepts (ofValue v) v := by
  induction h with
  | null | bool | string => rw [ofValue]; rfl
  | number n => cases n <;> rfl
  | array hes ih =>
    rw [ofValue_array, accepts, List.all_eq_true]
    exact accepts_foldl_observe_of_mem .unknown hes ih
  | @object ms hd _ ih =>
    rw [ofValue, accepts_object_iff (by rwa [keys_ofMembers])]
    intro k
    rw [find?_ofMembers]
    cases hk : Json.member? k ms with
    | none => rfl
    | some v => exact fieldAccepts_some.2 (.inl (ih _ (Json.mem_of_member? hk)))

/--
**Inference is sound and never forgets.** What one of two well-formed shapes accepts, they accept
together; after any run of observations the shape accepts each value observed; and a value once
accepted stays so through all further observations.
-/
theorem accepts_unify_and_accepts_observed :
    (∀ a b : Shape, a.WellFormed → b.WellFormed → ∀ v : Value, accepts a v ∨ accepts b v →
        accepts (unify a b) v) ∧
      (∀ vs : List Value, (∀ v ∈ vs, v.DistinctKeys) → ∀ v ∈ vs,
        accepts (vs.foldl Inference.observe {}).shape v) ∧
      ∀ vs ws : List Value, (∀ v ∈ vs ++ ws, v.DistinctKeys) → ∀ w : Value,
        accepts (vs.foldl Inference.observe {}).shape w →
          accepts ((vs ++ ws).foldl Inference.observe {}).shape w := by
  refine ⟨fun a b ha hb v => accepts_unify ha hb, fun vs h => ?_, fun vs ws h w hacc => ?_⟩
  · exact accepts_foldl_observe_of_mem .unknown h fun v hv => accepts_ofValue (h v hv)
  · rw [List.forall_mem_append] at h
    rw [List.foldl_append]
    exact accepts_foldl_observe (wellFormed_ofSamples h.1) h.2 hacc

/-- An object outlives the observation of null, of a string and of an object with another key. -/
theorem accepts_observed_among_others :
    accepts (unify (.object [⟨"k", .primitive .integer, false⟩])
        (.nullable (.union [.object [⟨"n", .primitive .bool, false⟩], .primitive .string])))
        (.object [("k", .number (.integer 1))]) ∧
      accepts (List.foldl Inference.observe {} [.object [("k", .number (.integer 1))], .null,
          .string "x", .object [("n", .bool true), ("k", .null)]]).shape
        (.object [("k", .number (.integer 1))]) ∧
      accepts (List.foldl Inference.observe {} ([.object [("k", .number (.integer 1))]] ++
          [.null, .string "x", .object [("n", .bool true), ("k", .null)]])).shape
        (.object [("k", .number (.integer 2))]) := by
  have hshape : (List.foldl Inference.observe {} [.object [("k", .number (.integer 1))]]).shape
      = .object [⟨"k", .primitive .integer, false⟩] := by
    cbv
  refine ⟨?_, ?_, ?_⟩
  · exact accepts_unify_and_accepts_observed.1 _ _ (by decide) (by decide) _ (.inl (by decide))
  · exact accepts_unify_and_accepts_observed.2.1 _ (by decide) _ (by simp)
  · exact accepts_unify_and_accepts_observed.2.2 _ _ (by decide) _ (by rw [hshape]; decide)

end Shape

end SampleTypes
