import SampleTypes.Proofs.Shape.Batch
import SampleTypes.Proofs.Shape.Soundness

/-!
# The inferred shape is the least one

A well-formed shape that accepts all samples accepts every value of the inferred shape.  The
samples are taken all at once, as in `batch`: each arm, field and mark of the inferred shape has
samples that ask for it, and a shape that accepts those samples must have it as well.

The one point where this is not plain is the mark of an optional field.  It has two reasons, a
missing key or null next to other values, and in the second case the bound is forced to have the
same mark because the shape of its field carries no mark for null (`optional_of_mixed`).
-/

namespace SampleTypes

open Json (Value Number)

namespace Shape

open Batch
open Keyed (find?)

/-- Unifying with null adds null and nothing else. -/
theorem accepts_unify_null {s : Shape} (h : WellFormed s) {v : Value} :
    accepts (unify s .null) v ↔ accepts s v ∨ v.isNull := by
  have hn : WellFormed .null := .primitive .null
  cases hv : v.family with
  | none =>
    obtain rfl := Value.family_eq_none_iff.1 hv
    rw [(h.unify hn).accepts_null, allowsNull_unify h hn]
    simp [Value.isNull]
  | some f =>
    have hnull := Value.isNull_of_family hv
    rw [(h.unify hn).accepts_iff_arm? hv, arm?_unify h hn, h.accepts_iff_arm? hv, hnull]
    simp [arm?]

section Bound

/-! ### The arms of a bound -/

variable {vs : List Value} {bound : Shape} (hb : WellFormed bound)

include hb in
/-- A bound has the arm of each family of samples, and the arm accepts them all. -/
theorem exists_arm_of_samples (hacc : ∀ v ∈ vs, accepts bound v) {f : Family}
    (hex : ∃ v ∈ vs, v.family = some f) :
    ∃ a, bound.arm? f = some a ∧ ∀ v ∈ vs, v.family = some f → accepts a v := by
  obtain ⟨v, hv, hf⟩ := hex
  obtain ⟨a, ha, -⟩ := (hb.accepts_iff_arm? hf).1 (hacc v hv)
  refine ⟨a, ha, fun w hw hfw => ?_⟩
  obtain ⟨b, hb', hbw⟩ := (hb.accepts_iff_arm? hfw).1 (hacc w hw)
  rw [ha, Option.some.injEq] at hb'
  exact hb' ▸ hbw

/-- Each arm of the inferred shape comes from a sample. -/
theorem exists_sample_of_arm? (h : ∀ v ∈ vs, v.DistinctKeys) {f : Family} {a : Shape}
    (ha : (ofSamples vs).arm? f = some a) : ∃ v ∈ vs, v.family = some f := by
  induction vs generalizing a with
  | nil => cases ha
  | cons v vs ih =>
    by_cases hv : v.family = some f
    · exact ⟨v, by simp, hv⟩
    · rw [arm?_ofSamples_cons h, arm?_ofValue, if_neg hv, Option.merge_none_left] at ha
      obtain ⟨w, hw, hf⟩ := ih (List.forall_mem_cons.1 h).2 ha
      exact ⟨w, List.mem_cons_of_mem _ hw, hf⟩

end Bound

/-! ### The fields of a bound -/

section Fields

variable {key : String} {os : List (List (String × Value))} {g : Field} (hg : PlainField g)
  (hacc : ∀ ms ∈ os, fieldAccepts g (Json.member? key ms))

include hacc in
theorem fieldAccepts_valuesAt {v : Value} (hv : v ∈ valuesAt key os) :
    fieldAccepts g (some v) := by
  obtain ⟨ms, hms, hmem⟩ := List.mem_filterMap.1 hv
  exact hmem ▸ hacc ms hms

include hg in
/-- A field without a mark that accepts null and another value is optional. -/
theorem optional_of_mixed {vs : List Value} (hmixed : mixed vs)
    (hvs : ∀ v ∈ vs, fieldAccepts g (some v)) : g.optional := by
  rw [mixed, Bool.and_eq_true, List.any_eq_true, List.any_eq_true] at hmixed
  obtain ⟨⟨v, hv, hnull⟩, w, hw, hother⟩ := hmixed
  obtain rfl := Value.isNull_iff.1 hnull
  rw [Bool.not_eq_true'] at hother
  rcases fieldAccepts_some.1 (hvs _ hv) with hn | ho
  · rcases fieldAccepts_some.1 (hvs w hw) with hs | ho
    · -- the shape would accept null beside another value
      obtain ⟨a, ha, -⟩ := (accepts_iff_exists_arm hother).1 hs
      have hmark := hg.wellFormed.isNullable_eq
      rw [hg.plain, ← hg.wellFormed.accepts_null, hn] at hmark
      simp [List.ne_nil_of_mem ha] at hmark
    · exact ho.1
  · exact ho.1

include hg hacc in
theorem optional_of_isOptional (ho : isOptional key os) : g.optional := by
  rw [isOptional, Bool.or_eq_true, List.any_eq_true] at ho
  rcases ho with ⟨ms, hms, hnone⟩ | hmixed
  · have hlack := hacc ms hms
    rwa [Option.isNone_iff_eq_none.1 hnone, fieldAccepts_none] at hlack
  · exact optional_of_mixed hg hmixed fun v => fieldAccepts_valuesAt hacc

include hg hacc in
/-- A field that accepts what all objects have under its key accepts what their joint field does,
if the same is known of the values under the key. -/
theorem fieldAccepts_of_fieldsOf
    (hleast : ∀ bound, WellFormed bound → (∀ v ∈ valuesAt key os, accepts bound v) →
      ∀ v, accepts (ofSamples (valuesAt key os)) v → accepts bound v) {v? : Option Value}
    (h : fieldAccepts (fieldOf key os) v?) : fieldAccepts g v? := by
  cases v? with
  | none =>
    rw [fieldAccepts_none] at h ⊢
    exact optional_of_isOptional hg hacc h
  | some v =>
    rw [fieldAccepts_some] at h ⊢
    rcases h with hv | ⟨ho, hnull⟩
    · replace hv := accepts_withoutNull.2 (.inl hv)
      have hvalues := fun w hw => fieldAccepts_some.1 (fieldAccepts_valuesAt hacc (v := w) hw)
      by_cases hopt : g.optional
      · -- an optional field accepts what its shape and null accept together
        have hn : WellFormed (unify g.shape .null) := hg.wellFormed.unify (.primitive .null)
        have hboth := hleast _ hn (fun w hw => (accepts_unify_null hg.wellFormed).2
          ((hvalues w hw).imp_right And.right)) v hv
        exact ((accepts_unify_null hg.wellFormed).1 hboth).imp_right fun hnull => ⟨hopt, hnull⟩
      · refine .inl (hleast _ hg.wellFormed (fun w hw => ?_) v hv)
        exact (hvalues w hw).resolve_right fun hw => hopt hw.1
    · exact .inr ⟨optional_of_isOptional hg hacc ho, hnull⟩

end Fields

/-- An array that accepts all of some arrays accepts what the shape of all their elements does. -/
theorem accepts_array_of_flatten {ess : List (List Value)} {d e : Shape}
    (hacc : ∀ es ∈ ess, accepts (.array e) (.array es))
    (hleast : (∀ v ∈ ess.flatten, accepts e v) → ∀ v, accepts d v → accepts e v) {v : Value}
    (h : accepts (.array d) v) : accepts (.array e) v := by
  simp only [accepts, List.all_eq_true] at hacc
  have helements : ∀ v ∈ ess.flatten, accepts e v := fun v hv => by
    obtain ⟨es, hes, hmem⟩ := List.mem_flatten.1 hv
    exact hacc es hes v hmem
  cases v with
  | array vs =>
    rw [accepts, List.all_eq_true] at h ⊢
    exact fun v hv => hleast helements v (h v hv)
  | _ => simp [accepts] at h

/-- An object that accepts all of some objects accepts what their joint fields accept. -/
theorem accepts_object_of_fieldsOf {os : List (List (String × Value))} (hne : os ≠ [])
    {gs : List Field} (hg : WellFormed (.object gs))
    (hacc : ∀ ms ∈ os, accepts (.object gs) (.object ms))
    (hleast : ∀ key bound, WellFormed bound → (∀ v ∈ valuesAt key os, accepts bound v) →
      ∀ v, accepts (ofSamples (valuesAt key os)) v → accepts bound v) {v : Value}
    (h : accepts (.object (fieldsOf os)) v) : accepts (.object gs) v := by
  cases v with
  | object ms =>
    rw [accepts_object_iff (nodup_keys_fieldsOf os)] at h
    rw [accepts_object_iff hg.fields.1]
    intro k
    have hk := h k
    have hsamples := fun ms hms => (accepts_object_iff hg.fields.1).1 (hacc ms hms) k
    rw [find?_fieldsOf] at hk
    by_cases hmem : k ∈ keys os
    · rw [if_pos hmem] at hk
      cases hgk : find? Field.key k gs with
      | none =>
        -- some object has the key, and `gs` accepts it
        obtain ⟨ms', hms', hkey⟩ := mem_keys.1 hmem
        have hnone := hsamples ms' hms'
        rw [hgk, acceptsAt, Option.isNone_iff_eq_none, Json.member?_eq_none_iff] at hnone
        exact absurd hkey hnone
      | some g =>
        have hgmem := (Keyed.mem_of_find? hgk).1
        simp only [hgk] at hsamples
        exact fieldAccepts_of_fieldsOf (hg.fields.2 g hgmem) hsamples (hleast k) hk
    · -- no object has the key, so each of them shows that it may be missing
      obtain ⟨ms', hms'⟩ := List.exists_mem_of_ne_nil os hne
      have hlack : Json.member? k ms' = none :=
        Json.member?_eq_none_iff.2 fun hkey => hmem (mem_keys.2 ⟨ms', hms', hkey⟩)
      rw [if_neg hmem, acceptsAt, Option.isNone_iff_eq_none] at hk
      rw [hk, ← hlack]
      exact hsamples ms' hms'
  | _ => simp [accepts] at h

/-- A kind that accepts all numbers among the samples accepts what their arm accepts. -/
theorem accepts_of_numberArm? {vs : List Value} {a b : Shape}
    (ha : numberArm? (vs.filterMap Value.number?) = some a) (hb : b.family = some .number)
    (hacc : ∀ v ∈ vs, v.family = some .number → accepts b v) {v : Value}
    (hv : v.family = some .number) (h : accepts a v) : accepts b v := by
  rcases family_eq_number_iff.1 hb with rfl | rfl
  · -- the bound is an integer, so no sample is a float
    have hany : (vs.filterMap Value.number?).any (ofNumber · = .float) = false := by
      rw [List.any_eq_false]
      intro n hn
      obtain ⟨w, hw, hwn⟩ := List.mem_filterMap.1 hn
      cases w <;> first | (cases hwn; done) | skip
      obtain rfl := Option.some.inj hwn
      have hint := hacc _ hw rfl
      simp_all [accepts, Primitive.accepts]
    rw [numberArm?, hany] at ha
    split at ha
    · cases ha
    · obtain rfl : Shape.primitive .integer = a := by simpa using ha
      exact h
  · cases v <;> first | rfl | cases hv

/-! ### The bound -/

/--
**The inferred shape is the least one.** Every well-formed shape that accepts all the samples
accepts every value that the shape inferred from them accepts.
-/
theorem accepts_of_accepts_ofSamples {vs : List Value} (h : ∀ v ∈ vs, v.DistinctKeys)
    {bound : Shape} (hb : WellFormed bound) (hacc : ∀ v ∈ vs, accepts bound v) {v : Value}
    (hv : accepts (ofSamples vs) v) : accepts bound v := by
  induction vs using batch.induct generalizing bound v with
  | case1 vs harrays hobjects =>
    have hw := wellFormed_ofSamples h
    cases hf : v.family with
    | none =>
      obtain rfl := Value.family_eq_none_iff.1 hf
      rw [hw.accepts_null, allowsNull_ofSamples h, List.any_eq_true] at hv
      obtain ⟨w, hw, hnull⟩ := hv
      obtain rfl := Value.isNull_iff.1 hnull
      exact hacc _ hw
    | some f =>
      rw [hw.accepts_iff_arm? hf] at hv
      rw [hb.accepts_iff_arm? hf]
      -- the arm that accepts `v` was asked for by a sample, so the bound has one of its family
      obtain ⟨a, ha, hav⟩ := hv
      obtain ⟨b, hb', hbacc⟩ := exists_arm_of_samples hb hacc (exists_sample_of_arm? h ha)
      refine ⟨b, hb', ?_⟩
      obtain ⟨hbmem, hbf⟩ := mem_of_armOf? hb'
      have hwb := hb.of_mem_arms hbmem
      cases f with
      | array =>
        obtain ⟨e, rfl⟩ := family_eq_array_iff.1 hbf
        rw [arm?_array_ofSamples h] at ha
        split at ha
        · cases ha
        · rename_i hne
          obtain rfl := Option.some.inj ha
          refine accepts_array_of_flatten (fun es hes => hbacc _ (mem_arrays.1 hes) rfl)
            (fun hes v hv => ?_) hav
          exact harrays hne (distinctKeys_flatten_arrays h) (wellFormed_array_iff.1 hwb) hes hv
      | object =>
        obtain ⟨gs, rfl⟩ := family_eq_object_iff.1 hbf
        rw [arm?_object_ofSamples h] at ha
        split at ha
        · cases ha
        · rename_i hne
          obtain rfl := Option.some.inj ha
          refine accepts_object_of_fieldsOf hne hwb (fun ms hms => hbacc _ (mem_objects.1 hms) rfl)
            (fun key bound hbound hvalues v hv => ?_) hav
          exact hobjects hne key (distinctKeys_valuesAt h key) hbound hvalues hv
      | number =>
        rw [arm?_number_ofSamples h] at ha
        exact accepts_of_numberArm? ha hbf hbacc hf hav
      | string =>
        obtain rfl := family_eq_string_iff.1 hbf
        cases v <;> first | rfl | cases hf
      | bool =>
        obtain rfl := family_eq_bool_iff.1 hbf
        cases v <;> first | rfl | cases hf

set_option maxRecDepth 4000 in
/-- Null and a missing key are forced on a bound that also allows strings and further keys. -/
theorem accepts_bound_of_two_objects :
    accepts (.nullable (.union [.object [⟨"x", .array .unknown, true⟩,
        ⟨"n", .primitive .float, true⟩, ⟨"k", .primitive .integer, true⟩], .primitive .string]))
      (.object [("k", .null), ("n", .number (.integer 3))]) := by
  have hshape : ofSamples [.object [("k", .number (.integer 1))],
      .object [("n", .number (.integer 2)), ("k", .null)]]
        = .object [⟨"k", .primitive .integer, true⟩, ⟨"n", .primitive .integer, true⟩] := by
    cbv
  have hv : accepts (ofSamples [.object [("k", .number (.integer 1))],
      .object [("n", .number (.integer 2)), ("k", .null)]])
        (.object [("k", .null), ("n", .number (.integer 3))]) := by
    rw [hshape]
    decide
  exact accepts_of_accepts_ofSamples (by decide) (by decide) (by decide) hv

end Shape

end SampleTypes
