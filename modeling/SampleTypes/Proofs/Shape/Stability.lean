import SampleTypes.Proofs.Shape.Invariant
import SampleTypes.Proofs.Shape.Soundness

/-!
# When an observation changes nothing

An observation leaves the inferred shape as it is, the order of fields included, just if the shape
accepts the value already.  One half is soundness.  The other goes through the shape part by part:

* `unify_ofSamples_of_forall`: elements that change nothing one by one change nothing together;
* `mergeFields_ofMembers`: an accepted object has no new key, and under each key it asks for no more
  than the field gives;
* `unify_ofValue_of_accepts` puts the parts together, and `unify_ofValue_eq_iff` adds the other
  half; `unify_ofSamples_eq_iff` is the result for what some samples leave.

Unknown shapes stay out of the way: a field of inferred shape is known, and an array of unknown
elements accepts the empty array only.
-/

namespace SampleTypes

open Json (Value)

namespace Shape

open Keyed (find?)

theorem withoutNull_orNull {s : Shape} (h : s.isNullable = false) : s.orNull.withoutNull = s := by
  cases s with
  | primitive k => cases k <;> rfl
  | nullable s => cases h
  | _ => rfl

/-! ### Elements -/

/-- Samples that change nothing one by one change nothing together. -/
theorem unify_ofSamples_of_forall {s : Shape} (hs : WellFormed s) {vs : List Value}
    (hvs : ∀ v ∈ vs, v.DistinctKeys) (h : ∀ v ∈ vs, unify s (ofValue v) = s) :
    unify s (ofSamples vs) = s := by
  rw [← foldl_unify_ofValue hs hvs]
  clear hvs
  induction vs with
  | nil => rfl
  | cons v vs ih =>
    rw [List.forall_mem_cons] at h
    rw [List.foldl_cons, h.1, ih h.2]

/-! ### Fields -/

section Fields

variable {f : Field} {v : Value} (hf : PlainField f)
  (hv : accepts f.shape v → unify f.shape (ofValue v) = f.shape)

include hf hv

/-- A value that a field accepts changes nothing in it. -/
theorem joinFields_ofValue (hknown : f.shape ≠ .unknown) (h : fieldAccepts f (some v)) :
    joinFields f ⟨f.key, ofValue v, false⟩ = f := by
  rcases fieldAccepts_some.1 h with hacc | ⟨hoptional, hnull⟩
  · refine Field.ext (key_joinFields _ _) ?_ ?_
    · rw [shape_joinFields, hv hacc, withoutNull_of_plain hf.plain]
    · rw [optional_joinFields, hv hacc, hf.plain, Bool.false_or, Bool.or_false]
  · -- null goes into the mark that the field has
    obtain rfl := Value.isNull_iff.1 hnull
    refine Field.ext (key_joinFields _ _) ?_ ?_
    · rw [shape_joinFields, ofValue, unify_null_right hf.wellFormed hknown,
        withoutNull_orNull hf.plain]
    · rw [optional_joinFields, hoptional, Bool.true_or, Bool.or_true]

end Fields

/-- An object that is accepted changes nothing in the fields, if its values change nothing in them
one by one. -/
theorem mergeFields_ofMembers {fs : List Field} (hw : WellFormed (.object fs))
    (hknown : ∀ f ∈ fs, f.shape ≠ .unknown) {ms : List (String × Value)}
    (hms : (ms.map Prod.fst).Nodup)
    (hvalues : ∀ f ∈ fs, ∀ m ∈ ms, accepts f.shape m.2 → unify f.shape (ofValue m.2) = f.shape)
    (h : accepts (.object fs) (.object ms)) : mergeFields fs (ofMembers ms) = fs := by
  obtain ⟨hfs, hplain⟩ := hw.fields
  have hms' : ((ofMembers ms).map Field.key).Nodup := by rwa [keys_ofMembers]
  rw [accepts_object_iff hfs] at h
  refine Keyed.ext (nodup_keys_mergeFields hfs hms') ?_ fun k => ?_
  · have hnew : (ms.map Prod.fst).filter (· ∉ fs.map Field.key) = [] := by
      rw [List.filter_eq_nil_iff]
      intro k hk hnot
      have hk' := h k
      rw [Keyed.find?_eq_none_iff.2 (of_decide_eq_true hnot), acceptsAt,
        Option.isNone_iff_eq_none, Json.member?_eq_none_iff] at hk'
      exact hk' hk
    rw [keys_mergeFields hfs hms', keys_ofMembers, hnew, List.append_nil]
  · have hk := h k
    rw [find?_mergeFields hfs hms', find?_ofMembers]
    cases hfind : find? Field.key k fs with
    | none =>
      rw [hfind, acceptsAt, Option.isNone_iff_eq_none] at hk
      rw [hk]
      rfl
    | some f =>
      obtain ⟨hmem, rfl⟩ := Keyed.mem_of_find? hfind
      rw [hfind, acceptsAt] at hk
      cases hmember : Json.member? f.key ms with
      | none =>
        rw [hmember, fieldAccepts_none] at hk
        exact congrArg some (Field.ext rfl rfl hk.symm)
      | some v =>
        rw [hmember] at hk
        have hv := hvalues f hmem (f.key, v) (Json.mem_of_member? hmember)
        exact congrArg some (joinFields_ofValue (hplain f hmem) hv (hknown f hmem) hk)

/-! ### Shapes -/

/-- A number changes nothing in a kind that accepts it. -/
theorem unify_primitive_ofValue_number {k : Primitive}
    (hk : (Shape.primitive k).family = some .number) {n : Json.Number}
    (h : accepts (.primitive k) (.number n)) :
    unify (.primitive k) (ofValue (.number n)) = .primitive k := by
  rw [ofValue]
  rcases family_eq_number_iff.1 hk with hkind | hkind
  · obtain rfl := primitive.inj hkind
    have hinteger : ofNumber n = .integer := of_decide_eq_true h
    rw [hinteger]
    exact unify_primitive (by decide) (by decide) (by decide)
  · obtain rfl := primitive.inj hkind
    cases n with
    | integer i =>
      rw [ofNumber]
      exact unify_primitive (by decide) (by decide) (by decide)
    | float x =>
      rw [ofNumber]
      exact unify_primitive (by decide) (by decide) (by decide)

/-- A value of the family of an arm changes nothing in an arm that accepts it, if its parts change
nothing in the parts of the arm. -/
theorem unify_ofValue_of_family {a : Shape} (ha : WellFormed a) (hsettled : Settled a) {v : Value}
    (hv : v.DistinctKeys) {f : Family} (hfa : a.family = some f) (hfv : v.family = some f)
    (harray : ∀ e, a = .array e → ∀ w, w.DistinctKeys → accepts e w → unify e (ofValue w) = e)
    (hobject : ∀ fs, a = .object fs → ∀ g ∈ fs, ∀ w : Value, w.DistinctKeys → accepts g.shape w →
      unify g.shape (ofValue w) = g.shape)
    (h : accepts a v) : unify a (ofValue v) = a := by
  cases hv with
  | null => cases hfv
  | bool b =>
    cases hfv
    obtain rfl := family_eq_bool_iff.1 hfa
    rw [ofValue]
    exact unify_primitive (by decide) (by decide) (by decide)
  | string s =>
    cases hfv
    obtain rfl := family_eq_string_iff.1 hfa
    rw [ofValue]
    exact unify_primitive (by decide) (by decide) (by decide)
  | number n =>
    cases hfv
    rcases family_eq_number_iff.1 hfa with rfl | rfl
    · exact unify_primitive_ofValue_number rfl h
    · exact unify_primitive_ofValue_number rfl h
  | @array es hes =>
    cases hfv
    obtain ⟨d, rfl⟩ := family_eq_array_iff.1 hfa
    rw [accepts, List.all_eq_true] at h
    rw [ofValue_array, unify_array]
    refine congrArg array (unify_ofSamples_of_forall (wellFormed_array_iff.1 ha) hes ?_)
    intro w hw
    exact harray d rfl w (hes w hw) (h w hw)
  | @object ms hdistinct hms =>
    cases hfv
    obtain ⟨fs, rfl⟩ := family_eq_object_iff.1 hfa
    rw [settled_object_iff] at hsettled
    have hknown : ∀ g ∈ fs, g.shape ≠ .unknown := by
      intro g hg hunknown
      have hsg := hsettled g hg
      rw [hunknown] at hsg
      cases hsg
    rw [ofValue, unify_object]
    refine congrArg object (mergeFields_ofMembers ha hknown hdistinct ?_ h)
    intro g hg m hm
    exact hobject fs rfl g hg m.2 (hms m hm)

/-- **A value that is accepted changes nothing** in a shape of samples. -/
theorem unify_ofValue_of_accepts {s : Shape} (hs : WellFormed s)
    (hsettled : s = .unknown ∨ Settled s) {v : Value} (hv : v.DistinctKeys) (h : accepts s v) :
    unify s (ofValue v) = s := by
  refine WellFormed.induction (P := fun s => s = .unknown ∨ Settled s → ∀ v : Value,
    v.DistinctKeys → accepts s v → unify s (ofValue v) = s)
    (fun s hs harray hobject hsettled v hv h => ?_) s hs hsettled v hv h
  have hwv := wellFormed_ofValue hv
  -- only the mark for null and the arm of the value's family could change
  refine WellFormed.ext (hs.unify hwv) hs ?_ fun f => ?_
  · rw [allowsNull_unify hs hwv, allowsNull_ofValue]
    cases hnull : v.isNull with
    | false => rw [Bool.or_false]
    | true =>
      obtain rfl := Value.isNull_iff.1 hnull
      rw [← hs.accepts_null, h]
      rfl
  · rw [arm?_unify hs hwv, arm?_ofValue]
    by_cases hfamily : v.family = some f
    · obtain ⟨a, ha, hacc⟩ := (hs.accepts_iff_arm? hfamily).1 h
      obtain ⟨hmem, hfa⟩ := mem_of_armOf? ha
      have hsa : Settled a := by
        rcases hsettled with rfl | hsettled
        · cases hmem
        · exact hsettled.of_mem_arms hmem
      rw [if_pos hfamily, ha, Option.merge_some_some]
      refine congrArg some
        (unify_ofValue_of_family (hs.of_mem_arms hmem) hsa hv hfa hfamily ?_ ?_ hacc)
      · rintro e rfl
        exact harray e hmem (settled_array_iff.1 hsa)
      · rintro fs rfl g hg
        exact hobject fs hmem g hg (.inr (settled_object_iff.1 hsa g hg))
    · rw [if_neg hfamily, Option.merge_none_right]

/-- **A value changes nothing just if it is accepted already.** -/
theorem unify_ofValue_eq_iff {s : Shape} (hs : WellFormed s) (hsettled : s = .unknown ∨ Settled s)
    {v : Value} (hv : v.DistinctKeys) : unify s (ofValue v) = s ↔ accepts s v := by
  constructor
  · intro heq
    rw [← heq]
    exact accepts_unify hs (wellFormed_ofValue hv) (.inr (accepts_ofValue hv))
  · exact unify_ofValue_of_accepts hs hsettled hv

/-! ### Samples -/

section Samples

variable {vs : List Value} (h : ∀ v ∈ vs, v.DistinctKeys)

include h

/-- What was observed is settled, unless nothing was. -/
theorem settled_ofSamples : ofSamples vs = .unknown ∨ Settled (ofSamples vs) := by
  have hrun := Inference.regular_start.foldl_observe fun v hv =>
    ⟨wellFormed_ofValue (h v hv), settled_ofValue (h v hv)⟩
  by_cases hzero : (vs.foldl Inference.observe {}).samples = 0
  · exact .inl (hrun.unknown hzero)
  · exact .inr (hrun.settled hzero)

/--
**An observation changes nothing just if the value is accepted already**, whatever was observed
before; and the shape of some samples takes nothing new from itself.
-/
theorem unify_ofSamples_eq_iff :
    (∀ v : Value, v.DistinctKeys →
        (unify (ofSamples vs) (ofValue v) = ofSamples vs ↔ accepts (ofSamples vs) v)) ∧
      unify (ofSamples vs) (ofSamples vs) = ofSamples vs := by
  have hw := wellFormed_ofSamples h
  have hsettled := settled_ofSamples h
  refine ⟨fun v hv => unify_ofValue_eq_iff hw hsettled hv, ?_⟩
  apply unify_ofSamples_of_forall hw h
  intro v hv
  apply unify_ofValue_of_accepts hw hsettled (h v hv)
  exact accepts_foldl_observe_of_mem .unknown h (fun w hw => accepts_ofValue (h w hw)) v hv

end Samples

set_option maxRecDepth 4000 in
/-- Null at an optional field, an empty array and an absent key change nothing; a string that no
element of the array was does. -/
theorem unify_ofSamples_of_covered_object :
    let vs : List Value := [.object [("k", .null), ("n", .array [.number (.integer 1)])],
      .string "x", .object [("k", .array [.bool true]), ("m", .null)]]
    let v : Value := .object [("n", .array []), ("k", .null)]
    unify (ofSamples vs) (ofValue v) = ofSamples vs ∧
      unify (ofSamples vs) (ofValue (.object [("n", .string "y")])) ≠ ofSamples vs := by
  intro vs v
  have hshape : ofSamples vs = .union [.object [⟨"k", .array (.primitive .bool), true⟩,
      ⟨"n", .array (.primitive .integer), true⟩, ⟨"m", .null, true⟩], .primitive .string] := by
    cbv
  have hdistinct : ∀ v ∈ vs, v.DistinctKeys := by
    decide
  have hiff := (unify_ofSamples_eq_iff hdistinct).1
  constructor
  · apply (hiff v (by decide)).2
    rw [hshape]
    decide
  · intro heq
    have hacc := (hiff _ (by decide)).1 heq
    rw [hshape] at hacc
    exact absurd hacc (by decide)

end Shape

end SampleTypes
