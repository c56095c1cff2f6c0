import SampleTypes.Proofs.Shape.Unify

/-!
# Unification is associative

Exactly so, with the order of fields and arms.  By `WellFormed.ext` it is enough to compare parts:
marks for null are joined by "or", and the arms of a family by unifying them, so the question passes
to the elements of arrays and to the fields of objects.

A field drops the mark for null of its shape and becomes optional instead, which makes a merge in
two steps look at shapes that have already lost a mark.  `withoutNull_unify` and `isNullable_unify`
say that nothing is lost by that: the mark can be dropped before or after.
-/

namespace SampleTypes

namespace Shape

open Keyed (find?)

/-! ### Dropping the mark for null -/

theorem isEmpty_mergeArms {as bs : List Shape} (ha : Ranked as) (hb : Ranked bs) :
    (mergeArms as bs).isEmpty = (as.isEmpty && bs.isEmpty) := by
  cases as with
  | nil => rw [mergeArms_nil_left hb, List.isEmpty_nil, Bool.true_and]
  | cons a as =>
    obtain ⟨c, hc⟩ := List.exists_mem_of_ne_nil _ (absorbAll_ne_nil (List.cons_ne_nil a as) bs)
    have hne : mergeArms (a :: as) bs ≠ [] := List.ne_nil_of_mem (mem_sortArms.2 hc)
    simpa using hne

theorem WellFormed.allowsNull_withoutNull {s : Shape} (h : WellFormed s) :
    s.withoutNull.allowsNull = (s.allowsNull && s.arms.isEmpty) := by
  rcases h.cases with rfl | rfl | hc | ⟨t, rfl, hc, ht⟩
  · rfl
  · rfl
  · rw [withoutNull_of_plain hc.plain, hc.allowsNull, Bool.false_and]
  · have := ht.arms_ne_nil hc
    simp [Shape.withoutNull, hc.allowsNull, this]

section Marks

variable {a b : Shape} (ha : WellFormed a) (hb : WellFormed b)

include ha hb

/-- The mark for null can be dropped from the operands first. -/
theorem withoutNull_unify :
    (unify a.withoutNull b.withoutNull).withoutNull = (unify a b).withoutNull := by
  have ha' := ha.withoutNull
  have hb' := hb.withoutNull
  refine (ha'.unify hb').withoutNull.ext (ha.unify hb).withoutNull ?_ fun f => ?_
  · rw [(ha'.unify hb').allowsNull_withoutNull, (ha.unify hb).allowsNull_withoutNull,
      allowsNull_unify ha' hb', allowsNull_unify ha hb, arms_unify ha' hb', arms_unify ha hb,
      ha.allowsNull_withoutNull, hb.allowsNull_withoutNull, arms_withoutNull, arms_withoutNull,
      isEmpty_mergeArms ha.ranked hb.ranked]
    cases a.arms.isEmpty <;> cases b.arms.isEmpty <;> simp
  · rw [arm?, arm?, arms_withoutNull, arms_withoutNull, arms_unify ha' hb', arms_unify ha hb,
      arms_withoutNull, arms_withoutNull]

/-- A mark for null is in an operand, or comes from null on one side and other values on the
other. -/
theorem isNullable_unify :
    (unify a b).isNullable
      = (a.isNullable || b.isNullable || (unify a.withoutNull b.withoutNull).isNullable) := by
  have ha' := ha.withoutNull
  have hb' := hb.withoutNull
  rw [(ha.unify hb).isNullable_eq, (ha'.unify hb').isNullable_eq, ha.isNullable_eq,
    hb.isNullable_eq, allowsNull_unify ha' hb', allowsNull_unify ha hb, arms_unify ha' hb',
    arms_unify ha hb, ha.allowsNull_withoutNull, hb.allowsNull_withoutNull, arms_withoutNull,
    arms_withoutNull, isEmpty_mergeArms ha.ranked hb.ranked]
  cases a.allowsNull <;> cases b.allowsNull <;> cases a.arms.isEmpty <;>
    cases b.arms.isEmpty <;> rfl

end Marks

/-! ### Fields -/

/-- What a field of a well-formed object is like. -/
structure PlainField (f : Field) : Prop where
  wellFormed : WellFormed f.shape
  plain : f.shape.isNullable = false

theorem joinFields_lax_left (f g : Field) : joinFields f.lax g = (joinFields f g).lax := by
  simp [joinFields, foldNull_eq, Field.lax]

theorem joinFields_lax_right (f g : Field) : joinFields f g.lax = (joinFields f g).lax := by
  simp [joinFields, foldNull_eq, Field.lax]

theorem joinFields_assoc {f g h : Field} (hf : PlainField f) (hg : PlainField g)
    (hh : PlainField h)
    (hassoc : unify (unify f.shape g.shape) h.shape = unify f.shape (unify g.shape h.shape)) :
    joinFields (joinFields f g) h = joinFields f (joinFields g h) := by
  have hfg := hf.wellFormed.unify hg.wellFormed
  have hgh := hg.wellFormed.unify hh.wellFormed
  -- the shapes of `f` and `h` carry no mark of their own
  have hl := withoutNull_unify hfg hh.wellFormed
  have hr := withoutNull_unify hf.wellFormed hgh
  have hln := isNullable_unify hfg hh.wellFormed
  have hrn := isNullable_unify hf.wellFormed hgh
  rw [withoutNull_of_plain hh.plain] at hl hln
  rw [withoutNull_of_plain hf.plain] at hr hrn
  rw [hh.plain] at hln
  rw [hf.plain] at hrn
  refine Field.ext (by simp) ?_ ?_
  · rw [shape_joinFields, shape_joinFields, shape_joinFields, shape_joinFields, hl, hr, hassoc]
  · -- a mark that the inner merge drops has made its field optional
    rw [optional_joinFields, optional_joinFields, optional_joinFields, optional_joinFields,
      shape_joinFields, shape_joinFields]
    calc (_ || ((unify f.shape g.shape).isNullable || (f.optional || g.optional) || h.optional))
        = ((unify (unify f.shape g.shape) h.shape).isNullable
            || (f.optional || g.optional || h.optional)) := by
          rw [hln]
          ac_rfl
      _ = _ := by
          rw [hassoc, hrn]
          ac_rfl

/-- Absent fields regroup as well: each of them makes the result optional. -/
theorem joinField?_assoc {x y z : Option Field}
    (hassoc : ∀ f ∈ x, ∀ g ∈ y, ∀ h ∈ z,
      joinFields (joinFields f g) h = joinFields f (joinFields g h)) :
    joinField? (joinField? x y) z = joinField? x (joinField? y z) := by
  cases x with
  | none =>
    cases y <;> cases z <;> simp [joinField?, joinFields_lax_left]
  | some f =>
    cases y with
    | none =>
      cases z <;> simp [joinField?, joinFields_lax_left, joinFields_lax_right]
    | some g =>
      cases z with
      | none => simp [joinField?, joinFields_lax_right]
      | some h => simpa [joinField?] using hassoc f rfl g rfl h rfl

/-- The fields of a well-formed object, as the lemmas on fields want them. -/
theorem WellFormed.fields {fs : List Field} (h : WellFormed (.object fs)) :
    (fs.map Field.key).Nodup ∧ ∀ f ∈ fs, PlainField f := by
  cases h with
  | object hd hp hw => exact ⟨hd, fun f hf => ⟨hw f hf, hp f hf⟩⟩

theorem mergeFields_assoc {fs gs hs : List Field} (hf : WellFormed (.object fs))
    (hg : WellFormed (.object gs)) (hh : WellFormed (.object hs))
    (hassoc : ∀ f ∈ fs, ∀ g ∈ gs, ∀ h ∈ hs,
      unify (unify f.shape g.shape) h.shape = unify f.shape (unify g.shape h.shape)) :
    mergeFields (mergeFields fs gs) hs = mergeFields fs (mergeFields gs hs) := by
  obtain ⟨hfd, hfp⟩ := hf.fields
  obtain ⟨hgd, hgp⟩ := hg.fields
  obtain ⟨hhd, hhp⟩ := hh.fields
  have hfg := nodup_keys_mergeFields hfd hgd
  have hgh := nodup_keys_mergeFields hgd hhd
  refine Keyed.ext (nodup_keys_mergeFields hfg hhd) ?_ fun k => ?_
  · rw [keys_mergeFields hfg hhd, keys_mergeFields hfd hgh, keys_mergeFields hfd hgd,
      keys_mergeFields hgd hhd, List.filter_append, List.filter_filter, List.append_assoc]
    refine congrArg _ (congrArg _ (List.filter_congr fun k _ => ?_))
    rw [Bool.eq_iff_iff]
    simp only [decide_eq_true_eq, Bool.and_eq_true, List.mem_append, List.mem_filter]
    grind
  · rw [find?_mergeFields hfg hhd, find?_mergeFields hfd hgh, find?_mergeFields hfd hgd,
      find?_mergeFields hgd hhd]
    refine joinField?_assoc fun f hkf g hkg h hkh => ?_
    have hfs := (Keyed.mem_of_find? hkf).1
    have hgs := (Keyed.mem_of_find? hkg).1
    have hhs := (Keyed.mem_of_find? hkh).1
    exact joinFields_assoc (hfp f hfs) (hgp g hgs) (hhp h hhs) (hassoc f hfs g hgs h hhs)

/-! ### Shapes -/

theorem merge_assoc_of {α : Type} {op : α → α → α} {x y z : Option α}
    (h : ∀ a ∈ x, ∀ b ∈ y, ∀ c ∈ z, op (op a b) c = op a (op b c)) :
    Option.merge op (Option.merge op x y) z = Option.merge op x (Option.merge op y z) := by
  cases x <;> cases y <;> cases z <;> simp_all

theorem unify_assoc_primitive {k l m : Primitive} (hk : k ≠ .null) (hl : l ≠ .null)
    (hm : m ≠ .null) (hkl : (k.widen? l).isSome) (hlm : (l.widen? m).isSome) :
    unify (unify (.primitive k) (.primitive l)) (.primitive m)
      = unify (.primitive k) (unify (.primitive l) (.primitive m)) := by
  rw [unify_primitive hk hl hkl, unify_primitive hl hm hlm]
  cases k <;> cases l <;> first | (cases hkl; done) | exact absurd rfl hk | skip
  all_goals
    cases m <;> first | (cases hlm; done) | simp [unify_primitive, Primitive.widen?]

/-- **Unification is associative** on well-formed shapes. -/
theorem unify_assoc {a b c : Shape} (ha : WellFormed a) (hb : WellFormed b) (hc : WellFormed c) :
    unify (unify a b) c = unify a (unify b c) := by
  refine WellFormed.induction (P := fun a => ∀ b c, WellFormed b → WellFormed c →
    unify (unify a b) c = unify a (unify b c))
    (fun a ha harray hobject b c hb hc => ?_) a ha b c hb hc
  have hab := ha.unify hb
  have hbc := hb.unify hc
  refine (hab.unify hc).ext (ha.unify hbc) ?_ fun f => ?_
  · rw [allowsNull_unify hab hc, allowsNull_unify ha hbc, allowsNull_unify ha hb,
      allowsNull_unify hb hc, Bool.or_assoc]
  · rw [arm?_unify hab hc, arm?_unify ha hbc, arm?_unify ha hb, arm?_unify hb hc]
    refine merge_assoc_of fun x hx y hy z hz => ?_
    obtain ⟨hxa, hfx⟩ := mem_of_armOf? hx
    obtain ⟨hyb, hfy⟩ := mem_of_armOf? hy
    obtain ⟨hzc, hfz⟩ := mem_of_armOf? hz
    have hwy := hb.of_mem_arms hyb
    have hwz := hc.of_mem_arms hzc
    cases alike_of_family hfx hfy with
    | array d e =>
      cases alike_of_family hfy hfz with
      | array _ g =>
        have hassoc := harray d hxa e g (wellFormed_array_iff.1 hwy) (wellFormed_array_iff.1 hwz)
        simp only [unify_array, hassoc]
    | object fs gs =>
      cases alike_of_family hfy hfz with
      | object _ hs =>
        simp only [unify_object]
        rw [mergeFields_assoc (ha.of_mem_arms hxa) hwy hwz fun f hf g hg h hh => ?_]
        exact hobject fs hxa f hf _ _ (hwy.fields.2 g hg).wellFormed (hwz.fields.2 h hh).wellFormed
    | primitive hk hl hkl =>
      cases alike_of_family hfy hfz with
      | primitive _ hm hlm => exact unify_assoc_primitive hk hl hm hkl hlm

end Shape

end SampleTypes
