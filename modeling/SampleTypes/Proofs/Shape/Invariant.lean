import SampleTypes.Proofs.Shape.Samples

/-!
# The rules for inferred shapes

Every state of an inference obeys the rules of `WellFormed`, and the unknown shape stands in it at
two places only: as the whole shape before the first sample, and as the element of an array that was
always empty.  `Settled` states the second rule, `Inference.Regular` both; one observation keeps
them (`Inference.Regular.observe`), hence so does a run of observations
(`Inference.Regular.foldl_observe`).
-/

namespace SampleTypes

open Json (Value)

namespace Shape

/-- The unknown shape stands nowhere but as the element of an array. -/
inductive Settled : Shape → Prop
  | primitive (kind : Primitive) : Settled (.primitive kind)
  | object {fields : List Field} (parts : ∀ f ∈ fields, Settled f.shape) : Settled (.object fields)
  /-- No element was ever seen. -/
  | emptyArray : Settled (.array .unknown)
  | array {element : Shape} (part : Settled element) : Settled (.array element)
  | nullable {inner : Shape} (part : Settled inner) : Settled (.nullable inner)
  | union {arms : List Shape} (parts : ∀ a ∈ arms, Settled a) : Settled (.union arms)

theorem settled_array_iff {e : Shape} : Settled (.array e) ↔ e = .unknown ∨ Settled e := by
  constructor
  · intro h
    cases h with
    | emptyArray => exact .inl rfl
    | array h => exact .inr h
  · rintro (rfl | h)
    · exact .emptyArray
    · exact .array h

theorem settled_object_iff {fs : List Field} :
    Settled (.object fs) ↔ ∀ f ∈ fs, Settled f.shape :=
  ⟨fun h => by cases h; assumption, .object⟩

theorem Settled.withoutNull {s : Shape} (h : Settled s) : Settled s.withoutNull := by
  cases h with
  | nullable h => exact h
  | primitive k => exact .primitive k
  | object h => exact .object h
  | emptyArray => exact .emptyArray
  | array h => exact .array h
  | union h => exact .union h

/-! ### Settled shapes by their parts -/

theorem Settled.of_mem_arms {s a : Shape} (h : Settled s) (ha : a ∈ s.arms) : Settled a := by
  induction h with
  | primitive k => cases k <;> simp [arms] at ha <;> exact ha ▸ .primitive _
  | object h => exact List.mem_singleton.1 ha ▸ .object h
  | emptyArray => exact List.mem_singleton.1 ha ▸ .emptyArray
  | array h => exact List.mem_singleton.1 ha ▸ .array h
  | nullable _ ih => exact ih ha
  | union h => exact h a ha

/-- A settled shape that is well formed has some value. -/
theorem Settled.allowsNull_or_arms_ne_nil {s : Shape} (h : Settled s) (hw : WellFormed s) :
    s.allowsNull ∨ s.arms ≠ [] := by
  rcases hw.cases with rfl | rfl | hc | ⟨t, rfl, -, -⟩
  · cases h
  · exact .inl rfl
  · exact .inr (hw.arms_ne_nil hc)
  · exact .inl rfl

theorem settled_ofParts {n : Bool} {as : List Shape} (hne : n ∨ as ≠ [])
    (h : ∀ a ∈ as, Settled a) : Settled (ofParts n as) := by
  match as with
  | [] =>
    have hn : n = true := hne.resolve_right (fun h => h rfl)
    subst hn
    exact .primitive .null
  | [a] =>
    have ha : Settled a := h a (by simp)
    cases n
    · exact ha
    · exact .nullable ha
  | _ :: _ :: _ =>
    cases n
    · exact .union h
    · exact .nullable (.union h)

/-- Merged fields are settled, if the shapes under common keys unify to settled ones. -/
theorem settled_mergeFields {fs gs : List Field} (hf : (fs.map Field.key).Nodup)
    (hg : (gs.map Field.key).Nodup) (hfs : ∀ f ∈ fs, Settled f.shape)
    (hgs : ∀ g ∈ gs, Settled g.shape)
    (hu : ∀ f ∈ fs, ∀ g ∈ gs, Settled (unify f.shape g.shape)) :
    Settled (.object (mergeFields fs gs)) := by
  refine .object fun h hmem => ?_
  rcases mem_mergeFields hf hg hmem with ⟨f, hf, rfl⟩ | ⟨g, hg, rfl⟩ | ⟨f, hf, g, hg, rfl⟩
  · exact hfs f hf
  · exact hgs g hg
  · rw [shape_joinFields]
    exact (hu f hf g hg).withoutNull

/-- Unification keeps shapes settled. -/
theorem Settled.unify {a b : Shape} (ha : Settled a) (hb : Settled b) (hwa : WellFormed a)
    (hwb : WellFormed b) : Settled (unify a b) := by
  refine WellFormed.induction (P := fun a => ∀ b, WellFormed b → Settled a → Settled b →
    Settled (Shape.unify a b)) (fun a hwa harray hobject b hwb ha hb => ?_) a hwa b hwb ha hb
  rw [unify_eq_ofParts hwa hwb]
  apply settled_ofParts
  · rcases ha.allowsNull_or_arms_ne_nil hwa with hn | hne
    · exact .inl (by rw [hn, Bool.true_or])
    · obtain ⟨c, hc⟩ := List.exists_mem_of_ne_nil _ (absorbAll_ne_nil hne b.arms)
      exact .inr (List.ne_nil_of_mem (mem_sortArms.2 hc))
  · intro c hc
    rcases mem_mergeArms hwa.ranked hwb.ranked hc with h | h | ⟨x, hx, y, hy, hfam, rfl⟩
    · exact ha.of_mem_arms h
    · exact hb.of_mem_arms h
    · have hwx := hwa.of_mem_arms hx
      have hwy := hwb.of_mem_arms hy
      have hsx := ha.of_mem_arms hx
      have hsy := hb.of_mem_arms hy
      obtain ⟨f, hf⟩ := Option.ne_none_iff_exists'.1 (hwa.ranked.hasFamily x hx)
      cases alike_of_family hf (hfam.symm.trans hf) with
      | array d e =>
        rw [unify_array, settled_array_iff]
        rcases settled_array_iff.1 hsx with rfl | hd
        · rw [unify_unknown_left]
          exact settled_array_iff.1 hsy
        · rcases settled_array_iff.1 hsy with rfl | he
          · rw [unify_unknown_right]
            exact .inr hd
          · exact .inr (harray d hx e (wellFormed_array_iff.1 hwy) hd he)
      | object fs gs =>
        rw [settled_object_iff] at hsx hsy
        rw [unify_object]
        refine settled_mergeFields hwx.fields.1 hwy.fields.1 hsx hsy fun f hf g hg => ?_
        exact hobject fs hx f hf g.shape (hwy.fields.2 g hg).wellFormed (hsx f hf) (hsy g hg)
      | primitive hk hl hw =>
        rw [unify_primitive hk hl hw]
        exact .primitive _

end Shape

/-! ### Observations -/

open Shape (WellFormed Settled ofValue wellFormed_ofValue)

namespace Inference

/-- The rules for an inference under way. -/
structure Regular (inference : Inference) : Prop where
  wellFormed : WellFormed inference.shape
  unknown : inference.samples = 0 → inference.shape = .unknown
  settled : inference.samples ≠ 0 → Settled inference.shape

theorem regular_start : Regular {} where
  wellFormed := .unknown
  unknown := fun _ => rfl
  settled := fun h => absurd rfl h

/-- **One observation keeps the rules.** -/
theorem Regular.observe {inference : Inference} (h : Regular inference) {v : Value}
    (hw : WellFormed (ofValue v)) (hs : Settled (ofValue v)) : Regular (inference.observe v) where
  wellFormed := h.wellFormed.unify hw
  unknown := fun hzero => absurd hzero (Nat.succ_ne_zero _)
  settled := fun _ => by
    rw [Inference.observe]
    by_cases hzero : inference.samples = 0
    · rw [h.unknown hzero, Shape.unify_unknown_left]
      exact hs
    · exact (h.settled hzero).unify hs h.wellFormed hw

/-- **A run of observations keeps the rules.** -/
theorem Regular.foldl_observe {inference : Inference} (h : Regular inference) {vs : List Value}
    (hvs : ∀ v ∈ vs, WellFormed (ofValue v) ∧ Settled (ofValue v)) :
    Regular (vs.foldl Inference.observe inference) := by
  induction vs generalizing inference with
  | nil => exact h
  | cons v vs ih =>
    rw [List.forall_mem_cons] at hvs
    exact ih (h.observe hvs.1.1 hvs.1.2) hvs.2

theorem samples_foldl_observe (inference : Inference) (vs : List Value) :
    (vs.foldl Inference.observe inference).samples = inference.samples + vs.length := by
  induction vs generalizing inference with
  | nil => rfl
  | cons v vs ih =>
    rw [List.foldl_cons, ih, List.length_cons]
    show inference.samples + 1 + vs.length = inference.samples + (vs.length + 1)
    omega

end Inference

namespace Shape

open Inference (Regular regular_start samples_foldl_observe)

/-- The shape of one value is settled. -/
theorem settled_ofValue {v : Value} (h : v.DistinctKeys) : Settled (ofValue v) := by
  induction h with
  | null | bool | number | string => rw [ofValue]; exact .primitive _
  | @array vs hvs ih =>
    rw [ofValue_array, settled_array_iff]
    have hrun := regular_start.foldl_observe fun v hv => ⟨wellFormed_ofValue (hvs v hv), ih v hv⟩
    by_cases hzero : (vs.foldl Inference.observe {}).samples = 0
    · exact .inl (hrun.unknown hzero)
    · exact .inr (hrun.settled hzero)
  | object _ _ ih =>
    rw [ofValue, ofMembers_eq_map]
    refine .object fun f hf => ?_
    obtain ⟨m, hm, rfl⟩ := List.mem_map.1 hf
    exact ih m hm

/--
**Inferred shapes obey the rules.** After any run of observations from the start the shape is well
formed; it is unknown if nothing was observed, and otherwise the unknown shape stands in it only as
the element of an array.  Unification keeps shapes well formed.
-/
theorem wellFormed_run_and_wellFormed_unify :
    (∀ vs : List Value, (∀ v ∈ vs, v.DistinctKeys) →
        WellFormed (vs.foldl Inference.observe {}).shape ∧
          (vs = [] → (vs.foldl Inference.observe {}).shape = .unknown) ∧
          (vs ≠ [] → Settled (vs.foldl Inference.observe {}).shape)) ∧
      ∀ a b : Shape, a.WellFormed → b.WellFormed → (unify a b).WellFormed := by
  refine ⟨fun vs h => ?_, fun _ _ ha hb => ha.unify hb⟩
  have hrun := regular_start.foldl_observe fun v hv =>
    ⟨wellFormed_ofValue (h v hv), settled_ofValue (h v hv)⟩
  have hcount : (vs.foldl Inference.observe {}).samples = vs.length := by
    rw [samples_foldl_observe, Nat.zero_add]
  refine ⟨hrun.wellFormed, fun hnil => ?_, fun hne => ?_⟩
  · exact hrun.unknown (by rw [hcount, hnil, List.length_nil])
  · exact hrun.settled (by rw [hcount]; exact fun hzero => hne (List.length_eq_zero_iff.1 hzero))

/-- Samples of three families, with null, an empty array, and keys that come and go. -/
theorem wellFormed_run_of_mixed_samples :
    (WellFormed (List.foldl Inference.observe {} [.object [("k", .null), ("n", .array [])], .null,
          .string "x", .object [("k", .array [.null])]]).shape ∧
        Settled (List.foldl Inference.observe {} [.object [("k", .null), ("n", .array [])], .null,
          .string "x", .object [("k", .array [.null])]]).shape) ∧
      WellFormed (unify (.nullable (.object [⟨"k", .array .unknown, true⟩]))
        (.union [.array .null, .primitive .float])) := by
  have hrun := wellFormed_run_and_wellFormed_unify.1 [.object [("k", .null), ("n", .array [])],
    .null, .string "x", .object [("k", .array [.null])]] (by decide)
  refine ⟨⟨hrun.1, hrun.2.2 (by simp)⟩, ?_⟩
  exact wellFormed_run_and_wellFormed_unify.2 _ _ (by decide) (by decide)

end Shape

end SampleTypes
