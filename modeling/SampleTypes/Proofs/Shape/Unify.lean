import SampleTypes.Proofs.Shape.Fields

/-!
# Unification by parts

What `unify` does to the parts of well-formed shapes:

* null is allowed where one of the operands allows it (`allowsNull_unify`);
* the arm of a family is that of one operand, or the two arms unified (`arm?_unify`);
* the result is well formed again (`WellFormed.unify`).

With `WellFormed.ext` this is all that the laws of unification need.
-/

namespace SampleTypes

namespace Shape

/-! ### Equations -/

@[simp] theorem unify_unknown_left (b : Shape) : unify .unknown b = b := by
  rw [unify]

@[simp] theorem unify_unknown_right (a : Shape) : unify a .unknown = a := by
  cases a <;> simp [unify]

theorem isNull_eq_false {s : Shape} (h : s ≠ .null) : s.isNull = false := by
  cases s with
  | primitive k => cases k <;> first | rfl | exact absurd rfl h
  | _ => rfl

theorem unify_null_left {b : Shape} (hb : WellFormed b) (h : b ≠ .unknown) :
    unify .null b = b.orNull := by
  cases hb with
  | unknown => exact absurd rfl h
  | nullable hc _ =>
    simp only [unify, isNull, if_true]
    exact hc.orNull
  | _ => simp [unify, isNull]

theorem unify_null_right {a : Shape} (ha : WellFormed a) (h : a ≠ .unknown) :
    unify a .null = a.orNull := by
  cases ha with
  | unknown => exact absurd rfl h
  | primitive k => cases k <;> simp [unify, isNull]
  | nullable hc _ =>
    simp only [unify, isNull, if_true]
    exact hc.orNull
  | _ => simp [unify, isNull]

section Core

variable {a b : Shape} (ha : Core a) (hb : Core b)

include ha hb in
theorem unify_core : unify a b = join a b := by
  have hna := isNull_eq_false ha.nonnull
  have hnb := isNull_eq_false hb.nonnull
  cases a <;> cases b <;>
    first
    | exact absurd rfl ha.known
    | exact absurd rfl hb.known
    | (cases ha.plain; done)
    | (cases hb.plain; done)
    | simp [unify, hna, hnb]

include hb in
theorem unify_nullable_left : unify (.nullable a) b = (join a b).orNull := by
  have hnb := isNull_eq_false hb.nonnull
  cases b <;>
    first
    | exact absurd rfl hb.known
    | (cases hb.plain; done)
    | simp [unify, hnb]

include ha in
theorem unify_nullable_right : unify a (.nullable b) = (join a b).orNull := by
  have hna := isNull_eq_false ha.nonnull
  cases a <;>
    first
    | exact absurd rfl ha.known
    | (cases ha.plain; done)
    | simp [unify, hna]

theorem unify_nullable (a b : Shape) : unify (.nullable a) (.nullable b) = (join a b).orNull := by
  rw [unify]

end Core

@[simp] theorem unify_array (a b : Shape) : unify (.array a) (.array b) = .array (unify a b) := by
  simp [unify, join, isNull]

@[simp] theorem unify_object (fs gs : List Field) :
    unify (.object fs) (.object gs) = .object (mergeFields fs gs) := by
  simp [unify, join, isNull, mergeFields]

theorem unify_primitive {k l : Primitive} (hk : k ≠ .null) (hl : l ≠ .null)
    (h : (k.widen? l).isSome) :
    unify (.primitive k) (.primitive l) = .primitive ((k.widen? l).getD k) := by
  have hck : Core (.primitive k) := ⟨nofun, by simpa using hk, rfl⟩
  have hcl : Core (.primitive l) := ⟨nofun, by simpa using hl, rfl⟩
  obtain ⟨m, hm⟩ := Option.isSome_iff_exists.1 h
  rw [unify_core hck hcl]
  simp [join, joinPlain, hm]

/-! ### Arms of one family -/

/-- Two arms that may stand for each other: of one constructor, and of kinds that widen. -/
inductive Alike : Shape → Shape → Prop
  | array (d e : Shape) : Alike (.array d) (.array e)
  | object (fs gs : List Field) : Alike (.object fs) (.object gs)
  | primitive {k l : Primitive} (left : k ≠ .null) (right : l ≠ .null)
      (widen : (k.widen? l).isSome) : Alike (.primitive k) (.primitive l)

/-- Arms of one family are alike. -/
theorem alike_of_family {a b : Shape} {f : Family} (ha : a.family = some f)
    (hb : b.family = some f) : Alike a b := by
  cases f with
  | array =>
    obtain ⟨d, rfl⟩ := family_eq_array_iff.1 ha
    obtain ⟨e, rfl⟩ := family_eq_array_iff.1 hb
    exact .array d e
  | object =>
    obtain ⟨fs, rfl⟩ := family_eq_object_iff.1 ha
    obtain ⟨gs, rfl⟩ := family_eq_object_iff.1 hb
    exact .object fs gs
  | number =>
    rcases family_eq_number_iff.1 ha with rfl | rfl <;>
      rcases family_eq_number_iff.1 hb with rfl | rfl <;>
        exact .primitive (by decide) (by decide) (by decide)
  | string =>
    obtain rfl := family_eq_string_iff.1 ha
    obtain rfl := family_eq_string_iff.1 hb
    exact .primitive (by decide) (by decide) (by decide)
  | bool =>
    obtain rfl := family_eq_bool_iff.1 ha
    obtain rfl := family_eq_bool_iff.1 hb
    exact .primitive (by decide) (by decide) (by decide)

/-- Widening stays in the family. -/
theorem family_widen (k l : Primitive) :
    family (.primitive ((k.widen? l).getD k)) = family (.primitive k) := by
  cases k <;> cases l <;> rfl

/-- Arms of one family unify to an arm of that family. -/
theorem family_unify {a b : Shape} {f : Family} (ha : a.family = some f) (hb : b.family = some f) :
    (unify a b).family = some f := by
  cases alike_of_family ha hb with
  | array d e => rwa [unify_array]
  | object fs gs => rwa [unify_object]
  | primitive hk hl hw => rwa [unify_primitive hk hl hw, family_widen]

/-! ### Absorbing arms -/

/-- An arm is unified into the arm of its family, or comes last. -/
theorem armOf?_absorb {b : Shape} (hb : b.family ≠ none) (as : List Shape) (f : Family) :
    armOf? f (absorb as b) = Option.merge unify (armOf? f as) (armOf? f [b]) := by
  obtain ⟨g, hg⟩ := Option.ne_none_iff_exists'.1 hb
  induction as with
  | nil => simp [absorb]
  | cons a as ih =>
    rw [absorb]
    by_cases hab : a.family = b.family
    · have hu := family_unify (hab.trans hg) hg
      rw [if_pos hab, armOf?_cons, armOf?_cons, armOf?_cons, hu, hab, hg]
      by_cases hf : some g = some f <;> simp [hf]
    · rw [if_neg hab, armOf?_cons, armOf?_cons, ih]
      by_cases hf : a.family = some f
      · have hbf : ¬ b.family = some f := fun e => hab (hf.trans e.symm)
        simp [hf, hbf, armOf?_cons]
      · simp [hf]

/-- The families stay in place; a new one comes last. -/
theorem map_family_absorb {b : Shape} (hb : b.family ≠ none) (as : List Shape) :
    (absorb as b).map family
      = if b.family ∈ as.map family then as.map family else as.map family ++ [b.family] := by
  obtain ⟨g, hg⟩ := Option.ne_none_iff_exists'.1 hb
  induction as with
  | nil => simp [absorb]
  | cons a as ih =>
    rw [absorb]
    by_cases hab : a.family = b.family
    · simp [hab, hg, family_unify (hab.trans hg) hg]
    · rw [if_neg hab, List.map_cons, ih]
      by_cases hmem : b.family ∈ as.map family
      · rw [if_pos hmem, if_pos (by simp [hmem]), List.map_cons]
      · rw [if_neg hmem, if_neg (by simpa [Ne.symm hab] using hmem), List.map_cons,
          List.cons_append]

/-- The families of a list of arms are distinct, and each arm has one. -/
structure Distinct (arms : List Shape) : Prop where
  hasFamily : ∀ a ∈ arms, a.family ≠ none
  nodup : (arms.map family).Nodup

theorem Ranked.distinct {as : List Shape} (h : Ranked as) : Distinct as :=
  ⟨h.hasFamily, h.nodup_family⟩

theorem Distinct.tail {a : Shape} {as : List Shape} (h : Distinct (a :: as)) : Distinct as :=
  ⟨fun b hb => h.hasFamily b (List.mem_cons_of_mem _ hb), (List.nodup_cons.1 h.nodup).2⟩

theorem Distinct.absorb {as : List Shape} (h : Distinct as) {b : Shape} (hb : b.family ≠ none) :
    Distinct (absorb as b) := by
  have hmap := map_family_absorb hb as
  have hnone : none ∉ as.map family := fun hmem => by
    obtain ⟨a, ha, hfam⟩ := List.mem_map.1 hmem
    exact h.hasFamily a ha hfam
  constructor
  · intro a ha hfam
    have hmem : none ∈ (Shape.absorb as b).map family := hfam ▸ List.mem_map_of_mem ha
    rw [hmap] at hmem
    split at hmem
    · exact hnone hmem
    · rcases List.mem_append.1 hmem with hmem | hmem
      · exact hnone hmem
      · exact hb (List.mem_singleton.1 hmem).symm
  · rw [hmap]
    split
    · exact h.nodup
    · rename_i hmem
      exact List.nodup_append.2 ⟨h.nodup, by simp, fun x hx y hy e =>
        hmem (List.mem_singleton.1 hy ▸ e ▸ hx)⟩

theorem Distinct.absorbAll {as bs : List Shape} (ha : Distinct as)
    (hb : ∀ b ∈ bs, b.family ≠ none) : Distinct (absorbAll as bs) := by
  induction bs generalizing as with
  | nil => rwa [Shape.absorbAll]
  | cons b bs ih =>
    rw [Shape.absorbAll]
    exact ih (ha.absorb (hb b (by simp))) fun c hc => hb c (by simp [hc])

theorem armOf?_absorbAll {bs : List Shape} (hb : Distinct bs) (as : List Shape) (f : Family) :
    armOf? f (absorbAll as bs) = Option.merge unify (armOf? f as) (armOf? f bs) := by
  induction bs generalizing as with
  | nil => simp [absorbAll]
  | cons b bs ih =>
    rw [absorbAll, ih hb.tail, armOf?_absorb (hb.hasFamily b (by simp)), armOf?_cons, armOf?_cons,
      armOf?_nil]
    by_cases hf : b.family = some f
    · -- no other arm of `bs` is of this family
      have hnone : armOf? f bs = none :=
        Keyed.find?_eq_none_iff.2 (hf ▸ (List.nodup_cons.1 hb.nodup).1)
      simp [hf, hnone]
    · simp [hf]

/-! ### Sorting arms -/

theorem mem_sortArms {as : List Shape} {a : Shape} : a ∈ sortArms as ↔ a ∈ as := by
  simp [sortArms, rank_lt]

theorem ranked_sortArms {as : List Shape} (h : Distinct as) : Ranked (sortArms as) := by
  refine ⟨fun a ha => h.hasFamily a (mem_sortArms.1 ha), ?_⟩
  have hrank : ∀ {r a}, a ∈ as.filter (·.rank == r) → a.rank = r := fun h => by
    simpa using (List.mem_filter.1 h).2
  have hne : as.Pairwise (rank · ≠ rank ·) :=
    (List.pairwise_map.1 h.nodup).imp rank_ne_of_family_ne
  rw [sortArms, List.pairwise_flatMap]
  constructor
  · intro r _
    refine (hne.filter _).imp_of_mem fun {a b} ha hb hab => ?_
    exact absurd ((hrank ha).trans (hrank hb).symm) hab
  · refine List.pairwise_lt_range.imp fun {r s} hrs a ha b hb => ?_
    rw [hrank ha, hrank hb]
    exact hrs

theorem armOf?_sortArms {as : List Shape} (h : Distinct as) (f : Family) :
    armOf? f (sortArms as) = armOf? f as := by
  refine Option.ext fun a => ?_
  rw [armOf?, armOf?, Keyed.find?_eq_some_iff (ranked_sortArms h).nodup_family,
    Keyed.find?_eq_some_iff h.nodup, mem_sortArms]

theorem ofArms_eq_ofParts {as : List Shape} (h : as ≠ []) :
    ofArms as = ofParts false (sortArms as) := by
  have hne : sortArms as ≠ [] := fun e => by
    obtain ⟨a, ha⟩ := List.exists_mem_of_ne_nil as h
    exact absurd (mem_sortArms.2 ha) (by simp [e])
  unfold ofArms
  match hs : sortArms as, hne with
  | [a], _ => rfl
  | _ :: _ :: _, _ => rfl

/-- The arms of two shapes in one list, each family once. -/
def mergeArms (as bs : List Shape) : List Shape :=
  sortArms (absorbAll as bs)

section Merge

variable {as bs : List Shape} (ha : Ranked as) (hb : Ranked bs)

include ha hb

theorem ranked_mergeArms : Ranked (mergeArms as bs) :=
  ranked_sortArms (ha.distinct.absorbAll hb.hasFamily)

theorem armOf?_mergeArms (f : Family) :
    armOf? f (mergeArms as bs) = Option.merge unify (armOf? f as) (armOf? f bs) := by
  rw [mergeArms, armOf?_sortArms (ha.distinct.absorbAll hb.hasFamily),
    armOf?_absorbAll hb.distinct]

omit ha in
theorem mergeArms_nil_left : mergeArms [] bs = bs :=
  (ranked_mergeArms .nil hb).ext hb fun f => by
    rw [armOf?_mergeArms .nil hb, armOf?_nil, Option.merge_none_left]

omit hb in
theorem mergeArms_nil_right : mergeArms as [] = as :=
  (ranked_mergeArms ha .nil).ext ha fun f => by
    rw [armOf?_mergeArms ha .nil, armOf?_nil, Option.merge_none_right]

/-- Each merged arm comes from one operand, or from both. -/
theorem mem_mergeArms {c : Shape} (hc : c ∈ mergeArms as bs) :
    c ∈ as ∨ c ∈ bs ∨ ∃ a ∈ as, ∃ b ∈ bs, a.family = b.family ∧ c = unify a b := by
  have hr := ranked_mergeArms ha hb
  obtain ⟨f, hf⟩ := Option.ne_none_iff_exists'.1 (hr.hasFamily c hc)
  have hfind := hr.armOf?_eq_some_iff.2 ⟨hc, hf⟩
  rw [armOf?_mergeArms ha hb] at hfind
  cases hfa : armOf? f as with
  | none =>
    rw [hfa, Option.merge_none_left] at hfind
    exact .inr (.inl (mem_of_armOf? hfind).1)
  | some a =>
    obtain ⟨has, haf⟩ := mem_of_armOf? hfa
    cases hfb : armOf? f bs with
    | none =>
      rw [hfa, hfb, Option.merge_none_right, Option.some.injEq] at hfind
      exact .inl (hfind ▸ has)
    | some b =>
      obtain ⟨hbs, hbf⟩ := mem_of_armOf? hfb
      rw [hfa, hfb, Option.merge_some_some, Option.some.injEq] at hfind
      exact .inr (.inr ⟨a, has, b, hbs, haf.trans hbf.symm, hfind.symm⟩)

end Merge

theorem sortArms_singleton {a : Shape} (h : a.family ≠ none) : sortArms [a] = [a] := by
  have hr := Ranked.singleton h
  exact (ranked_sortArms hr.distinct).ext hr (armOf?_sortArms hr.distinct)

/-! ### The join of core shapes -/

/-- Arms of different families become the arms of a union. -/
theorem join_of_family_ne {a b : Shape} (ha : a.family ≠ none) (hb : b.family ≠ none)
    (h : a.family ≠ b.family) : join a b = ofArms [a, b] := by
  cases a with
  | primitive k =>
    cases b with
    | primitive l => cases k <;> cases l <;> simp_all [family, join, joinPlain, Primitive.widen?]
    | array | object => simp [join, joinPlain]
    | _ => simp [family] at hb
  | array | object =>
    cases b with
    | primitive | array | object => simp_all [family, join, joinPlain]
    | _ => simp [family] at hb
  | _ => simp [family] at ha

theorem join_union_left {b : Shape} (as : List Shape) (hb : b.family ≠ none) :
    join (.union as) b = ofArms (absorb as b) := by
  cases b <;> first | exact absurd rfl hb | simp [join]

theorem join_union_right {a : Shape} (ha : a.family ≠ none) (bs : List Shape) :
    join a (.union bs) = ofArms (absorbAll [a] bs) := by
  cases a <;> first | exact absurd rfl ha | simp [join]

theorem absorb_ne_nil (as : List Shape) (b : Shape) : absorb as b ≠ [] := by
  cases as with
  | nil => simp [absorb]
  | cons a as => rw [absorb]; split <;> simp

theorem absorbAll_ne_nil {as : List Shape} (h : as ≠ []) (bs : List Shape) :
    absorbAll as bs ≠ [] := by
  induction bs generalizing as with
  | nil => rwa [absorbAll]
  | cons b bs ih =>
    rw [absorbAll]
    exact ih (absorb_ne_nil as b)

/-- Whatever the operands of `join` look like, the arms of the right one go into the left one. -/
theorem join_eq_ofParts {a b : Shape} (ha : WellFormed a) (hca : Core a) (hcb : Core b) :
    join a b = ofParts false (mergeArms a.arms b.arms) := by
  have hne : absorbAll a.arms b.arms ≠ [] := absorbAll_ne_nil (ha.arms_ne_nil hca) _
  rw [mergeArms, ← ofArms_eq_ofParts hne]
  rcases hca.cases with hfa | ⟨as, rfl⟩
  · rw [arms_of_family hfa]
    rcases hcb.cases with hfb | ⟨bs, rfl⟩
    · have hfu : a.family = b.family → (unify a b).family ≠ none := fun h => by
        obtain ⟨f, hf⟩ := Option.ne_none_iff_exists'.1 hfb
        simp [family_unify (h.trans hf) hf]
      rw [arms_of_family hfb, absorbAll, absorbAll, absorb, absorb]
      split
      · rw [ofArms, sortArms_singleton (hfu ‹_›), unify_core hca hcb]
      · exact join_of_family_ne hfa hfb ‹_›
    · exact join_union_right hfa bs
  · rcases hcb.cases with hfb | ⟨bs, rfl⟩
    · rw [arms_of_family hfb, absorbAll, absorbAll]
      exact join_union_left as hfb
    · rw [join]
      rfl

/-! ### Unification -/

section Unify

variable {a b : Shape} (ha : WellFormed a) (hb : WellFormed b)

include ha hb

/-- **Unification by parts.** Null and the arms of both operands make up the result. -/
theorem unify_eq_ofParts :
    unify a b = ofParts (a.allowsNull || b.allowsNull) (mergeArms a.arms b.arms) := by
  -- a mark on either side goes to the outside of the join
  have hjoin : ∀ {s t : Shape}, WellFormed s → WellFormed t → Core s → Core t →
      (join s t).orNull = ofParts true (mergeArms s.arms t.arms) := by
    intro s t hs ht hcs hct
    have hne : mergeArms s.arms t.arms ≠ [] := fun e => by
      obtain ⟨c, hc⟩ := List.exists_mem_of_ne_nil _ (absorbAll_ne_nil (hs.arms_ne_nil hcs) t.arms)
      exact absurd (mem_sortArms.2 hc) (by rw [← mergeArms, e]; simp)
    rw [join_eq_ofParts hs hcs hct, orNull_ofParts (ranked_mergeArms hs.ranked ht.ranked) hne]
  by_cases hua : a = .unknown
  · subst hua
    simp [mergeArms_nil_left hb.ranked, hb.ofParts_arms]
  by_cases hub : b = .unknown
  · subst hub
    simp [mergeArms_nil_right ha.ranked, ha.ofParts_arms]
  rcases ha.cases with h | rfl | hca | ⟨s, rfl, hcs, hs⟩
  · exact absurd h hua
  · rw [unify_null_left hb hub, hb.orNull_eq hub, arms_null, mergeArms_nil_left hb.ranked]
    rfl
  · rcases hb.cases with h | rfl | hcb | ⟨t, rfl, hct, ht⟩
    · exact absurd h hub
    · rw [unify_null_right ha hua, ha.orNull_eq hua, arms_null, mergeArms_nil_right ha.ranked]
      simp
    · rw [unify_core hca hcb, join_eq_ofParts ha hca hcb, hca.allowsNull, hcb.allowsNull]
      rfl
    · rw [unify_nullable_right hca, hjoin ha ht hca hct]
      simp
  · rcases hb.cases with h | rfl | hcb | ⟨t, rfl, hct, ht⟩
    · exact absurd h hub
    · rw [unify_null_right ha hua, ha.orNull_eq hua, arms_null, mergeArms_nil_right ha.ranked]
      simp
    · rw [unify_nullable_left hcb, hjoin hs hb hcs hcb]
      simp
    · rw [unify_nullable, hjoin hs ht hcs hct]
      simp

theorem allowsNull_unify : (unify a b).allowsNull = (a.allowsNull || b.allowsNull) := by
  rw [unify_eq_ofParts ha hb, allowsNull_ofParts (ranked_mergeArms ha.ranked hb.ranked)]

theorem arms_unify : (unify a b).arms = mergeArms a.arms b.arms := by
  rw [unify_eq_ofParts ha hb, arms_ofParts (ranked_mergeArms ha.ranked hb.ranked)]

theorem arm?_unify (f : Family) :
    (unify a b).arm? f = Option.merge unify (a.arm? f) (b.arm? f) := by
  rw [arm?, arms_unify ha hb, armOf?_mergeArms ha.ranked hb.ranked]
  rfl

end Unify

/-- **Unification keeps shapes well formed.** -/
theorem WellFormed.unify {a b : Shape} (ha : WellFormed a) (hb : WellFormed b) :
    WellFormed (unify a b) := by
  refine WellFormed.induction (P := fun a => ∀ b, WellFormed b → WellFormed (Shape.unify a b))
    (fun a ha harray hobject b hb => ?_) a ha b hb
  rw [unify_eq_ofParts ha hb]
  refine wellFormed_ofParts (ranked_mergeArms ha.ranked hb.ranked) (fun c hc => ?_) _
  rcases mem_mergeArms ha.ranked hb.ranked hc with h | h | ⟨x, hx, y, hy, hfam, rfl⟩
  · exact ha.of_mem_arms h
  · exact hb.of_mem_arms h
  · -- an arm of both operands: well formed by what is known of its elements or fields
    have hwx := ha.of_mem_arms hx
    have hwy := hb.of_mem_arms hy
    obtain ⟨f, hf⟩ := Option.ne_none_iff_exists'.1 (ha.ranked.hasFamily x hx)
    cases alike_of_family hf (hfam.symm.trans hf) with
    | array d e =>
      rw [unify_array]
      exact .array (harray d hx e (wellFormed_array_iff.1 hwy))
    | object fs gs =>
      rw [unify_object]
      refine wellFormed_mergeFields hwx hwy fun f hf g hg => ?_
      exact hobject fs hx f hf g.shape ((wellFormed_object_iff.1 hwy).2 g hg)
    | primitive hk hl hw =>
      rw [unify_primitive hk hl hw]
      exact .primitive _

end Shape

end SampleTypes
