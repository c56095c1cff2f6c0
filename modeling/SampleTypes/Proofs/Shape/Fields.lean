import SampleTypes.Proofs.Shape.WellFormed
import SampleTypes.Shape.Unify

/-!
# Merging the fields of objects

What `join` makes of two objects, seen through the keys and through what is found under a key.  The
fields of a well-formed object have distinct keys, so replacing and adding fields one by one comes
to this:

* the keys are those of the left operand and then the new ones of the right (`keys_mergeFields`);
* the field under a key is `joinField?` of what the operands have under it (`find?_mergeFields`).
-/

namespace SampleTypes

/-- The field, which may be absent. -/
def Field.lax (f : Field) : Field := { f with optional := true }

@[simp] theorem Field.key_lax (f : Field) : f.lax.key = f.key := rfl
@[simp] theorem Field.shape_lax (f : Field) : f.lax.shape = f.shape := rfl
@[simp] theorem Field.optional_lax (f : Field) : f.lax.optional = true := rfl
@[simp] theorem Field.lax_lax (f : Field) : f.lax.lax = f.lax := rfl

theorem Field.ext {f g : Field} (key : f.key = g.key) (shape : f.shape = g.shape)
    (optional : f.optional = g.optional) : f = g := by
  cases f
  cases g
  simp_all

namespace Shape

open Keyed (find?)

/-- The fields of the join of two objects. -/
def mergeFields (fs gs : List Field) : List Field :=
  addMissing (lastByKey (mergeEach fs gs)) gs

/-- The field for two fields of one key. -/
def joinFields (f g : Field) : Field :=
  foldNull ⟨f.key, unify f.shape g.shape, f.optional || g.optional⟩

/-- The field under a key of which two objects have what is given. -/
def joinField? : Option Field → Option Field → Option Field
  | none, none => none
  | some f, none => some f.lax
  | none, some g => some g.lax
  | some f, some g => some (joinFields f g)

theorem foldNull_eq (f : Field) :
    foldNull f = ⟨f.key, f.shape.withoutNull, f.shape.isNullable || f.optional⟩ := by
  obtain ⟨key, shape, optional⟩ := f
  cases shape <;> rfl

@[simp] theorem key_joinFields (f g : Field) : (joinFields f g).key = f.key := by
  rw [joinFields, foldNull_eq]

@[simp] theorem shape_joinFields (f g : Field) :
    (joinFields f g).shape = (unify f.shape g.shape).withoutNull := by
  rw [joinFields, foldNull_eq]

@[simp] theorem optional_joinFields (f g : Field) :
    (joinFields f g).optional
      = ((unify f.shape g.shape).isNullable || (f.optional || g.optional)) := by
  rw [joinFields, foldNull_eq]

variable {fs gs : List Field}

/-! ### Each field of the left operand -/

theorem mergeEach_eq_map (fs gs : List Field) :
    mergeEach fs gs = fs.map fun f =>
      match find? Field.key f.key gs with
      | none => f.lax
      | some g => joinFields f g := by
  induction fs with
  | nil => rw [mergeEach, List.map_nil]
  | cons f fs ih =>
    rw [mergeEach, List.map_cons, ih]
    simp only [List.cons.injEq, and_true]
    split <;> rename_i h <;> rw [find?, h] <;> rfl

theorem keys_mergeEach (fs gs : List Field) :
    (mergeEach fs gs).map Field.key = fs.map Field.key := by
  rw [mergeEach_eq_map, List.map_map]
  refine List.map_congr_left fun f _ => ?_
  simp only [Function.comp_apply]
  split <;> simp

theorem find?_mergeEach (k : String) (fs gs : List Field) :
    find? Field.key k (mergeEach fs gs)
      = (find? Field.key k fs).bind fun f => joinField? (some f) (find? Field.key k gs) := by
  rw [mergeEach_eq_map]
  induction fs with
  | nil => rfl
  | cons f fs ih =>
    rw [List.map_cons, Keyed.find?_cons, Keyed.find?_cons, ih]
    by_cases hk : f.key = k
    · subst hk
      cases find? Field.key f.key gs <;> simp [joinField?]
    · cases find? Field.key f.key gs <;> simp [hk]

/-! ### Putting fields one by one -/

theorem putField_of_notMem {f : Field} (h : f.key ∉ fs.map Field.key) :
    putField f fs = fs ++ [f] := by
  induction fs with
  | nil => rfl
  | cons g gs ih =>
    simp only [List.map_cons, List.mem_cons, not_or] at h
    rw [putField, if_neg (fun e => h.1 e.symm), ih h.2, List.cons_append]

/-- Fields with distinct keys stay as they are. -/
theorem lastByKey_of_nodup (h : (fs.map Field.key).Nodup) : lastByKey fs = fs := by
  -- what was put before stays in front, and nothing in it is replaced
  have hfold : ∀ (fs out : List Field), ((out ++ fs).map Field.key).Nodup →
      fs.foldl (fun out f => putField f out) out = out ++ fs := by
    intro fs
    induction fs with
    | nil => simp
    | cons f fs ih =>
      intro out hn
      have hf : f.key ∉ out.map Field.key := by
        rw [List.map_append, List.nodup_append] at hn
        exact fun hmem => hn.2.2 _ hmem _ (by simp) rfl
      rw [List.foldl_cons, putField_of_notMem hf, ih _ (by simpa using hn)]
      simp
  simpa [lastByKey] using hfold fs [] (by simpa using h)

theorem addMissing_cons (fs : List Field) (g : Field) (gs : List Field) :
    addMissing fs (g :: gs)
      = if g.key ∈ fs.map Field.key then addMissing fs gs else addMissing (fs ++ [g.lax]) gs := by
  have hany : fs.any (·.key == g.key) = decide (g.key ∈ fs.map Field.key) := by
    rw [Bool.eq_iff_iff]
    simp
  rw [addMissing, hany]
  simp only [decide_eq_true_eq, Field.lax]

theorem addMissing_of_nodup (h : (gs.map Field.key).Nodup) (fs : List Field) :
    addMissing fs gs = fs ++ (gs.filter fun g => g.key ∉ fs.map Field.key).map Field.lax := by
  induction gs generalizing fs with
  | nil => simp [addMissing]
  | cons g gs ih =>
    rw [List.map_cons, List.nodup_cons] at h
    rw [addMissing_cons]
    by_cases hmem : g.key ∈ fs.map Field.key
    · rw [if_pos hmem, ih h.2, List.filter_cons_of_neg (by simpa using hmem)]
    · -- the other fields of `gs` have other keys than `g`
      have hfilter : (gs.filter fun g' => g'.key ∉ (fs ++ [g.lax]).map Field.key)
          = gs.filter fun g' => g'.key ∉ fs.map Field.key := by
        refine List.filter_congr fun g' hg' => ?_
        have hne : g'.key ≠ g.key := fun e => h.1 (e ▸ List.mem_map_of_mem hg')
        simp [hne]
      rw [if_neg hmem, ih h.2, hfilter, List.filter_cons_of_pos (by simpa using hmem),
        List.map_cons, List.append_assoc, List.singleton_append]

/-! ### The merged fields -/

theorem mergeFields_eq (hf : (fs.map Field.key).Nodup) (hg : (gs.map Field.key).Nodup) :
    mergeFields fs gs
      = mergeEach fs gs ++ (gs.filter fun g => g.key ∉ fs.map Field.key).map Field.lax := by
  have hkeys := keys_mergeEach fs gs
  rw [mergeFields, lastByKey_of_nodup (hkeys ▸ hf), addMissing_of_nodup hg, hkeys]

/-- The keys of the left operand come first, then those that only the right one has. -/
theorem keys_mergeFields (hf : (fs.map Field.key).Nodup) (hg : (gs.map Field.key).Nodup) :
    (mergeFields fs gs).map Field.key
      = fs.map Field.key ++ (gs.map Field.key).filter (· ∉ fs.map Field.key) := by
  rw [mergeFields_eq hf hg, List.map_append, keys_mergeEach, List.filter_map, List.map_map]
  rfl

theorem nodup_keys_mergeFields (hf : (fs.map Field.key).Nodup) (hg : (gs.map Field.key).Nodup) :
    ((mergeFields fs gs).map Field.key).Nodup := by
  rw [keys_mergeFields hf hg, List.nodup_append]
  refine ⟨hf, hg.filter _, fun k hk l hl e => ?_⟩
  rw [List.mem_filter, decide_eq_true_eq] at hl
  exact hl.2 (e ▸ hk)

theorem find?_filter_lax (k : String) (gs : List Field) (p : String → Bool) :
    find? Field.key k ((gs.filter fun g => p g.key).map Field.lax)
      = if p k then (find? Field.key k gs).map Field.lax else none := by
  induction gs with
  | nil => simp
  | cons g gs ih =>
    by_cases hk : g.key = k
    · subst hk
      by_cases hp : p g.key <;> simp [hp, Keyed.find?_cons, ih]
    · by_cases hp : p g.key <;> simp [hp, Keyed.find?_cons, ih, hk]

/-- What is found under a key depends on what the operands have under it, and on nothing else. -/
theorem find?_mergeFields (hf : (fs.map Field.key).Nodup) (hg : (gs.map Field.key).Nodup)
    (k : String) :
    find? Field.key k (mergeFields fs gs)
      = joinField? (find? Field.key k fs) (find? Field.key k gs) := by
  rw [mergeFields_eq hf hg, Keyed.find?_append, find?_mergeEach,
    find?_filter_lax k gs fun k => decide (k ∉ fs.map Field.key)]
  cases hk : find? Field.key k fs with
  | none =>
    rw [Keyed.find?_eq_none_iff] at hk
    cases find? Field.key k gs <;> simp [hk, joinField?]
  | some f =>
    cases find? Field.key k gs <;> simp [joinField?]

/-- Each merged field comes from one operand, or from both. -/
theorem mem_mergeFields (hf : (fs.map Field.key).Nodup) (hg : (gs.map Field.key).Nodup) {h : Field}
    (hmem : h ∈ mergeFields fs gs) :
    (∃ f ∈ fs, h = f.lax) ∨ (∃ g ∈ gs, h = g.lax) ∨ ∃ f ∈ fs, ∃ g ∈ gs, h = joinFields f g := by
  have hfind := (Keyed.find?_eq_some_iff (nodup_keys_mergeFields hf hg)).2 ⟨hmem, rfl⟩
  rw [find?_mergeFields hf hg] at hfind
  cases hf' : find? Field.key h.key fs with
  | none =>
    cases hg' : find? Field.key h.key gs with
    | none => simp [hf', hg', joinField?] at hfind
    | some g =>
      simp only [hf', hg', joinField?, Option.some.injEq] at hfind
      exact .inr (.inl ⟨g, (Keyed.mem_of_find? hg').1, hfind.symm⟩)
  | some f =>
    have hfs := (Keyed.mem_of_find? hf').1
    cases hg' : find? Field.key h.key gs with
    | none =>
      simp only [hf', hg', joinField?, Option.some.injEq] at hfind
      exact .inl ⟨f, hfs, hfind.symm⟩
    | some g =>
      simp only [hf', hg', joinField?, Option.some.injEq] at hfind
      exact .inr (.inr ⟨f, hfs, g, (Keyed.mem_of_find? hg').1, hfind.symm⟩)

/-- Merged fields are those of a well-formed object, if the shapes under common keys unify to
well-formed ones. -/
theorem wellFormed_mergeFields (hf : WellFormed (.object fs)) (hg : WellFormed (.object gs))
    (hu : ∀ f ∈ fs, ∀ g ∈ gs, WellFormed (unify f.shape g.shape)) :
    WellFormed (.object (mergeFields fs gs)) := by
  cases hf with
  | object hfd hfp hfw =>
    cases hg with
    | object hgd hgp hgw =>
      have hcases := fun h hmem => mem_mergeFields hfd hgd (h := h) hmem
      refine .object (nodup_keys_mergeFields hfd hgd) (fun h hmem => ?_) (fun h hmem => ?_)
      · rcases hcases h hmem with ⟨f, hfs, rfl⟩ | ⟨g, hgs, rfl⟩ | ⟨f, hfs, g, hgs, rfl⟩
        · exact hfp f hfs
        · exact hgp g hgs
        · rw [shape_joinFields]
          exact (hu f hfs g hgs).isNullable_withoutNull
      · rcases hcases h hmem with ⟨f, hfs, rfl⟩ | ⟨g, hgs, rfl⟩ | ⟨f, hfs, g, hgs, rfl⟩
        · exact hfw f hfs
        · exact hgw g hgs
        · rw [shape_joinFields]
          exact (hu f hfs g hgs).withoutNull

end Shape

end SampleTypes
