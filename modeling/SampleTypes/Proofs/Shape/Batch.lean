import SampleTypes.Proofs.Distinct
import SampleTypes.Proofs.Shape.Samples

/-!
# All samples at once

`batch` gives the shape of a list of samples without going through them one by one: it looks at all
values of one place together, family by family.

* Null is allowed where some value is null.
* An array's element shape is that of the elements of all arrays.
* An object has the keys of all objects, in the order in which they first come.  The field of a key
  has the shape of all values under it, null apart, and is optional where some object lacks the key
  or where null stands next to other values.
* Numbers are floats if one of them is.

`ofSamples_eq_batch` says that inference, which sees one sample at a time, comes to the same.
-/

namespace SampleTypes

namespace Json

/-- The elements of an array. -/
def Value.array? : Value → Option (List Value)
  | .array es => some es
  | _ => none

/-- The members of an object. -/
def Value.object? : Value → Option (List (String × Value))
  | .object ms => some ms
  | _ => none

/-- The number that the value is. -/
def Value.number? : Value → Option Number
  | .number n => some n
  | _ => none

end Json

open Json (Value Number)

namespace Batch

/-- The elements of each array among the samples. -/
def arrays (vs : List Value) : List (List Value) :=
  vs.filterMap Value.array?

/-- The members of each object among the samples. -/
def objects (vs : List Value) : List (List (String × Value)) :=
  vs.filterMap Value.object?

/-- The keys of some objects, in the order in which they first come. -/
def keys (os : List (List (String × Value))) : List String :=
  (os.flatMap fun ms => ms.map Prod.fst).eraseDups

/-- The values that some objects have under a key. -/
def valuesAt (key : String) (os : List (List (String × Value))) : List Value :=
  os.filterMap (Json.member? key)

/-- Null is among the values, and something else as well. -/
def mixed (vs : List Value) : Bool :=
  vs.any Value.isNull && vs.any (!·.isNull)

/-- Some object lacks the key, or null stands under it next to other values. -/
def isOptional (key : String) (os : List (List (String × Value))) : Bool :=
  os.any (fun ms => (Json.member? key ms).isNone) || mixed (valuesAt key os)

/-! ### Keys in order -/

theorem mem_keys {key : String} {os : List (List (String × Value))} :
    key ∈ keys os ↔ ∃ ms ∈ os, key ∈ ms.map Prod.fst := by
  rw [keys, List.mem_eraseDups, List.mem_flatMap]

/-- The keys of the first object come first, then the new ones of the others. -/
theorem keys_cons {ms : List (String × Value)} (h : (ms.map Prod.fst).Nodup)
    (os : List (List (String × Value))) :
    keys (ms :: os) = ms.map Prod.fst ++ (keys os).filter (· ∉ ms.map Prod.fst) := by
  rw [keys, List.flatMap_cons, List.eraseDups_append, eraseDups_of_nodup h, List.removeAll,
    eraseDups_filter, keys]
  refine congrArg _ (List.filter_congr fun k _ => ?_)
  simp

/-! ### Members of the parts -/

theorem arrays_cons_array (es : List Value) (vs : List Value) :
    arrays (.array es :: vs) = es :: arrays vs := rfl

theorem arrays_cons_of_none {v : Value} (h : v.array? = none) (vs : List Value) :
    arrays (v :: vs) = arrays vs :=
  List.filterMap_cons_none h

theorem objects_cons_object (ms : List (String × Value)) (vs : List Value) :
    objects (.object ms :: vs) = ms :: objects vs := rfl

theorem objects_cons_of_none {v : Value} (h : v.object? = none) (vs : List Value) :
    objects (v :: vs) = objects vs :=
  List.filterMap_cons_none h

theorem mem_arrays {vs es : _} : es ∈ arrays vs ↔ Value.array es ∈ vs := by
  rw [arrays, List.mem_filterMap]
  constructor
  · rintro ⟨v, hv, he⟩
    cases v <;> simp [Value.array?] at he
    exact he ▸ hv
  · exact fun hv => ⟨_, hv, rfl⟩

theorem mem_objects {vs ms : _} : ms ∈ objects vs ↔ Value.object ms ∈ vs := by
  rw [objects, List.mem_filterMap]
  constructor
  · rintro ⟨v, hv, hm⟩
    cases v <;> simp [Value.object?] at hm
    exact hm ▸ hv
  · exact fun hv => ⟨_, hv, rfl⟩

/-- The values under a key come from the members of that key. -/
theorem mem_valuesAt {key : String} {os : List (List (String × Value))} {v : Value}
    (h : v ∈ valuesAt key os) : ∃ ms ∈ os, (key, v) ∈ ms := by
  obtain ⟨ms, hms, hv⟩ := List.mem_filterMap.1 h
  exact ⟨ms, hms, Json.mem_of_member? hv⟩

theorem distinctKeys_flatten_arrays {vs : List Value} (h : ∀ v ∈ vs, v.DistinctKeys) :
    ∀ e ∈ (arrays vs).flatten, e.DistinctKeys := by
  intro e he
  obtain ⟨es, hes, hmem⟩ := List.mem_flatten.1 he
  exact Value.distinctKeys_array_iff.1 (h _ (mem_arrays.1 hes)) e hmem

theorem distinctKeys_valuesAt {vs : List Value} (h : ∀ v ∈ vs, v.DistinctKeys) (key : String) :
    ∀ w ∈ valuesAt key (objects vs), w.DistinctKeys := by
  intro w hw
  obtain ⟨ms, hms, hmem⟩ := mem_valuesAt hw
  exact (Value.distinctKeys_object_iff.1 (h _ (mem_objects.1 hms))).2 _ hmem

/-! ### Sizes -/

theorem sizeOf_append {α : Type} [SizeOf α] (xs ys : List α) :
    sizeOf (xs ++ ys) + 1 = sizeOf xs + sizeOf ys := by
  induction xs with
  | nil => simp; omega
  | cons x xs ih => simp only [List.cons_append, List.cons.sizeOf_spec]; omega

theorem sizeOf_flatten_arrays_le (vs : List Value) :
    sizeOf (arrays vs).flatten + (arrays vs).length ≤ sizeOf vs := by
  induction vs with
  | nil => simp [arrays]
  | cons v vs ih =>
    rw [List.cons.sizeOf_spec]
    cases v with
    | array es =>
      have := sizeOf_append es (arrays vs).flatten
      rw [arrays_cons_array, List.flatten_cons, List.length_cons, Value.array.sizeOf_spec]
      omega
    | _ => rw [arrays_cons_of_none rfl]; omega

theorem sizeOf_member? {key : String} {ms : List (String × Value)} {v : Value}
    (h : Json.member? key ms = some v) : sizeOf v < sizeOf ms := by
  obtain ⟨m, hm, rfl⟩ := Option.map_eq_some_iff.1 h
  have := List.sizeOf_lt_of_mem (List.mem_of_find?_eq_some hm)
  cases m
  simp only [Prod.mk.sizeOf_spec] at this ⊢
  omega

theorem sizeOf_valuesAt_le (key : String) (vs : List Value) :
    sizeOf (valuesAt key (objects vs)) + (objects vs).length ≤ sizeOf vs := by
  induction vs with
  | nil => simp [objects, valuesAt]
  | cons v vs ih =>
    rw [List.cons.sizeOf_spec]
    cases v with
    | object ms =>
      rw [objects_cons_object, List.length_cons, Value.object.sizeOf_spec, valuesAt]
      cases hm : Json.member? key ms with
      | none =>
        rw [List.filterMap_cons_none hm, ← valuesAt]
        omega
      | some v =>
        have := sizeOf_member? hm
        rw [List.filterMap_cons_some hm, List.cons.sizeOf_spec, ← valuesAt]
        omega
    | _ => rw [objects_cons_of_none rfl]; omega

theorem sizeOf_flatten_arrays_lt {vs : List Value} (h : arrays vs ≠ []) :
    sizeOf (arrays vs).flatten < sizeOf vs := by
  have := sizeOf_flatten_arrays_le vs
  have := List.length_pos_iff.2 h
  omega

theorem sizeOf_valuesAt_lt (key : String) {vs : List Value} (h : objects vs ≠ []) :
    sizeOf (valuesAt key (objects vs)) < sizeOf vs := by
  have := sizeOf_valuesAt_le key vs
  have := List.length_pos_iff.2 h
  omega

end Batch

namespace Shape

open Batch
open Keyed (find?)

/-- The arm for some numbers: a float if one of them is, else an integer. -/
def numberArm? (ns : List Number) : Option Shape :=
  if ns = [] then none
  else if ns.any (ofNumber · = .float) then some (.primitive .float)
  else some (.primitive .integer)

theorem numberArm?_cons (n : Number) (ns : List Number) :
    numberArm? (n :: ns)
      = Option.merge unify (some (.primitive (ofNumber n))) (numberArm? ns) := by
  have hkind : ofNumber n = .integer ∨ ofNumber n = .float := by cases n <;> simp [ofNumber]
  unfold numberArm?
  by_cases hns : ns = []
  · rcases hkind with h | h <;> simp [hns, h]
  · by_cases hany : ns.any (ofNumber · = .float) <;> rcases hkind with h | h <;>
      simp [hns, hany, h, unify_primitive, Primitive.widen?]

/-- The shape of a list of samples, taken all at once. -/
def batch (vs : List Value) : Shape :=
  ofParts (vs.any Value.isNull) <| ofFamilies fun
    | .array => if arrays vs = [] then none else some (.array (batch (arrays vs).flatten))
    | .object =>
      if objects vs = [] then none
      else some (.object ((keys (objects vs)).map fun key =>
        ⟨key, (batch (valuesAt key (objects vs))).withoutNull, isOptional key (objects vs)⟩))
    | .number => numberArm? (vs.filterMap Value.number?)
    | .string => if vs.any (·.family = some .string) then some (.primitive .string) else none
    | .bool => if vs.any (·.family = some .bool) then some (.primitive .bool) else none
termination_by sizeOf vs
decreasing_by
  · exact sizeOf_flatten_arrays_lt ‹_›
  · exact sizeOf_valuesAt_lt key ‹_›

/-! ### The parts of inferred shapes -/

section Parts

variable {vs : List Value} (h : ∀ v ∈ vs, v.DistinctKeys)

include h

theorem allowsNull_ofSamples : (ofSamples vs).allowsNull = vs.any Value.isNull := by
  induction vs with
  | nil => rfl
  | cons v vs ih =>
    rw [allowsNull_ofSamples_cons h, ih (List.forall_mem_cons.1 h).2, List.any_cons,
      allowsNull_ofValue]

/-- The arms are those of the samples that are not null. -/
theorem isEmpty_arms_ofSamples : (ofSamples vs).arms.isEmpty = vs.all Value.isNull := by
  induction vs with
  | nil => rfl
  | cons v vs ih =>
    have hs := List.forall_mem_cons.1 h
    have hv := wellFormed_ofValue hs.1
    have hvs := wellFormed_ofSamples hs.2
    rw [ofSamples_cons h, arms_unify hv hvs, isEmpty_mergeArms hv.ranked hvs.ranked, ih hs.2,
      List.all_cons, isEmpty_arms_ofValue]

theorem isNullable_ofSamples : (ofSamples vs).isNullable = mixed vs := by
  rw [(wellFormed_ofSamples h).isNullable_eq, allowsNull_ofSamples h, isEmpty_arms_ofSamples h,
    mixed, List.not_all_eq_any_not]

theorem arm?_array_ofSamples :
    (ofSamples vs).arm? .array
      = if arrays vs = [] then none else some (.array (ofSamples (arrays vs).flatten)) := by
  induction vs with
  | nil => rfl
  | cons v vs ih =>
    have hs := List.forall_mem_cons.1 h
    rw [arm?_ofSamples_cons h, ih hs.2, arm?_ofValue]
    cases v with
    | array es =>
      have hes := Value.distinctKeys_array_iff.1 hs.1
      rw [arrays_cons_array, Value.family, if_pos rfl, if_neg (List.cons_ne_nil _ _),
        ofValue_array]
      by_cases hvs : arrays vs = []
      · rw [if_pos hvs, hvs, Option.merge_none_right, List.flatten_cons, List.flatten_nil,
          List.append_nil]
      · rw [if_neg hvs, Option.merge_some_some, unify_array, List.flatten_cons,
          ofSamples_append hes (distinctKeys_flatten_arrays hs.2)]
    | _ => rw [arrays_cons_of_none rfl, if_neg (by simp [Value.family]), Option.merge_none_left]

/-- Where all values of a family have one shape, that is its arm. -/
theorem arm?_constant_ofSamples {f : Family} {s : Shape} (hs : unify s s = s)
    (hf : ∀ v : Value, v.family = some f → ofValue v = s) :
    (ofSamples vs).arm? f = if vs.any (·.family = some f) then some s else none := by
  induction vs with
  | nil => rfl
  | cons v vs ih =>
    rw [arm?_ofSamples_cons h, ih (List.forall_mem_cons.1 h).2, arm?_ofValue, List.any_cons]
    by_cases hv : v.family = some f
    · rw [if_pos hv, hf v hv]
      split <;> simp [hv, hs]
    · simp [hv]

theorem arm?_number_ofSamples :
    (ofSamples vs).arm? .number = numberArm? (vs.filterMap Value.number?) := by
  induction vs with
  | nil => rfl
  | cons v vs ih =>
    rw [arm?_ofSamples_cons h, ih (List.forall_mem_cons.1 h).2, arm?_ofValue]
    cases v with
    | number n =>
      have hcons : (Value.number n :: vs).filterMap Value.number?
          = n :: vs.filterMap Value.number? := rfl
      rw [hcons, Value.family, if_pos rfl, ofValue, numberArm?_cons]
    | _ =>
      rw [if_neg (by simp [Value.family]), List.filterMap_cons_none rfl, Option.merge_none_left]

end Parts

/-! ### Objects -/

/-- The field that some objects have together under a key. -/
def fieldOf (key : String) (os : List (List (String × Value))) : Field :=
  ⟨key, (ofSamples (valuesAt key os)).withoutNull, isOptional key os⟩

/-- The fields that some objects have together. -/
def fieldsOf (os : List (List (String × Value))) : List Field :=
  (keys os).map (fieldOf · os)

theorem keys_fieldsOf (os : List (List (String × Value))) :
    (fieldsOf os).map Field.key = keys os := by
  rw [fieldsOf, List.map_map]
  exact List.map_id _

theorem nodup_keys_fieldsOf (os : List (List (String × Value))) :
    ((fieldsOf os).map Field.key).Nodup := by
  rw [keys_fieldsOf]
  exact nodup_eraseDups _

theorem find?_fieldsOf (k : String) (os : List (List (String × Value))) :
    find? Field.key k (fieldsOf os) = if k ∈ keys os then some (fieldOf k os) else none :=
  Keyed.find?_map (fun _ => rfl) k _

/-- One object has its own fields. -/
theorem fieldsOf_singleton {ms : List (String × Value)} (h : (ms.map Prod.fst).Nodup) :
    fieldsOf [ms] = ofMembers ms := by
  rw [fieldsOf, keys_cons h, keys, List.flatMap_nil, List.eraseDups_nil, List.filter_nil,
    List.append_nil, List.map_map, ofMembers_eq_map]
  refine List.map_congr_left fun m hm => ?_
  have hfind := Json.member?_of_mem h hm
  have hvalues : valuesAt m.1 [ms] = [m.2] := List.filterMap_cons_some hfind
  simp [fieldOf, isOptional, hvalues, hfind, mixed, ofSamples_singleton,
    withoutNull_of_plain (isNullable_ofValue m.2)]

section OneMore

variable {k : String} {ms : List (String × Value)} {os : List (List (String × Value))} {v : Value}

/-- An object without the key makes the field optional. -/
theorem fieldOf_cons_of_lacking (hk : Json.member? k ms = none)
    (os : List (List (String × Value))) : fieldOf k (ms :: os) = (fieldOf k os).lax := by
  have hvalues : valuesAt k (ms :: os) = valuesAt k os := List.filterMap_cons_none hk
  simp [fieldOf, hvalues, isOptional, hk, Field.lax]

/-- A key that only the first of several objects has is optional. -/
theorem fieldOf_cons_of_new (hk : Json.member? k ms = some v) (hnew : k ∉ keys os)
    (hne : os ≠ []) : fieldOf k (ms :: os) = ⟨k, ofValue v, true⟩ := by
  have hlack : ∀ ms' ∈ os, Json.member? k ms' = none := fun ms' hms' =>
    Json.member?_eq_none_iff.2 fun hmem => hnew (mem_keys.2 ⟨ms', hms', hmem⟩)
  have hvalues : valuesAt k (ms :: os) = [v] := by
    rw [valuesAt, List.filterMap_cons_some hk, List.filterMap_eq_nil_iff.2 hlack]
  obtain ⟨ms', hms'⟩ := List.exists_mem_of_ne_nil os hne
  have hany : (ms :: os).any (fun ms => (Json.member? k ms).isNone) = true :=
    List.any_eq_true.2 ⟨ms', List.mem_cons_of_mem _ hms', by rw [hlack ms' hms']; rfl⟩
  rw [fieldOf, hvalues, ofSamples_singleton, withoutNull_of_plain (isNullable_ofValue v),
    isOptional, hany, Bool.true_or]

/-- One more value under a key is joined to the others. -/
theorem fieldOf_cons (hk : Json.member? k ms = some v) (hv : v.DistinctKeys)
    (hw : ∀ w ∈ valuesAt k os, w.DistinctKeys) :
    fieldOf k (ms :: os) = joinFields ⟨k, ofValue v, false⟩ (fieldOf k os) := by
  have hvalues : valuesAt k (ms :: os) = v :: valuesAt k os := List.filterMap_cons_some hk
  have hall : ∀ w ∈ v :: valuesAt k os, w.DistinctKeys := List.forall_mem_cons.2 ⟨hv, hw⟩
  -- the mark of the values before was dropped already; nothing is lost by that
  have hshape := withoutNull_unify (wellFormed_ofValue hv) (wellFormed_ofSamples hw)
  have hnull := isNullable_unify (wellFormed_ofValue hv) (wellFormed_ofSamples hw)
  rw [withoutNull_of_plain (isNullable_ofValue v)] at hshape hnull
  rw [← ofSamples_cons hall, isNullable_ofValue, isNullable_ofSamples hall,
    isNullable_ofSamples hw] at hnull
  refine Field.ext (by simp [fieldOf]) ?_ ?_
  · rw [shape_joinFields, fieldOf, fieldOf, hvalues, hshape, ofSamples_cons hall]
  · rw [optional_joinFields]
    simp only [fieldOf, isOptional, hvalues, hnull, List.any_cons, hk, Option.isNone_some,
      Bool.false_or]
    ac_rfl

/-- **The fields of one more object** are merged into those of the others. -/
theorem mergeFields_fieldsOf (hd : (ms.map Prod.fst).Nodup) (hm : ∀ m ∈ ms, m.2.DistinctKeys)
    (ho : ∀ k, ∀ w ∈ valuesAt k os, w.DistinctKeys) (hne : os ≠ []) :
    mergeFields (ofMembers ms) (fieldsOf os) = fieldsOf (ms :: os) := by
  have hdm : ((ofMembers ms).map Field.key).Nodup := by rwa [keys_ofMembers]
  have hdo := nodup_keys_fieldsOf os
  refine Keyed.ext (nodup_keys_mergeFields hdm hdo) ?_ fun k => ?_
  · rw [keys_mergeFields hdm hdo, keys_ofMembers, keys_fieldsOf, keys_fieldsOf, keys_cons hd]
  rw [find?_mergeFields hdm hdo, find?_ofMembers, find?_fieldsOf, find?_fieldsOf]
  have hkeys : k ∈ keys (ms :: os) ↔ k ∈ ms.map Prod.fst ∨ k ∈ keys os := by
    simp [mem_keys]
  cases hk : Json.member? k ms with
  | none =>
    have hkey := Json.member?_eq_none_iff.1 hk
    by_cases hko : k ∈ keys os
    · rw [if_pos hko, if_pos (hkeys.2 (.inr hko)), fieldOf_cons_of_lacking hk]
      rfl
    · rw [if_neg hko, if_neg fun h => (hkeys.1 h).elim hkey hko]
      rfl
  | some v =>
    have hmem := Json.mem_of_member? hk
    rw [if_pos (hkeys.2 (.inl (List.mem_map_of_mem hmem)))]
    by_cases hko : k ∈ keys os
    · rw [if_pos hko, fieldOf_cons hk (hm _ hmem) (ho k)]
      rfl
    · rw [if_neg hko, fieldOf_cons_of_new hk hko hne]
      rfl

end OneMore

theorem arm?_object_ofSamples {vs : List Value} (h : ∀ v ∈ vs, v.DistinctKeys) :
    (ofSamples vs).arm? .object
      = if objects vs = [] then none else some (.object (fieldsOf (objects vs))) := by
  induction vs with
  | nil => rfl
  | cons v vs ih =>
    have hs := List.forall_mem_cons.1 h
    rw [arm?_ofSamples_cons h, ih hs.2, arm?_ofValue]
    cases v with
    | object ms =>
      have hms := Value.distinctKeys_object_iff.1 hs.1
      rw [objects_cons_object, Value.family, if_pos rfl, if_neg (List.cons_ne_nil _ _), ofValue]
      by_cases hvs : objects vs = []
      · rw [if_pos hvs, hvs, Option.merge_none_right, fieldsOf_singleton hms.1]
      · rw [if_neg hvs, Option.merge_some_some, unify_object,
          mergeFields_fieldsOf hms.1 hms.2 (distinctKeys_valuesAt hs.2) hvs]
    | _ => rw [objects_cons_of_none rfl, if_neg (by simp [Value.family]), Option.merge_none_left]

/-! ### Inference in one go -/

/--
**Inference is batch inference.** Whatever nulls, missing keys and kinds of value the samples mix at
whatever depth, seeing them one after the other gives the shape that they have when all values of
each place are looked at together.
-/
theorem ofSamples_eq_batch {vs : List Value} (h : ∀ v ∈ vs, v.DistinctKeys) :
    ofSamples vs = batch vs := by
  induction vs using batch.induct with
  | case1 vs harrays hobjects =>
    rw [(wellFormed_ofSamples h).eq_ofParts, allowsNull_ofSamples h, batch]
    refine congrArg _ (congrArg _ (funext fun f => ?_))
    cases f with
    | array =>
      rw [arm?_array_ofSamples h]
      by_cases ha : arrays vs = []
      · simp [ha]
      · simp [ha, harrays ha (distinctKeys_flatten_arrays h)]
    | object =>
      rw [arm?_object_ofSamples h]
      by_cases ho : objects vs = []
      · simp [ho]
      · simp [ho, fieldsOf, fieldOf, fun k => hobjects ho k (distinctKeys_valuesAt h k)]
    | number => exact arm?_number_ofSamples h
    | string =>
      refine arm?_constant_ofSamples h (by simp [unify_primitive, Primitive.widen?]) fun v hv => ?_
      cases v <;> simp_all [Value.family, ofValue]
    | bool =>
      refine arm?_constant_ofSamples h (by simp [unify_primitive, Primitive.widen?]) fun v hv => ?_
      cases v <;> simp_all [Value.family, ofValue]

set_option maxRecDepth 4000 in
/-- Null next to values of two families, a missing key, a null under a key, and an empty array. -/
theorem batch_of_mixed_samples :
    batch [.object [("k", .number (.integer 1)), ("tags", .array [])], .null, .string "x",
        .object [("tags", .array [.string "y", .null]), ("k", .null)],
        .object [("tags", .array [])]]
      = .nullable (.union [.object [⟨"k", .primitive .integer, true⟩,
          ⟨"tags", .array (.nullable (.primitive .string)), false⟩], .primitive .string]) :=
  (ofSamples_eq_batch (by decide)).symm.trans (by cbv)

end Shape

end SampleTypes
