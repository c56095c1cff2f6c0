import SampleTypes.Proofs.Json.DistinctKeys
import SampleTypes.Proofs.Shape.Associativity
import SampleTypes.Shape.Infer

/-!
# Shapes of samples

The shape of a value with distinct keys is well formed, and so is what inference makes of a list of
such values.  Since unification is associative, a list of samples can be cut anywhere: the shape of
the whole is that of its parts, unified.
-/

namespace SampleTypes

open Json (Value)

/-- The family of a value; null has none. -/
def Json.Value.family : Value → Option Shape.Family
  | .null => none
  | .bool _ => some .bool
  | .number _ => some .number
  | .string _ => some .string
  | .array _ => some .array
  | .object _ => some .object

/-- The value is null. -/
def Json.Value.isNull : Value → Bool
  | .null => true
  | _ => false

theorem Json.Value.family_eq_none_iff {v : Value} : v.family = none ↔ v = .null := by
  cases v <;> simp [Value.family]

theorem Json.Value.isNull_iff {v : Value} : v.isNull ↔ v = .null := by
  cases v <;> simp [Value.isNull]

/-- A value that has a family is not null. -/
theorem Json.Value.isNull_of_family {v : Value} {f : Shape.Family} (h : v.family = some f) :
    v.isNull = false := by
  rw [Bool.eq_false_iff]
  intro hn
  obtain rfl := Value.isNull_iff.1 hn
  cases h

namespace Shape

open Keyed (find?)

/-! ### The shape of one value -/

@[simp] theorem family_ofValue (v : Value) : (ofValue v).family = v.family := by
  cases v with
  | number n => cases n <;> simp [ofValue, ofNumber, family, Value.family]
  | _ => simp [ofValue, family, Value.family]

theorem allowsNull_ofValue (v : Value) : (ofValue v).allowsNull = v.isNull := by
  cases v with
  | number n => cases n <;> simp [ofValue, ofNumber, allowsNull, Value.isNull]
  | _ => simp [ofValue, allowsNull, Value.isNull]

theorem isEmpty_arms_ofValue (v : Value) : (ofValue v).arms.isEmpty = v.isNull := by
  cases v with
  | number n => cases n <;> simp [ofValue, ofNumber, arms, Value.isNull]
  | _ => simp [ofValue, arms, Value.isNull]

/-- The shape of a value has at most one arm, that of its family. -/
theorem arm?_ofValue (v : Value) (f : Family) :
    (ofValue v).arm? f = if v.family = some f then some (ofValue v) else none := by
  cases hv : v.family with
  | none =>
    obtain rfl := Value.family_eq_none_iff.1 hv
    rw [ofValue, arm?, arms_null, armOf?_nil, if_neg (by simp)]
  | some g =>
    have harms : (ofValue v).arms = [ofValue v] := arms_of_family (by simp [hv])
    rw [arm?, harms, armOf?_cons, armOf?_nil, family_ofValue, hv]

theorem ofSamples_eq_foldl (values : List Value) :
    ofSamples values = values.foldl (fun s v => unify s (ofValue v)) .unknown := by
  rw [ofSamples, Inference.ofSamples, Inference.shape_foldl_observe]

theorem ofMembers_eq_map (ms : List (String × Value)) :
    ofMembers ms = ms.map fun m => ⟨m.1, ofValue m.2, false⟩ := by
  induction ms with
  | nil => rw [ofMembers, List.map_nil]
  | cons m ms ih => rw [ofMembers, List.map_cons, ih]

theorem keys_ofMembers (ms : List (String × Value)) :
    (ofMembers ms).map Field.key = ms.map Prod.fst := by
  rw [ofMembers_eq_map, List.map_map]
  rfl

theorem find?_ofMembers (k : String) (ms : List (String × Value)) :
    find? Field.key k (ofMembers ms)
      = (Json.member? k ms).map fun v => ⟨k, ofValue v, false⟩ := by
  induction ms with
  | nil => simp [ofMembers, Json.member?]
  | cons m ms ih =>
    rw [ofMembers, Keyed.find?_cons, ih]
    by_cases hk : m.1 = k <;> simp [Json.member?, hk]

theorem isNullable_ofValue (v : Value) : (ofValue v).isNullable = false := by
  cases v <;> rw [ofValue] <;> rfl

theorem wellFormed_foldl {s : Shape} (hs : WellFormed s) {values : List Value}
    (h : ∀ v ∈ values, WellFormed (ofValue v)) :
    WellFormed (values.foldl (fun s v => unify s (ofValue v)) s) := by
  induction values generalizing s with
  | nil => exact hs
  | cons v vs ih =>
    rw [List.forall_mem_cons] at h
    exact ih (hs.unify h.1) h.2

theorem wellFormed_ofValue {v : Value} (h : v.DistinctKeys) : WellFormed (ofValue v) := by
  induction h with
  | null | bool | number | string => rw [ofValue]; exact .primitive _
  | array _ ih =>
    rw [ofValue_array, ofSamples_eq_foldl]
    exact .array (wellFormed_foldl .unknown ih)
  | @object ms hd _ ih =>
    rw [ofValue, ofMembers_eq_map]
    refine .object ?_ (fun f hf => ?_) (fun f hf => ?_)
    · rwa [List.map_map]
    · obtain ⟨m, -, rfl⟩ := List.mem_map.1 hf
      exact isNullable_ofValue m.2
    · obtain ⟨m, hm, rfl⟩ := List.mem_map.1 hf
      exact ih m hm

/-- Inference makes well-formed shapes. -/
theorem wellFormed_ofSamples {values : List Value} (h : ∀ v ∈ values, v.DistinctKeys) :
    WellFormed (ofSamples values) := by
  rw [ofSamples_eq_foldl]
  exact wellFormed_foldl .unknown fun v hv => wellFormed_ofValue (h v hv)

/-- Samples that come after a shape count as a shape of their own. -/
theorem foldl_unify_ofValue {s : Shape} (hs : WellFormed s) {values : List Value}
    (h : ∀ v ∈ values, v.DistinctKeys) :
    values.foldl (fun s v => unify s (ofValue v)) s = unify s (ofSamples values) := by
  induction values generalizing s with
  | nil => rw [List.foldl_nil, ofSamples_nil, unify_unknown_right]
  | cons v vs ih =>
    rw [List.forall_mem_cons] at h
    have hv := wellFormed_ofValue h.1
    rw [ofSamples_eq_foldl, List.foldl_cons, List.foldl_cons, unify_unknown_left,
      ih (hs.unify hv) h.2, ih hv h.2, unify_assoc hs hv (wellFormed_ofSamples h.2)]

/-- **Inference turns appending into unification.** -/
theorem ofSamples_append {xs ys : List Value} (hx : ∀ v ∈ xs, v.DistinctKeys)
    (hy : ∀ v ∈ ys, v.DistinctKeys) :
    ofSamples (xs ++ ys) = unify (ofSamples xs) (ofSamples ys) := by
  rw [ofSamples_eq_foldl, List.foldl_append, ← ofSamples_eq_foldl,
    foldl_unify_ofValue (wellFormed_ofSamples hx) hy]

theorem ofSamples_singleton (v : Value) : ofSamples [v] = ofValue v := by
  rw [ofSamples_eq_foldl, List.foldl_cons, List.foldl_nil, unify_unknown_left]

section Cons

variable {v : Value} {vs : List Value} (h : ∀ w ∈ v :: vs, w.DistinctKeys)

include h

theorem ofSamples_cons : ofSamples (v :: vs) = unify (ofValue v) (ofSamples vs) := by
  rw [List.forall_mem_cons] at h
  rw [← ofSamples_singleton, ← ofSamples_append (by simpa using h.1) h.2, List.singleton_append]

theorem allowsNull_ofSamples_cons :
    (ofSamples (v :: vs)).allowsNull = ((ofValue v).allowsNull || (ofSamples vs).allowsNull) := by
  rw [ofSamples_cons h]
  rw [List.forall_mem_cons] at h
  exact allowsNull_unify (wellFormed_ofValue h.1) (wellFormed_ofSamples h.2)

theorem arm?_ofSamples_cons (f : Family) :
    (ofSamples (v :: vs)).arm? f
      = Option.merge unify ((ofValue v).arm? f) ((ofSamples vs).arm? f) := by
  rw [ofSamples_cons h]
  rw [List.forall_mem_cons] at h
  exact arm?_unify (wellFormed_ofValue h.1) (wellFormed_ofSamples h.2) f

end Cons

/--
**Samples may be grouped in any way.** Unification is associative on well-formed shapes, the unknown
shape is neutral on either side, and the shape of a list of samples is that of its two parts,
unified.
-/
theorem unify_regroup_and_ofSamples_append :
    (∀ a b c : Shape, a.WellFormed → b.WellFormed → c.WellFormed →
        unify (unify a b) c = unify a (unify b c)) ∧
      (∀ a : Shape, unify .unknown a = a ∧ unify a .unknown = a) ∧
      ∀ xs ys : List Value, (∀ v ∈ xs, v.DistinctKeys) → (∀ v ∈ ys, v.DistinctKeys) →
        ofSamples (xs ++ ys) = unify (ofSamples xs) (ofSamples ys) :=
  ⟨fun _ _ _ ha hb hc => unify_assoc ha hb hc,
    fun a => ⟨unify_unknown_left a, unify_unknown_right a⟩,
    fun _ _ hx hy => ofSamples_append hx hy⟩

set_option maxRecDepth 4000 in
/-- Null under a key, beside arms and around an object; keys that come and go. -/
theorem unify_regroup_marked_shapes :
    unify (.object [⟨"k", .null, false⟩])
        (unify (.union [.object [⟨"n", .array .unknown, true⟩], .primitive .string])
          (.nullable (.object [⟨"k", .primitive .integer, false⟩])))
        = .nullable (.union [.object [⟨"k", .primitive .integer, true⟩,
            ⟨"n", .array .unknown, true⟩], .primitive .string]) ∧
      ofSamples ([.object [("k", .null)], .null] ++ [.object [("k", .bool true), ("n", .null)]])
        = unify (ofSamples [.object [("k", .null)], .null])
            (ofSamples [.object [("k", .bool true), ("n", .null)]]) :=
  ⟨(unify_regroup_and_ofSamples_append.1 _ _ _ (by decide) (by decide) (by decide)).symm.trans
      (by cbv),
    unify_regroup_and_ofSamples_append.2.2 _ _ (by decide) (by decide)⟩

end Shape

end SampleTypes
