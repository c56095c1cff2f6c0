import SampleTypes.Json.Reader
import SampleTypes.Proofs.Keyed
import SampleTypes.Proofs.Results

/-!
# Values with distinct keys

A value that was read has distinct keys in each of its objects, at every depth.  `DistinctKeys` says
so, it can be decided, and `distinctKeys_of_parse` shows it of every text.
-/

namespace SampleTypes

namespace Json

/-! ### Members by key -/

theorem member?_eq_none_iff {k : String} {ms : List (String × Value)} :
    member? k ms = none ↔ k ∉ ms.map Prod.fst := by
  rw [member?, Option.map_eq_none_iff]
  exact Keyed.find?_eq_none_iff

theorem mem_of_member? {k : String} {ms : List (String × Value)} {v : Value}
    (h : member? k ms = some v) : (k, v) ∈ ms := by
  obtain ⟨m, hm, rfl⟩ := Option.map_eq_some_iff.1 h
  obtain ⟨hmem, rfl⟩ := Keyed.mem_of_find? hm
  exact hmem

/-- Where the keys are distinct, the value of each member is found under its key. -/
theorem member?_of_mem {ms : List (String × Value)} (h : (ms.map Prod.fst).Nodup)
    {m : String × Value} (hm : m ∈ ms) : member? m.1 ms = some m.2 :=
  Option.map_eq_some_iff.2 ⟨m, (Keyed.find?_eq_some_iff h).2 ⟨hm, rfl⟩, rfl⟩

/-! ### Distinct keys -/

/-- The keys of every object in the value are distinct. -/
inductive Value.DistinctKeys : Value → Prop
  | null : DistinctKeys .null
  | bool (b : Bool) : DistinctKeys (.bool b)
  | number (n : Number) : DistinctKeys (.number n)
  | string (s : String) : DistinctKeys (.string s)
  | array {vs : List Value} (elements : ∀ v ∈ vs, DistinctKeys v) : DistinctKeys (.array vs)
  | object {ms : List (String × Value)} (distinct : (ms.map Prod.fst).Nodup)
      (values : ∀ m ∈ ms, DistinctKeys m.2) : DistinctKeys (.object ms)

namespace Value

theorem distinctKeys_array_iff {vs : List Value} :
    DistinctKeys (.array vs) ↔ ∀ v ∈ vs, v.DistinctKeys :=
  ⟨fun h => by cases h; assumption, .array⟩

theorem distinctKeys_object_iff {ms : List (String × Value)} :
    DistinctKeys (.object ms) ↔ (ms.map Prod.fst).Nodup ∧ ∀ m ∈ ms, m.2.DistinctKeys :=
  ⟨fun h => by cases h with | object hd hv => exact ⟨hd, hv⟩, fun h => .object h.1 h.2⟩

/-! ### Deciding it -/

mutual

/-- Tests whether the keys of every object in a value are distinct. -/
def hasDistinctKeys : Value → Bool
  | .array vs => allDistinctKeys vs
  | .object ms => decide (ms.map Prod.fst).Nodup && membersDistinctKeys ms
  | _ => true

/-- Tests all values of a list. -/
def allDistinctKeys : List Value → Bool
  | [] => true
  | v :: vs => hasDistinctKeys v && allDistinctKeys vs

/-- Tests the values of all members. -/
def membersDistinctKeys : List (String × Value) → Bool
  | [] => true
  | (_, v) :: ms => hasDistinctKeys v && membersDistinctKeys ms

end

mutual

theorem hasDistinctKeys_iff : (v : Value) → (hasDistinctKeys v = true ↔ v.DistinctKeys)
  | .null => by simp [hasDistinctKeys, DistinctKeys.null]
  | .bool b => by simp [hasDistinctKeys, DistinctKeys.bool]
  | .number n => by simp [hasDistinctKeys, DistinctKeys.number]
  | .string s => by simp [hasDistinctKeys, DistinctKeys.string]
  | .array vs => by
    rw [hasDistinctKeys, allDistinctKeys_iff vs, distinctKeys_array_iff]
  | .object ms => by
    rw [hasDistinctKeys, Bool.and_eq_true, decide_eq_true_eq, membersDistinctKeys_iff ms,
      distinctKeys_object_iff]

theorem allDistinctKeys_iff :
    (vs : List Value) → (allDistinctKeys vs = true ↔ ∀ v ∈ vs, v.DistinctKeys)
  | [] => by simp [allDistinctKeys]
  | v :: vs => by
    rw [allDistinctKeys, Bool.and_eq_true, hasDistinctKeys_iff v, allDistinctKeys_iff vs,
      List.forall_mem_cons]

theorem membersDistinctKeys_iff :
    (ms : List (String × Value)) → (membersDistinctKeys ms = true ↔ ∀ m ∈ ms, m.2.DistinctKeys)
  | [] => by simp [membersDistinctKeys]
  | (k, v) :: ms => by
    rw [membersDistinctKeys, Bool.and_eq_true, hasDistinctKeys_iff v, membersDistinctKeys_iff ms,
      List.forall_mem_cons]

end

instance : DecidablePred DistinctKeys :=
  fun v => decidable_of_iff _ (hasDistinctKeys_iff v)

end Value

/-! ### Values that were read -/

/-- The members read so far have distinct keys, and so have their values. -/
def DistinctMembers (ms : List (String × Value)) : Prop :=
  (ms.map Prod.fst).Nodup ∧ ∀ m ∈ ms, m.2.DistinctKeys

theorem mem_assign {key : String} {value : Value} {ms : List (String × Value)}
    {m : String × Value} (h : m ∈ assign key value ms) : m = (key, value) ∨ m ∈ ms := by
  induction ms with
  | nil => simpa [assign] using h
  | cons head rest ih =>
    obtain ⟨k, v⟩ := head
    rw [assign] at h
    split at h
    · rcases List.mem_cons.1 h with h | h
      · exact .inl h
      · exact .inr (List.mem_cons_of_mem _ h)
    · rcases List.mem_cons.1 h with h | h
      · exact .inr (h ▸ List.mem_cons_self)
      · exact (ih h).imp_right (List.mem_cons_of_mem _)

theorem DistinctMembers.assign {ms : List (String × Value)} (h : DistinctMembers ms) {v : Value}
    (hv : v.DistinctKeys) (key : String) : DistinctMembers (assign key v ms) :=
  ⟨nodup_keys_assign key v h.1, fun m hm => by
    rcases mem_assign hm with rfl | hm
    · exact hv
    · exact h.2 m hm⟩

/-- What the three readers return has distinct keys, with the same bound on their steps. -/
theorem distinctKeys_of_read (fuel : Nat) :
    (∀ depth c v c', readValue fuel depth c = .ok (v, c') → v.DistinctKeys) ∧
      (∀ depth first c vs c', readElements fuel depth first c = .ok (vs, c') →
        ∀ v ∈ vs, v.DistinctKeys) ∧
      ∀ depth ms first c ms' c', DistinctMembers ms →
        readMembers fuel depth ms first c = .ok (ms', c') → DistinctMembers ms' := by
  induction fuel with
  | zero =>
    refine ⟨fun _ c _ _ h => ?_, fun _ _ c _ _ h => ?_, fun _ _ _ c _ _ _ h => ?_⟩
    · rw [readValue] at h; cases h
    · rw [readElements] at h; cases h
    · rw [readMembers] at h; cases h
  | succ fuel ih =>
    obtain ⟨ihv, ihe, ihm⟩ := ih
    refine ⟨fun depth c v c' h => ?_, fun depth first c vs c' h => ?_,
      fun depth ms first c ms' c' hms h => ?_⟩
    · rw [readValue] at h
      split at h
      · cases h
      · obtain ⟨c₁, -, h⟩ := except_bind_eq_ok_iff.1 h
        cases h
        exact .null
      · obtain ⟨c₁, -, h⟩ := except_bind_eq_ok_iff.1 h
        cases h
        exact .bool true
      · obtain ⟨c₁, -, h⟩ := except_bind_eq_ok_iff.1 h
        cases h
        exact .bool false
      · obtain ⟨⟨s, c₁⟩, -, h⟩ := except_bind_eq_ok_iff.1 h
        cases h
        exact .string s
      · split at h
        · cases h
        · obtain ⟨⟨vs, c₁⟩, hvs, h⟩ := except_bind_eq_ok_iff.1 h
          cases h
          exact .array (ihe _ _ _ _ _ hvs)
      · split at h
        · cases h
        · obtain ⟨⟨ms, c₁⟩, hms, h⟩ := except_bind_eq_ok_iff.1 h
          cases h
          obtain ⟨hd, hv⟩ := ihm _ _ _ _ _ _ ⟨by simp, by simp⟩ hms
          exact .object hd hv
      · obtain ⟨⟨n, c₁⟩, -, h⟩ := except_bind_eq_ok_iff.1 h
        cases h
        exact .number n
      · split at h
        · obtain ⟨⟨n, c₁⟩, -, h⟩ := except_bind_eq_ok_iff.1 h
          cases h
          exact .number n
        · cases h
    · rw [readElements] at h
      obtain ⟨start, -, h⟩ := except_bind_eq_ok_iff.1 h
      cases start with
      | none =>
        cases h
        simp
      | some c₁ =>
        obtain ⟨⟨v, c₂⟩, hv, h⟩ := except_bind_eq_ok_iff.1 h
        obtain ⟨⟨more, c₃⟩, hmore, h⟩ := except_bind_eq_ok_iff.1 h
        cases h
        exact List.forall_mem_cons.2 ⟨ihv _ _ _ _ hv, ihe _ _ _ _ _ hmore⟩
    · rw [readMembers] at h
      obtain ⟨start, -, h⟩ := except_bind_eq_ok_iff.1 h
      cases start with
      | none =>
        cases h
        exact hms
      | some c₁ =>
        obtain ⟨⟨key, c₂⟩, -, h⟩ := except_bind_eq_ok_iff.1 h
        obtain ⟨c₃, -, h⟩ := except_bind_eq_ok_iff.1 h
        obtain ⟨⟨v, c₄⟩, hv, h⟩ := except_bind_eq_ok_iff.1 h
        exact ihm _ _ _ _ _ _ (hms.assign (ihv _ _ _ _ hv) key) h

/-- **A value that was read has distinct keys.** -/
theorem distinctKeys_of_parse {text : String} {v : Value} (h : parse text = .ok v) :
    v.DistinctKeys := by
  obtain ⟨⟨w, c⟩, hw, h⟩ := except_bind_eq_ok_iff.1 h
  obtain ⟨_, -, h⟩ := except_bind_eq_ok_iff.1 h
  cases h
  exact (distinctKeys_of_read _).1 _ _ _ _ hw

end Json

end SampleTypes
