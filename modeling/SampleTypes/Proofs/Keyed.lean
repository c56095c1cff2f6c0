import Mathlib.Data.List.Nodup

/-!
# Lists with keys

A list in which each entry has a key of its own: an entry is found by its key, and the list is
known from its keys and what is found under them.
-/

namespace SampleTypes

namespace Keyed

variable {α κ : Type} [DecidableEq κ] {key : α → κ} {l m : List α}

/-- The first entry with a key. -/
def find? (key : α → κ) (k : κ) (l : List α) : Option α :=
  l.find? (key · == k)

@[simp] theorem find?_nil (k : κ) : find? key k [] = none := rfl

theorem find?_cons (k : κ) (a : α) (l : List α) :
    find? key k (a :: l) = if key a = k then some a else find? key k l := by
  by_cases h : key a = k <;> simp [find?, h]

theorem find?_append (k : κ) (l m : List α) :
    find? key k (l ++ m) = (find? key k l).or (find? key k m) :=
  List.find?_append

theorem mem_of_find? {k : κ} {a : α} (h : find? key k l = some a) : a ∈ l ∧ key a = k :=
  ⟨List.mem_of_find?_eq_some h, by simpa using List.find?_some h⟩

/-- Nothing is found under a key that no entry has. -/
theorem find?_eq_none_iff {k : κ} : find? key k l = none ↔ k ∉ l.map key := by
  simp [find?, List.find?_eq_none]

/-- Where the keys are distinct, each entry is found under its key. -/
theorem find?_eq_some_iff (h : (l.map key).Nodup) {k : κ} {a : α} :
    find? key k l = some a ↔ a ∈ l ∧ key a = k := by
  refine ⟨mem_of_find?, fun ⟨hmem, hk⟩ => ?_⟩
  cases hb : find? key k l with
  | none => exact absurd (hk ▸ List.mem_map_of_mem hmem) (find?_eq_none_iff.1 hb)
  | some b =>
    obtain ⟨hbl, hbk⟩ := mem_of_find? hb
    rw [List.inj_on_of_nodup_map h hbl hmem (hbk.trans hk.symm)]

/-- Where the keys are distinct, no other entry has the key of one. -/
theorem filter_eq_singleton (h : (l.map key).Nodup) {a : α} (ha : a ∈ l) :
    l.filter (key · = key a) = [a] := by
  induction l with
  | nil => cases ha
  | cons b l ih =>
    rw [List.map_cons, List.nodup_cons] at h
    rcases List.mem_cons.1 ha with rfl | ha
    · have hrest : l.filter (key · = key a) = [] := by
        rw [List.filter_eq_nil_iff]
        intro c hc heq
        exact h.1 (List.mem_map.2 ⟨c, hc, of_decide_eq_true heq⟩)
      rw [List.filter_cons_of_pos (by simp), hrest]
    · have hne : key b ≠ key a := by
        intro heq
        exact h.1 (List.mem_map.2 ⟨a, ha, heq.symm⟩)
      rw [List.filter_cons_of_neg (by simpa using hne), ih h.2 ha]

/-- What is found in a list that has an entry for each of the given keys. -/
theorem find?_map {g : κ → α} (hg : ∀ k, key (g k) = k) (k : κ) (ks : List κ) :
    find? key k (ks.map g) = if k ∈ ks then some (g k) else none := by
  induction ks with
  | nil => simp
  | cons l ks ih =>
    rw [List.map_cons, find?_cons, ih, hg]
    by_cases hk : l = k
    · simp [hk]
    · simp [hk, Ne.symm hk]

/-- A list is what is found under its keys. -/
theorem filterMap_find? (h : (l.map key).Nodup) :
    (l.map key).filterMap (find? key · l) = l := by
  have hfind : ∀ a ∈ l, ((find? key · l) ∘ key) a = some a := fun a ha =>
    (find?_eq_some_iff h).2 ⟨ha, rfl⟩
  rw [List.filterMap_map, List.filterMap_congr hfind, List.filterMap_some]

/-- Lists with the same keys in the same order, and the same entry under each, are equal. -/
theorem ext (hl : (l.map key).Nodup) (hkeys : l.map key = m.map key)
    (hfind : ∀ k, find? key k l = find? key k m) : l = m := by
  have hm : (m.map key).Nodup := hkeys ▸ hl
  rw [← filterMap_find? hl, ← filterMap_find? hm, hkeys]
  exact List.filterMap_congr fun k _ => hfind k

/-- Lists with the same entry under each key are permutations of each other. -/
theorem perm (hl : (l.map key).Nodup) (hm : (m.map key).Nodup)
    (hfind : ∀ k, find? key k l = find? key k m) : l.Perm m := by
  refine (List.perm_ext_iff_of_nodup (hl.of_map key) (hm.of_map key)).2 fun a => ?_
  have hla := find?_eq_some_iff hl (k := key a) (a := a)
  have hma := find?_eq_some_iff hm (k := key a) (a := a)
  rw [hfind] at hla
  simpa using hla.symm.trans hma

end Keyed

end SampleTypes
