import Mathlib.Data.List.Basic
import Mathlib.Data.List.Induction
import Mathlib.Data.List.Nodup

/-!
# Distinct entries

`nodup_map_of_split` shows a list to have distinct entries by looking back from each of them.
`List.eraseDups` keeps of equal entries the first.  What is needed of it beyond the library: that
the entries kept are distinct and in order, and how it goes along with `filter` and `++`.
-/

namespace SampleTypes

/-- Entries are distinct if none repeats what stands before it. -/
theorem nodup_map_of_split {α β : Type} {f : α → β} {l : List α}
    (h : ∀ before a after, l = before ++ a :: after → f a ∉ before.map f) : (l.map f).Nodup := by
  induction l using List.reverseRecOn with
  | nil => exact .nil
  | append_singleton l a ih =>
    rw [List.map_append, List.map_singleton, ← List.concat_eq_append, List.nodup_concat]
    refine ⟨h l a [] rfl, ih fun before b after hsplit => h before b (after ++ [a]) ?_⟩
    rw [hsplit, List.append_assoc, List.cons_append]

/-! ### Erasing duplicates -/

variable {α : Type} [BEq α] [LawfulBEq α]

theorem eraseDups_filter (p : α → Bool) (l : List α) :
    (l.filter p).eraseDups = l.eraseDups.filter p := by
  induction hn : l.length using Nat.strongRecOn generalizing l with
  | _ n ih =>
    cases l with
    | nil => rfl
    | cons a l =>
      have hlen : (l.filter fun b => !b == a).length < n := by
        have := List.length_filter_le (fun b => !b == a) l
        rw [List.length_cons] at hn
        omega
      rw [List.eraseDups_cons, List.filter_cons, List.filter_cons, ← ih _ hlen _ rfl,
        List.filter_filter]
      by_cases hp : p a
      · rw [if_pos hp, if_pos hp, List.eraseDups_cons, List.filter_filter]
        simp only [Bool.and_comm]
      · rw [if_neg hp, if_neg hp]
        -- what `p` keeps is different from `a` anyway
        refine congrArg _ (List.filter_congr fun b _ => ?_)
        by_cases hb : b = a
        · subst hb
          simpa using hp
        · simp [hb]

theorem nodup_eraseDups (l : List α) : l.eraseDups.Nodup := by
  induction hn : l.length using Nat.strongRecOn generalizing l with
  | _ n ih =>
    cases l with
    | nil => simp
    | cons a l =>
      have := List.length_filter_le (fun b => !b == a) l
      rw [List.length_cons] at hn
      rw [List.eraseDups_cons, List.nodup_cons]
      exact ⟨by simp, ih _ (by omega) _ rfl⟩

theorem eraseDups_of_nodup {l : List α} (h : l.Nodup) : l.eraseDups = l := by
  induction l with
  | nil => rfl
  | cons a l ih =>
    rw [List.nodup_cons] at h
    have hfilter : (l.filter fun b => !b == a) = l :=
      List.filter_eq_self.2 fun b hb => by simpa using fun e : b = a => h.1 (e ▸ hb)
    rw [List.eraseDups_cons, hfilter, ih h.2]

/-- Entries that are there already add nothing. -/
theorem eraseDups_append_of_subset {l m : List α} (h : m ⊆ l) :
    (l ++ m).eraseDups = l.eraseDups := by
  have hnone : m.removeAll l = [] := by
    rw [List.removeAll, List.filter_eq_nil_iff]
    intro a ha
    simpa using h ha
  rw [List.eraseDups_append, hnone, List.eraseDups_nil, List.append_nil]

/-- A new entry comes last. -/
theorem eraseDups_concat {l : List α} {a : α} (h : a ∉ l) :
    (l ++ [a]).eraseDups = l.eraseDups ++ [a] := by
  have hnew : [a].removeAll l = [a] := by
    rw [List.removeAll, List.filter_eq_self]
    simpa using h
  rw [List.eraseDups_append, hnew, eraseDups_of_nodup (List.nodup_singleton a)]

theorem idxOf_lt_idxOf_concat {l : List α} {a b : α} (ha : a ∈ l) (hb : b ∉ l) :
    (l ++ [b]).idxOf a < (l ++ [b]).idxOf b := by
  rw [List.idxOf_append_of_mem ha, List.idxOf_append_of_notMem hb]
  exact Nat.lt_add_right _ (List.idxOf_lt_length_of_mem ha)

/-- The entries kept stand in the order in which they first come. -/
theorem idxOf_eraseDups_lt_iff {l : List α} {a b : α} (ha : a ∈ l) (hb : b ∈ l) :
    l.eraseDups.idxOf a < l.eraseDups.idxOf b ↔ l.idxOf a < l.idxOf b := by
  induction l using List.reverseRecOn with
  | nil => cases ha
  | append_singleton l c ih =>
    by_cases hc : c ∈ l
    · have hold : ∀ d ∈ l ++ [c], d ∈ l :=
        List.forall_mem_append.2 ⟨fun _ hd => hd, List.forall_mem_singleton.2 hc⟩
      rw [eraseDups_append_of_subset (by simpa using hc), List.idxOf_append_of_mem (hold a ha),
        List.idxOf_append_of_mem (hold b hb)]
      exact ih (hold a ha) (hold b hb)
    · have hkept : c ∉ l.eraseDups := by rwa [List.mem_eraseDups]
      rw [eraseDups_concat hc]
      rw [List.mem_append, List.mem_singleton] at ha hb
      rcases ha with ha | rfl <;> rcases hb with hb | rfl
      · rw [List.idxOf_append_of_mem ha, List.idxOf_append_of_mem hb,
          List.idxOf_append_of_mem (List.mem_eraseDups.2 ha),
          List.idxOf_append_of_mem (List.mem_eraseDups.2 hb)]
        exact ih ha hb
      · exact iff_of_true (idxOf_lt_idxOf_concat (List.mem_eraseDups.2 ha) hkept)
          (idxOf_lt_idxOf_concat ha hc)
      · exact iff_of_false (Nat.lt_asymm (idxOf_lt_idxOf_concat (List.mem_eraseDups.2 hb) hkept))
          (Nat.lt_asymm (idxOf_lt_idxOf_concat hb hc))
      · exact iff_of_false (Nat.lt_irrefl _) (Nat.lt_irrefl _)
end SampleTypes
