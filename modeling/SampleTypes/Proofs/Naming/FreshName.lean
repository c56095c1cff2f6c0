import Mathlib.Data.Finset.Card
import Mathlib.Data.List.Nodup
import Mathlib.Data.List.Perm.Subperm
import Mathlib.Order.Bounds.Defs
import SampleTypes.Naming.Identifier

/-!
# Free names

`freshName` finds a free name, the one with the least number, as long as different numbers give
different names.  The numbers of `Convention.withCounter` do.

* `CountsTo` is the search for a number, told step by step, and `Numbers` what it comes to;
* `exists_numbers_freshName` says that it ends, whatever finite set of names is taken.
-/

namespace SampleTypes

namespace Ident

theorem toString_nat_injective : Function.Injective (toString : Nat → String) := by
  intro m n h
  have hdigits : Nat.toDigits 10 m = Nat.toDigits 10 n := by
    rw [← Nat.toList_repr, ← Nat.toList_repr]
    exact congrArg String.toList h
  rw [← Nat.ofDigitChars_ten_toDigits (n := m), hdigits, Nat.ofDigitChars_ten_toDigits]

/-- Different numbers give different identifiers. -/
theorem Convention.withCounter_injective (convention : Convention) (base : String) :
    Function.Injective (convention.withCounter base) := by
  intro m n h
  unfold withCounter at h
  split at h
  all_goals
    rw [String.append_right_inj] at h
    exact toString_nat_injective h

end Ident

namespace Naming

section Fresh

variable (taken : List String) {name : Nat → String}

/-- One of `taken.length + 1` names is free. -/
theorem exists_notMem_of_injective (hname : Function.Injective name) (start : Nat) :
    ∃ n ∈ List.range' start (taken.length + 1), name n ∉ taken := by
  by_contra hno
  push Not at hno
  have hsub : (List.range' start (taken.length + 1)).map name ⊆ taken := by
    intro s hs
    obtain ⟨n, hn, rfl⟩ := List.mem_map.1 hs
    exact hno n hn
  have hnodup : ((List.range' start (taken.length + 1)).map name).Nodup :=
    List.Nodup.map hname List.nodup_range'
  have hle := (List.subperm_of_subset hnodup hsub).length_le
  rw [List.length_map, List.length_range'] at hle
  omega

/-- **The fresh name is the first one that is free.** -/
theorem exists_freshName_eq (hname : Function.Injective name) :
    ∃ n, freshName taken name = name n ∧ 2 ≤ n ∧ n ≤ taken.length + 2 ∧ name n ∉ taken ∧
      ∀ m, 2 ≤ m → m < n → name m ∈ taken := by
  obtain ⟨k, hk, hfree⟩ := exists_notMem_of_injective taken hname 2
  have hsome : ((List.range' 2 (taken.length + 1)).find?
      fun n => !taken.contains (name n)).isSome := by
    rw [List.find?_isSome]
    exact ⟨k, hk, by simpa using hfree⟩
  obtain ⟨n, hn⟩ := Option.isSome_iff_exists.1 hsome
  obtain ⟨hp, hmem, hleast⟩ := List.find?_range'_eq_some.1 hn
  rw [List.mem_range'_1] at hmem
  refine ⟨n, ?_, hmem.1, by omega, by simpa using hp, fun m hm hlt => ?_⟩
  · show name (Option.getD (List.find? _ (List.range' 2 (taken.length + 1))) _) = name n
    rw [hn, Option.getD_some]
  · simpa using hleast m hm hlt

theorem freshName_notMem (hname : Function.Injective name) : freshName taken name ∉ taken := by
  obtain ⟨n, heq, -, -, hfree, -⟩ := exists_freshName_eq taken hname
  rwa [heq]

end Fresh

/-! ### Counting to a free name -/

/-- Trying the names from the number `start` on, one after the other, ends at the number `n`. -/
inductive CountsTo (taken : Finset String) (name : Nat → String) : Nat → Nat → Prop
  | free {start : Nat} (h : name start ∉ taken) : CountsTo taken name start start
  | taken {start n : Nat} (h : name start ∈ taken) (more : CountsTo taken name (start + 1) n) :
    CountsTo taken name start n

/-- What counting from two on comes to. -/
structure Numbers (taken : Finset String) (name : Nat → String) (n : Nat) : Prop where
  ends : CountsTo taken name 2 n
  least : IsLeast {k | 2 ≤ k ∧ name k ∉ taken} n
  le : n ≤ taken.card + 2

section Counting

variable {taken : Finset String} {name : Nat → String} {start n : Nat}

/-- Where the least free number is, counting ends. -/
theorem countsTo_of_isLeast (h : IsLeast {k | start ≤ k ∧ name k ∉ taken} n) :
    CountsTo taken name start n := by
  obtain ⟨⟨hle, hfree⟩, hleast⟩ := h
  obtain ⟨steps, rfl⟩ := Nat.exists_eq_add_of_le hle
  clear hle
  -- on the number of names that are tried in vain
  induction steps generalizing start with
  | zero => exact .free hfree
  | succ steps ih =>
    have htaken : name start ∈ taken := by
      by_contra hno
      have := hleast ⟨Nat.le_refl start, hno⟩
      omega
    have hnumber : start + (steps + 1) = start + 1 + steps := by omega
    rw [hnumber] at hfree hleast ⊢
    refine .taken htaken (ih ?_ hfree)
    intro k hk
    exact hleast ⟨Nat.le_of_succ_le hk.1, hk.2⟩

/-- The least free number is where counting ends, after no more names than are taken. -/
theorem numbers_of_isLeast (hname : Function.Injective name)
    (h : IsLeast {k | 2 ≤ k ∧ name k ∉ taken} n) : Numbers taken name n where
  ends := countsTo_of_isLeast h
  least := h
  le := by
    obtain ⟨k, hk, hfree⟩ := exists_notMem_of_injective taken.toList hname 2
    rw [List.mem_range'_1, Finset.length_toList] at hk
    rw [Finset.mem_toList] at hfree
    have hle := h.2 ⟨hk.1, hfree⟩
    omega

theorem Numbers.two_le (h : Numbers taken name n) : 2 ≤ n :=
  h.least.1.1

theorem Numbers.notMem (h : Numbers taken name n) : name n ∉ taken :=
  h.least.1.2

theorem Numbers.mem_of_lt (h : Numbers taken name n) {k : Nat} (hk : 2 ≤ k) (hlt : k < n) :
    name k ∈ taken := by
  by_contra hfree
  have := h.least.2 ⟨hk, hfree⟩
  omega

/-- **Counting ends**, at the first number from two on that leads to a free name. -/
theorem exists_numbers_freshName (taken : List String) (hname : Function.Injective name) :
    ∃ n, Numbers taken.toFinset name n ∧ freshName taken name = name n := by
  obtain ⟨n, heq, htwo, -, hfree, hbelow⟩ := exists_freshName_eq taken hname
  refine ⟨n, numbers_of_isLeast hname ⟨⟨htwo, ?_⟩, ?_⟩, heq⟩
  · rwa [List.mem_toFinset]
  · rintro k ⟨hk, hkfree⟩
    rw [List.mem_toFinset] at hkfree
    by_contra hlt
    exact hkfree (hbelow k hk (by omega))

end Counting

end Naming

end SampleTypes
