import Mathlib.Data.List.Perm.Basic

/-!
# Lists related entry by entry

What is needed of `List.Forall₂` beyond the library: laws of the relation that hold for the entries
at hand carry over to the lists, and an entry of one list finds its partner in the other.
-/

namespace SampleTypes

open List (Forall₂)

section Homogeneous

variable {α : Type} {r : α → α → Prop} {l m n : List α}

theorem forall₂_symm_of (h : Forall₂ r l m) (hsymm : ∀ a ∈ l, ∀ b, r a b → r b a) :
    Forall₂ r m l := by
  induction h with
  | nil => exact .nil
  | cons hab _ ih =>
    rw [List.forall_mem_cons] at hsymm
    exact .cons (hsymm.1 _ hab) (ih hsymm.2)

theorem forall₂_trans_of (hlm : Forall₂ r l m) (hmn : Forall₂ r m n)
    (htrans : ∀ a ∈ l, ∀ b c, r a b → r b c → r a c) : Forall₂ r l n := by
  induction hlm generalizing n with
  | nil => exact hmn
  | cons hab _ ih =>
    rw [List.forall_mem_cons] at htrans
    cases hmn with
    | cons hbc hmn => exact .cons (htrans.1 _ _ hab hbc) (ih hmn htrans.2)

/-- Reordering after going entry by entry can as well be done before. -/
theorem exists_perm_forall₂_of_perm (h : Forall₂ r l m) (hp : m.Perm n) :
    ∃ k, l.Perm k ∧ Forall₂ r k n := by
  have hcomp : Relation.Comp (Forall₂ r) List.Perm l n := ⟨m, h, hp⟩
  rwa [List.forall₂_comp_perm_eq_perm_comp_forall₂] at hcomp

end Homogeneous

section Heterogeneous

variable {α β γ : Type} {r r' : α → β → Prop} {l : List α} {m : List β}

theorem map_eq_of_forall₂ {f : α → γ} {g : β → γ} (h : Forall₂ r l m)
    (hf : ∀ a b, r a b → f a = g b) : l.map f = m.map g := by
  induction h with
  | nil => rfl
  | cons hab _ ih => rw [List.map_cons, List.map_cons, hf _ _ hab, ih]

theorem exists_left_of_forall₂ (h : Forall₂ r l m) : ∀ b ∈ m, ∃ a ∈ l, r a b := by
  induction h with
  | nil => simp
  | cons hab _ ih =>
    refine List.forall_mem_cons.2 ⟨⟨_, List.mem_cons_self, hab⟩, fun b hb => ?_⟩
    obtain ⟨a, ha, hrel⟩ := ih b hb
    exact ⟨a, List.mem_cons_of_mem _ ha, hrel⟩

theorem exists_right_of_forall₂ (h : Forall₂ r l m) : ∀ a ∈ l, ∃ b ∈ m, r a b := by
  intro a ha
  exact exists_left_of_forall₂ (r := flip r) h.flip a ha

/-- What holds of all entries of one list, and of all partners. -/
theorem forall_mem_iff_of_forall₂ {p : α → Prop} {q : β → Prop} (h : Forall₂ r l m)
    (hpq : ∀ a, ∀ b ∈ m, r a b → (p a ↔ q b)) : (∀ a ∈ l, p a) ↔ ∀ b ∈ m, q b := by
  constructor
  · intro hp b hb
    obtain ⟨a, ha, hab⟩ := exists_left_of_forall₂ h b hb
    exact (hpq a b hb hab).1 (hp a ha)
  · intro hq a ha
    obtain ⟨b, hb, hab⟩ := exists_right_of_forall₂ h a ha
    exact (hpq a b hb hab).2 (hq b hb)

theorem exists_getElem?_of_forall₂ (h : Forall₂ r l m) {i : Nat} {b : β} (hb : m[i]? = some b) :
    ∃ a, l[i]? = some a ∧ r a b := by
  induction h generalizing i with
  | nil => simp at hb
  | @cons a b' _ _ hab _ ih =>
    cases i with
    | zero =>
      rw [List.getElem?_cons_zero, Option.some.injEq] at hb
      exact ⟨a, rfl, hb ▸ hab⟩
    | succ i => exact ih hb

theorem forall₂_imp_of_mem_right (h : Forall₂ r l m)
    (himp : ∀ a, ∀ b ∈ m, r a b → r' a b) : Forall₂ r' l m := by
  induction h with
  | nil => exact .nil
  | cons hab _ ih =>
    exact .cons (himp _ _ List.mem_cons_self hab)
      (ih fun a b hb => himp a b (List.mem_cons_of_mem _ hb))

/-- A function that finds each entry of a list finds the list. -/
theorem mapM_eq_some_of_forall₂ {f : α → Option β} (h : Forall₂ (fun a b => f a = some b) l m) :
    l.mapM f = some m := by
  induction h with
  | nil => rfl
  | cons hab _ ih => rw [List.mapM_cons, hab, ih]; rfl

end Heterogeneous

end SampleTypes
