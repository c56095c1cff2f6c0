import Mathlib.Data.List.Forall2

/-!
# Results that may be failures

When a computation that may fail gives a result, by the results of its parts.
-/

namespace SampleTypes

variable {ε δ α β : Type} {x : Except ε α}

theorem except_map_eq_ok_iff {f : α → β} {b : β} : x.map f = .ok b ↔ ∃ a, x = .ok a ∧ f a = b := by
  cases x <;> simp [Except.map]

theorem except_mapError_eq_ok_iff {f : ε → δ} {a : α} : x.mapError f = .ok a ↔ x = .ok a := by
  cases x <;> simp [Except.mapError]

theorem except_mapError_eq_error_iff {f : ε → δ} {e : δ} :
    x.mapError f = .error e ↔ ∃ cause, x = .error cause ∧ f cause = e := by
  cases x <;> simp [Except.mapError]

theorem except_bind_eq_ok_iff {f : α → Except ε β} {b : β} :
    x >>= f = .ok b ↔ ∃ a, x = .ok a ∧ f a = .ok b := by
  cases x <;> simp [bind, Except.bind]

/-- All entries of a list have results, one for each. -/
theorem except_mapM_eq_ok_iff {f : α → Except ε β} {as : List α} {bs : List β} :
    as.mapM f = .ok bs ↔ List.Forall₂ (fun a b => f a = .ok b) as bs := by
  induction as generalizing bs with
  | nil => simp [pure, Except.pure, eq_comm]
  | cons a as ih =>
    simp only [List.mapM_cons, except_bind_eq_ok_iff, ih, pure, Except.pure, Except.ok.injEq]
    constructor
    · rintro ⟨b, hb, more, hmore, rfl⟩
      exact .cons hb hmore
    · rintro (_ | ⟨hb, hmore⟩)
      exact ⟨_, hb, _, hmore, rfl⟩

/-- A list without failures is the list of its results. -/
theorem except_mapM_id_eq_ok_iff {as : List (Except ε α)} {bs : List α} :
    as.mapM id = .ok bs ↔ as = bs.map .ok := by
  rw [except_mapM_eq_ok_iff, ← List.forall₂_eq_eq_eq, List.forall₂_map_right_iff]
  rfl

end SampleTypes
