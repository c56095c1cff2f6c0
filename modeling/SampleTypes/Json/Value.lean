/-!
# JSON values

A value keeps the members of an object in the order in which their keys first came, each key once.
A number is an integer or a binary float; which of the two is a matter of its literal, not of its
size.
-/

namespace SampleTypes.Json

/-- A number as it was written: an integer of 64 bits, signed or unsigned, or a float. -/
inductive Number where
  | integer (value : Int)
  | float (value : Float)
deriving Inhabited, BEq

/-- A JSON value.  The keys of an object that was read are pairwise distinct. -/
inductive Value where
  | null
  | bool (value : Bool)
  | number (value : Number)
  | string (value : String)
  | array (elements : List Value)
  | object (members : List (String × Value))
deriving Inhabited

/--
Associates a key with a value.  A key that is there keeps its place and gets the new value; a new
key goes to the end.
-/
def assign {α : Type} (key : String) (value : α) : List (String × α) → List (String × α)
  | [] => [(key, value)]
  | (k, v) :: rest => if k = key then (key, value) :: rest else (k, v) :: assign key value rest

/-- The value of the first member with the given key. -/
def member? {α : Type} (key : String) (members : List (String × α)) : Option α :=
  (members.find? (·.1 == key)).map (·.2)

theorem mem_keys_assign {α : Type} (key : String) (value : α) (members : List (String × α))
    (k : String) :
    k ∈ (assign key value members).map (·.1) ↔ k = key ∨ k ∈ members.map (·.1) := by
  induction members with
  | nil => simp [assign]
  | cons head rest ih =>
    obtain ⟨k', v'⟩ := head
    by_cases h : k' = key
    · simp [assign, h]
    · simp only [assign, h, if_false, List.map_cons, List.mem_cons, ih]
      grind

/-- Associating keeps the keys distinct. -/
theorem nodup_keys_assign {α : Type} (key : String) (value : α) {members : List (String × α)}
    (h : (members.map (·.1)).Nodup) : ((assign key value members).map (·.1)).Nodup := by
  induction members with
  | nil => simp [assign]
  | cons head rest ih =>
    obtain ⟨k', v'⟩ := head
    rw [List.map_cons, List.nodup_cons] at h
    by_cases hk : k' = key
    · subst hk
      simpa [assign] using h
    · simp only [assign, hk, if_false, List.map_cons, List.nodup_cons]
      refine ⟨?_, ih h.2⟩
      rw [mem_keys_assign]
      simp only [not_or]
      exact ⟨hk, h.1⟩

end SampleTypes.Json
