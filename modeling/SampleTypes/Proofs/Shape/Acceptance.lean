import SampleTypes.Proofs.Shape.Samples

/-!
# Values of a shape

`accepts` tells which values a shape stands for.  For well-formed shapes it is seen through parts,
as unification is:

* null is accepted where the shape allows it (`accepts_null`);
* any other value is accepted by the arm of its family (`accepts_iff_arm?`);
* the members of an object are accepted key by key (`accepts_object_iff`).
-/

namespace SampleTypes

open Json (Value Number)

/-- The kind accepts a value; a float accepts every number. -/
def Primitive.accepts : Primitive → Value → Bool
  | .null, .null => true
  | .bool, .bool _ => true
  | .integer, .number n => Shape.ofNumber n = .integer
  | .float, .number _ => true
  | .string, .string _ => true
  | _, _ => false

namespace Shape

open Keyed (find?)

mutual

/-- The shape accepts a value. -/
def accepts : Shape → Value → Bool
  | .unknown, _ => false
  | .primitive k, v => k.accepts v
  | .object fs, .object ms => ms.all (fun m => fs.any (·.key = m.1)) && fieldsAccept fs ms
  | .object _, _ => false
  | .array e, .array vs => vs.all (accepts e)
  | .array _, _ => false
  | .nullable s, v => v.isNull || accepts s v
  | .union as, v => armsAccept as v

/-- The field accepts the value under its key, or that there is none. -/
def fieldAccepts : Field → Option Value → Bool
  | ⟨_, _, optional⟩, none => optional
  | ⟨_, s, optional⟩, some v => accepts s v || optional && v.isNull

/-- Each field accepts what the members have under its key. -/
def fieldsAccept : List Field → List (String × Value) → Bool
  | [], _ => true
  | f :: fs, ms => fieldAccepts f (Json.member? f.key ms) && fieldsAccept fs ms

/-- One of the arms accepts the value. -/
def armsAccept : List Shape → Value → Bool
  | [], _ => false
  | a :: as, v => accepts a v || armsAccept as v

end

theorem fieldsAccept_iff {fs : List Field} {ms : List (String × Value)} :
    fieldsAccept fs ms ↔ ∀ f ∈ fs, fieldAccepts f (Json.member? f.key ms) := by
  induction fs with
  | nil => simp [fieldsAccept]
  | cons f fs ih => rw [fieldsAccept, Bool.and_eq_true, ih, List.forall_mem_cons]

theorem armsAccept_iff {as : List Shape} {v : Value} :
    armsAccept as v ↔ ∃ a ∈ as, accepts a v := by
  induction as with
  | nil => simp [armsAccept]
  | cons a as ih => simp [armsAccept, ih]

/-- A field accepts what its shape accepts, and null if it is optional. -/
theorem fieldAccepts_some {f : Field} {v : Value} :
    fieldAccepts f (some v) ↔ accepts f.shape v ∨ f.optional ∧ v.isNull := by
  cases f
  rw [fieldAccepts, Bool.or_eq_true, Bool.and_eq_true]

theorem fieldAccepts_none {f : Field} : fieldAccepts f none = f.optional := by
  cases f
  rw [fieldAccepts]

/-! ### Objects key by key -/

/-- What an object shape accepts under a key for which it has the given field, if any. -/
def acceptsAt : Option Field → Option Value → Bool
  | none, v? => v?.isNone
  | some f, v? => fieldAccepts f v?

/-- **An object is accepted key by key.** -/
theorem accepts_object_iff {fs : List Field} (hd : (fs.map Field.key).Nodup)
    {ms : List (String × Value)} :
    accepts (.object fs) (.object ms)
      ↔ ∀ k, acceptsAt (find? Field.key k fs) (Json.member? k ms) := by
  rw [accepts, Bool.and_eq_true, fieldsAccept_iff, List.all_eq_true]
  constructor
  · rintro ⟨honly, hf⟩ k
    cases hk : find? Field.key k fs with
    | none =>
      have hnone : Json.member? k ms = none := by
        rw [Keyed.find?_eq_none_iff] at hk
        rw [Json.member?_eq_none_iff]
        intro hmem
        obtain ⟨m, hm, rfl⟩ := List.mem_map.1 hmem
        have := honly m hm
        exact hk (by simpa using this)
      rw [hnone]
      rfl
    | some f =>
      obtain ⟨hmem, rfl⟩ := Keyed.mem_of_find? hk
      exact hf f hmem
  · intro h
    refine ⟨fun m hm => ?_, fun f hf => ?_⟩
    · have hm' := h m.1
      cases hk : find? Field.key m.1 fs with
      | none =>
        rw [hk, acceptsAt, Option.isNone_iff_eq_none, Json.member?_eq_none_iff] at hm'
        exact absurd (List.mem_map_of_mem hm) hm'
      | some f =>
        obtain ⟨hmem, hkey⟩ := Keyed.mem_of_find? hk
        simpa using ⟨f, hmem, hkey⟩
    · have hf' := h f.key
      rwa [(Keyed.find?_eq_some_iff hd).2 ⟨hf, rfl⟩] at hf'

/-! ### Values by family -/

/-- An arm accepts only values of its family. -/
theorem family_of_accepts {a : Shape} {v : Value} (hf : a.family ≠ none) (h : accepts a v) :
    v.family = a.family := by
  cases a with
  | primitive k =>
    rw [accepts] at h
    cases k <;> cases v <;> first | (cases h; done) | rfl
  | array e => cases v <;> first | rfl | simp [accepts] at h
  | object fs => cases v <;> first | rfl | simp [accepts] at h
  | _ => exact absurd rfl hf

theorem accepts_withoutNull {s : Shape} {v : Value} :
    accepts s v ↔ accepts s.withoutNull v ∨ s.isNullable ∧ v.isNull := by
  cases s with
  | nullable s => rw [accepts, withoutNull]; simp [isNullable, or_comm]
  | _ => simp [withoutNull, isNullable]

/-- The arms of a shape accept all its values but null. -/
theorem accepts_iff_exists_arm {s : Shape} {v : Value} (hv : v.isNull = false) :
    accepts s v ↔ ∃ a ∈ s.arms, accepts a v := by
  fun_induction arms s with
  | case1 => simp [accepts]
  | case2 => cases v <;> first | (cases hv; done) | simp [accepts, Primitive.accepts]
  | case3 s ih => rw [accepts, hv, Bool.false_or, ih]
  | case4 as => rw [accepts, armsAccept_iff]
  | case5 s => simp

/-- **Null is accepted** by the shapes that allow it. -/
theorem WellFormed.accepts_null {s : Shape} (h : WellFormed s) :
    accepts s .null = s.allowsNull := by
  have hfamily : ∀ a : Shape, a.family ≠ none → accepts a .null = false := fun a ha => by
    refine Bool.eq_false_iff.2 fun hacc => ha ?_
    rw [← family_of_accepts ha hacc, Value.family]
  cases h with
  | unknown => rfl
  | primitive k => cases k <;> rfl
  | object => exact hfamily _ (by simp [family])
  | array => exact hfamily _ (by simp [family])
  | nullable => rw [accepts, Value.isNull, Bool.true_or, allowsNull_nullable]
  | union _ hr _ =>
    rw [accepts, allowsNull_union]
    refine Bool.eq_false_iff.2 fun hacc => ?_
    obtain ⟨a, ha, hacc⟩ := armsAccept_iff.1 hacc
    exact absurd hacc (by simp [hfamily a (hr.hasFamily a ha)])

/-- **A value that is not null is accepted** by the arm of its family. -/
theorem WellFormed.accepts_iff_arm? {s : Shape} (h : WellFormed s) {v : Value} {f : Family}
    (hv : v.family = some f) : accepts s v ↔ ∃ a, s.arm? f = some a ∧ accepts a v := by
  rw [accepts_iff_exists_arm (Value.isNull_of_family hv)]
  constructor
  · rintro ⟨a, ha, hacc⟩
    have hfam := family_of_accepts (h.ranked.hasFamily a ha) hacc
    exact ⟨a, h.ranked.armOf?_eq_some_iff.2 ⟨ha, hfam ▸ hv⟩, hacc⟩
  · rintro ⟨a, ha, hacc⟩
    exact ⟨a, (mem_of_armOf? ha).1, hacc⟩

end Shape

end SampleTypes
