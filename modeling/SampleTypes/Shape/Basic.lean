/-!
# Shapes

The shape of a set of samples: which kinds of JSON value were seen, and what is known of their
parts.  Shapes are plain data; a shape that inference produces obeys further rules, which are stated
apart from the type because a shape may also be given from outside.
-/

namespace SampleTypes

/-- The kinds of value that have no parts. -/
inductive Primitive where
  | null
  | bool
  | integer
  | float
  | string
deriving DecidableEq, Repr, Inhabited

mutual

/-- What is known of the values at one place. -/
inductive Shape where
  /-- No value was seen. -/
  | unknown
  | primitive (kind : Primitive)
  /-- An object; its fields stand in the order in which they were first seen. -/
  | object (fields : List Field)
  | array (element : Shape)
  /-- `inner`, or null. -/
  | nullable (inner : Shape)
  /-- One of several shapes. -/
  | union (arms : List Shape)

/-- One field of an object. -/
structure Field where
  key : String
  shape : Shape
  /-- Some object had no such field, or held null there next to other values. -/
  optional : Bool

end

instance : Inhabited Shape := ⟨.unknown⟩

namespace Shape

/-- The shape of null. -/
abbrev null : Shape := .primitive .null

mutual

/-- Two shapes are the same. -/
def beq : Shape → Shape → Bool
  | .unknown, .unknown => true
  | .primitive k, .primitive l => k == l
  | .object fs, .object gs => beqFields fs gs
  | .array a, .array b => beq a b
  | .nullable a, .nullable b => beq a b
  | .union as, .union bs => beqArms as bs
  | _, _ => false

/-- Two lists of fields are the same. -/
def beqFields : List Field → List Field → Bool
  | [], [] => true
  | ⟨k, a, o⟩ :: fs, ⟨l, b, p⟩ :: gs => k == l && beq a b && o == p && beqFields fs gs
  | _, _ => false

/-- Two lists of arms are the same. -/
def beqArms : List Shape → List Shape → Bool
  | [], [] => true
  | a :: as, b :: bs => beq a b && beqArms as bs
  | _, _ => false

end

mutual

theorem beq_iff_eq : (a b : Shape) → (beq a b = true ↔ a = b)
  | .unknown, b => by cases b <;> simp [beq]
  | .primitive k, b => by cases b <;> simp [beq]
  | .object fs, b => by cases b <;> simp [beq, beqFields_iff_eq fs]
  | .array a, b => by cases b <;> simp [beq, beq_iff_eq a]
  | .nullable a, b => by cases b <;> simp [beq, beq_iff_eq a]
  | .union as, b => by cases b <;> simp [beq, beqArms_iff_eq as]

theorem beqFields_iff_eq : (fs gs : List Field) → (beqFields fs gs = true ↔ fs = gs)
  | [], gs => by cases gs <;> simp [beqFields]
  | ⟨k, a, o⟩ :: fs, gs => by
    cases gs with
    | nil => simp [beqFields]
    | cons g gs =>
      obtain ⟨l, b, p⟩ := g
      simp [beqFields, beq_iff_eq a, beqFields_iff_eq fs, and_assoc]

theorem beqArms_iff_eq : (as bs : List Shape) → (beqArms as bs = true ↔ as = bs)
  | [], bs => by cases bs <;> simp [beqArms]
  | a :: as, bs => by
    cases bs <;> simp [beqArms, beq_iff_eq a, beqArms_iff_eq as]

end

instance : DecidableEq Shape :=
  fun a b => decidable_of_iff _ (beq_iff_eq a b)

/-- The shape that also allows null; one that is unknown or allows null already stays as it is. -/
def orNull : Shape → Shape
  | .unknown => .unknown
  | .primitive .null => .primitive .null
  | .nullable inner => .nullable inner
  | shape => .nullable shape

/-- The shape allows null and nothing else. -/
def isNull : Shape → Bool
  | .primitive .null => true
  | _ => false

/-- The families of values that a union tells apart, in the order of its arms. -/
inductive Family where
  | array
  | object
  | number
  | string
  | bool
deriving DecidableEq, Repr

/-- The place of a family among the arms of a union. -/
def Family.rank : Family → Nat
  | .array => 0
  | .object => 1
  | .number => 2
  | .string => 3
  | .bool => 4

/-- The family of a shape; unknown, null, nullable and union shapes are no arms and have none. -/
def family : Shape → Option Family
  | .array _ => some .array
  | .object _ => some .object
  | .primitive .integer => some .number
  | .primitive .float => some .number
  | .primitive .string => some .string
  | .primitive .bool => some .bool
  | .primitive .null => none
  | .unknown => none
  | .nullable _ => none
  | .union _ => none

/-- The arm order: shapes without a family first, then by the rank of the family. -/
def rank (shape : Shape) : Nat :=
  match shape.family with
  | none => 0
  | some f => f.rank + 1

end Shape

instance : DecidableEq Field :=
  fun f g => decidable_of_iff (f.key = g.key ∧ f.shape = g.shape ∧ f.optional = g.optional) <| by
    cases f
    cases g
    simp

end SampleTypes
