import SampleTypes.Json.Value
import SampleTypes.Shape.Unify

/-!
# Inference

The shape of one value, and the shape of many: values are observed one after the other, each unified
with what was seen before.
-/

namespace SampleTypes

namespace Shape

open Json (Value Number)

/-- The kind of a number: an integer literal or any other. -/
def ofNumber : Number → Primitive
  | .integer _ => .integer
  | .float _ => .float

mutual

/-- The shape of one value. -/
def ofValue : Value → Shape
  | .null => .primitive .null
  | .bool _ => .primitive .bool
  | .number n => .primitive (ofNumber n)
  | .string _ => .primitive .string
  | .array elements => .array (ofElements .unknown elements)
  | .object members => .object (ofMembers members)

/-- The shape of the elements of an array, after the shape of those before them. -/
def ofElements (seen : Shape) : List Value → Shape
  | [] => seen
  | v :: vs => ofElements (unify seen (ofValue v)) vs

/-- The fields of an object, none of them optional. -/
def ofMembers : List (String × Value) → List Field
  | [] => []
  | (key, v) :: members => ⟨key, ofValue v, false⟩ :: ofMembers members

end

end Shape

/-- The samples of one root seen so far: their shape and their number. -/
structure Inference where
  shape : Shape := .unknown
  samples : Nat := 0
deriving DecidableEq

/-- Takes one more sample into account. -/
def Inference.observe (inference : Inference) (value : Json.Value) : Inference :=
  ⟨Shape.unify inference.shape (Shape.ofValue value), inference.samples + 1⟩

/-- The inference from a list of samples. -/
def Inference.ofSamples (values : List Json.Value) : Inference :=
  values.foldl observe {}

/-- The shape of a list of samples. -/
def Shape.ofSamples (values : List Json.Value) : Shape :=
  (Inference.ofSamples values).shape

@[simp] theorem Shape.ofSamples_nil : Shape.ofSamples [] = .unknown := rfl

theorem Shape.ofElements_eq_foldl (seen : Shape) (values : List Json.Value) :
    ofElements seen values = values.foldl (fun s v => unify s (ofValue v)) seen := by
  induction values generalizing seen with
  | nil => rw [ofElements, List.foldl_nil]
  | cons v vs ih => rw [ofElements, List.foldl_cons, ih]

theorem Inference.shape_foldl_observe (inference : Inference) (values : List Json.Value) :
    (values.foldl observe inference).shape
      = values.foldl (fun s v => Shape.unify s (Shape.ofValue v)) inference.shape := by
  induction values generalizing inference with
  | nil => rfl
  | cons v vs ih => rw [List.foldl_cons, List.foldl_cons, ih, observe]

/-- An array's element shape is what inference makes of its elements. -/
theorem Shape.ofValue_array (elements : List Json.Value) :
    ofValue (.array elements) = .array (ofSamples elements) := by
  rw [ofValue, ofElements_eq_foldl, ofSamples, Inference.ofSamples,
    Inference.shape_foldl_observe]

end SampleTypes
