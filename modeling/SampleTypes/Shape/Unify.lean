import SampleTypes.Shape.Basic

/-!
# Unification

`unify a b` is the least shape that stands for the samples of both.  Null is no kind of its own: it
marks the place (`nullable`) or the field (`optional`).  A union is the last resort, and has one arm
for each family, so that numbers still widen and objects still merge inside it.

Unification is defined for all shapes, also for those that inference does not produce.  Fields and
arms keep the order of the left operand; what only the right operand has comes after.
-/

namespace SampleTypes

/-- One kind that covers two, if there is one: a kind covers itself, and a float an integer. -/
def Primitive.widen? (k l : Primitive) : Option Primitive :=
  if k = l then some k
  else
    match k, l with
    | .integer, .float => some .float
    | .float, .integer => some .float
    | _, _ => none

namespace Shape

/-- The arms in the order of their ranks; arms of one rank keep their order. -/
def sortArms (arms : List Shape) : List Shape :=
  (List.range 6).flatMap fun r => arms.filter fun arm => arm.rank == r

/-- The shape with the given arms; a single arm stands for itself. -/
def ofArms (arms : List Shape) : Shape :=
  match sortArms arms with
  | [arm] => arm
  | sorted => .union sorted

/-- A field whose values may be null is an optional field of the values that are not. -/
def foldNull (f : Field) : Field :=
  match f.shape with
  | .nullable inner => ⟨f.key, inner, true⟩
  | _ => f

/-- Replaces the first field of the same key, or adds the field at the end. -/
def putField (f : Field) : List Field → List Field
  | [] => [f]
  | g :: gs => if g.key = f.key then f :: gs else g :: putField f gs

/-- Each key once, at the place of its first field and with the value of its last. -/
def lastByKey (fields : List Field) : List Field :=
  fields.foldl (fun out f => putField f out) []

/-- Adds those fields whose keys are new, as optional ones. -/
def addMissing (fields : List Field) : List Field → List Field
  | [] => fields
  | g :: gs =>
    if fields.any (·.key == g.key) then addMissing fields gs
    else addMissing (fields ++ [{ g with optional := true }]) gs

/--
The join of two shapes neither of which is a union and which are not both objects, both arrays or
both nullable.  Kinds widen where they can; shapes of different families become two arms.
-/
def joinPlain (a b : Shape) : Shape :=
  match a, b with
  | .primitive k, .primitive l =>
    match k.widen? l with
    | some m => .primitive m
    | none => ofArms [a, b]
  | .unknown, .unknown => .unknown
  | .unknown, .primitive .null => .null
  | .primitive .null, .unknown => .null
  | .unknown, .nullable b => .nullable b
  | .nullable a, .unknown => .nullable a
  | .primitive .null, .nullable b => b.orNull
  | .nullable a, .primitive .null => a.orNull
  | _, _ => ofArms [a, b]

mutual

/-- The least shape for the samples of both.  Null on either side makes the other side nullable. -/
def unify (a b : Shape) : Shape :=
  match a, b with
  | .unknown, b => b
  | a, .unknown => a
  | .nullable a, .nullable b => (join a b).orNull
  | .nullable a, b => if b.isNull then a.orNull else (join a b).orNull
  | a, .nullable b => if a.isNull then b.orNull else (join a b).orNull
  | a, b => if a.isNull then b.orNull else if b.isNull then a.orNull else join a b
termination_by (sizeOf b, sizeOf a, 1)

/-- The join of two shapes that are known and not null themselves. -/
def join (a b : Shape) : Shape :=
  match a, b with
  | .union as, .union bs => ofArms (absorbAll as bs)
  | .union as, b => ofArms (absorb as b)
  | a, .union bs => ofArms (absorbAll [a] bs)
  | .object fs, .object gs => .object (addMissing (lastByKey (mergeEach fs gs)) gs)
  | .array a, .array b => .array (unify a b)
  | .nullable a, .nullable b => (join a b).orNull
  | a, b => joinPlain a b
termination_by (sizeOf b, sizeOf a, 0)

/-- Joins a shape to the arm of its family, or adds it as a new arm. -/
def absorb (arms : List Shape) (b : Shape) : List Shape :=
  match arms with
  | [] => [b]
  | a :: as => if a.family = b.family then unify a b :: as else a :: absorb as b
termination_by (sizeOf b, sizeOf arms, 0)

/-- Joins shapes to a list of arms, one after the other. -/
def absorbAll (arms bs : List Shape) : List Shape :=
  match bs with
  | [] => arms
  | b :: bs => absorbAll (absorb arms b) bs
termination_by (sizeOf bs, 0, 0)

/--
Each field of `fs` with what the other object has under its key.  A key that the other object lacks
becomes optional.
-/
def mergeEach (fs gs : List Field) : List Field :=
  match fs with
  | [] => []
  | f :: fs =>
    let merged :=
      match h : gs.find? (·.key == f.key) with
      | none => { f with optional := true }
      | some g =>
        have : sizeOf g.shape < sizeOf gs := by
          have := List.sizeOf_lt_of_mem (List.mem_of_find?_eq_some h)
          cases g
          simp only [Field.mk.sizeOf_spec] at this
          simp only
          omega
        foldNull ⟨f.key, unify f.shape g.shape, f.optional || g.optional⟩
    merged :: mergeEach fs gs
termination_by (sizeOf gs, sizeOf fs, 0)

end

end Shape

end SampleTypes
