import SampleTypes.Json.Value

/-!
# A language of filters

The filters of the engine that comes with the programs; nothing else depends on it.  A filter turns
one value into any number of values.  It is built from paths, literals, operators and a few named
functions; the functions that others can express are written with those.

A path takes steps into a value: to one part, to a slice, to each part.  A step fails where the
value has no such part, null included; a lenient step then leads nowhere instead.
-/

namespace SampleTypes.Query

open Json (Value)

/-- Operators on two values. -/
inductive Operator where
  | add
  | subtract
  | equal
  | notEqual
deriving DecidableEq, Repr

mutual

/-- A filter. -/
inductive Expr where
  /-- The value itself. -/
  | identity
  | literal (value : Value)
  /-- No value. -/
  | nothing
  /-- What the steps lead to from the values of `start`. -/
  | path (start : Expr) (steps : List Step)
  /-- Without the failures. -/
  | attempt (e : Expr)
  | pipe (first second : Expr)
  | comma (left right : Expr)
  /-- What is neither false nor null on the left, or else what is on the right. -/
  | alternative (left right : Expr)
  | both (left right : Expr)
  | either (left right : Expr)
  | binary (op : Operator) (left right : Expr)
  /-- An array of all values. -/
  | collect (e : Expr)
  | object (entries : List (Expr × Expr))
  | cond (test yes no : Expr)
  | firstOf (e : Expr)
  | length
  | keys
  | not

/-- A step of a path. -/
inductive Step where
  /-- To the member or element that `key` names. -/
  | part (key : Expr) (lenient : Bool)
  /-- To the elements from one place to another; without a place, from the start or to the end. -/
  | slice (first last : Option Expr) (lenient : Bool)
  /-- To all members or elements. -/
  | each (lenient : Bool)

end

instance : Inhabited Expr := ⟨.identity⟩

instance : Inhabited Step := ⟨.each false⟩

/-- Only the values for which a filter holds. -/
def Expr.select (test : Expr) : Expr :=
  .cond test .identity .nothing

/-- An array with a filter applied to each element. -/
def Expr.map (e : Expr) : Expr :=
  .collect (.pipe (.path .identity [.each false]) e)

/-- The element with a number. -/
def Expr.element (n : Int) : Expr :=
  .path .identity [.part (.literal (.number (.integer n))) false]

/-- The step to the member with a name. -/
def Step.member (name : String) (lenient : Bool) : Step :=
  .part (.literal (.string name)) lenient

/-- A filter with its numbers of the other sign. -/
def Expr.negative (e : Expr) : Expr :=
  .binary .subtract (.literal (.number (.integer 0))) e

/-- Continues a filter by the steps of a path, if there are any. -/
def Expr.along (e : Expr) (steps : List Step) : Expr :=
  if steps.isEmpty then e else .path e steps

end SampleTypes.Query
