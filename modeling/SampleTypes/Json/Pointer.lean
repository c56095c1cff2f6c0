import SampleTypes.Json.Value
import SampleTypes.Text.Lines

/-!
# Pointers

A pointer leads from a value to a part of it: the empty pointer to the value itself, `/key` to a
member and `/3` to an element.  In a step `~1` stands for a slash and `~0` for a tilde.
-/

namespace SampleTypes.Json

/-- A step with `~1` and then `~0` replaced. -/
def unescapeStep : List Char → List Char
  | '~' :: '1' :: rest => '/' :: unescapeStep rest
  | '~' :: '0' :: rest => '~' :: unescapeStep rest
  | c :: rest => c :: unescapeStep rest
  | [] => []

/-- The number of an element: digits without a leading zero. -/
def elementIndex? (step : List Char) : Option Nat :=
  match step with
  | [] => none
  | ['0'] => some 0
  | '0' :: _ => none
  | digits => if digits.all Char.isDigit then (String.ofList digits).toNat? else none

/-- The part of a value that one step leads to. -/
def part? (value : Value) (step : List Char) : Option Value :=
  match value with
  | .object members => member? (String.ofList step) members
  | .array elements => (elementIndex? step).bind fun i => elements[i]?
  | _ => none

/-- The part of a value that a pointer leads to. -/
def pointer? (value : Value) (pointer : String) : Option Value :=
  match pointer.toList with
  | [] => some value
  | '/' :: rest =>
    ((Text.splitAt '/' rest).map unescapeStep).foldlM part? value
  | _ => none

end SampleTypes.Json
