import SampleTypes.Json.Reader
import SampleTypes.Text.Blank
import SampleTypes.Text.Lines

/-!
# Documents on lines

A text with one document on each line.  Blank lines hold no document, but they are counted, so that
a mistake is reported with the number of its line.
-/

namespace SampleTypes.Json

/-- A line that is no document, by its number, and why. -/
structure LineError where
  line : Nat
  cause : ReadError

/-- The documents on lines of which the first has the given number. -/
def parseNumbered : Nat → List String → Except LineError (List Value)
  | _, [] => .ok []
  | number, line :: more =>
    if Text.isBlankLine line then parseNumbered (number + 1) more
    else do
      let value ← (parse line).mapError fun cause => ⟨number, cause⟩
      let values ← parseNumbered (number + 1) more
      .ok (value :: values)

/-- The documents on the lines of a text. -/
def parseLines (text : String) : Except LineError (List Value) :=
  parseNumbered 1 (Text.lines text)

@[simp] theorem parseNumbered_nil (number : Nat) : parseNumbered number [] = .ok [] := rfl

theorem parseNumbered_blank {line : String} (h : Text.isBlankLine line) (number : Nat)
    (more : List String) :
    parseNumbered number (line :: more) = parseNumbered (number + 1) more := by
  rw [parseNumbered, if_pos h]

end SampleTypes.Json
