/-!
# Lines

A text falls into lines at its newlines.  A carriage return right before a newline belongs to the
line ending, a newline at the end of the text starts no further line, and a text without any
character has no line.
-/

namespace SampleTypes.Text

/-- The lines of a text, as lists of characters. -/
def splitLines : List Char → List (List Char)
  | [] => []
  | '\n' :: rest => [] :: splitLines rest
  | '\r' :: '\n' :: rest => [] :: splitLines rest
  | c :: rest =>
    match splitLines rest with
    | [] => [[c]]
    | line :: more => (c :: line) :: more

/-- The lines of a text. -/
def lines (s : String) : List String :=
  (splitLines s.toList).map String.ofList

/-- The parts of a text between the occurrences of a character; there is always at least one. -/
def splitAt (separator : Char) : List Char → List (List Char)
  | [] => [[]]
  | c :: rest =>
    if c = separator then [] :: splitAt separator rest
    else
      match splitAt separator rest with
      | [] => [[c]]
      | part :: more => (c :: part) :: more

example : lines "a\r\n\nb\r" = ["a", "", "b\r"] := by decide +kernel
example : lines "" = [] ∧ lines "\n" = [""] := by decide +kernel

end SampleTypes.Text
