import SampleTypes.Text.Alphanumeric
import SampleTypes.Text.LetterCase

/-!
# The words of a key

A key falls into words at every character that is neither letter nor number, at the step from a
small letter or a number to a capital (`firstName`), and before the last capital of a run of
capitals when a small letter follows it (`HTTPServer` is `HTTP`, `Server`).
-/

namespace SampleTypes.Ident

open Text

/--
A capital `c` after the word character `previous` and before `next` starts a new word.
-/
def startsWord (previous c : Char) (next : Option Char) : Bool :=
  isUppercase c &&
    (isLowercase previous || isNumeric previous
      || (isUppercase previous && next.any isLowercase))

/-- A word under way, its last character first, and the characters that follow. -/
def wordsAfter : List Char → List Char → List (List Char)
  | current, [] => if current.isEmpty then [] else [current.reverse]
  | current, c :: rest =>
    if !isAlphanumeric c then
      if current.isEmpty then wordsAfter [] rest else current.reverse :: wordsAfter [] rest
    else
      match current with
      | [] => wordsAfter [c] rest
      | previous :: _ =>
        if startsWord previous c rest.head? then current.reverse :: wordsAfter [c] rest
        else wordsAfter (c :: current) rest

/-- The words of a list of characters. -/
def words (chars : List Char) : List (List Char) :=
  wordsAfter [] chars

/-- The words of a text. -/
def splitWords (s : String) : List String :=
  (words s.toList).map String.ofList

example : splitWords "parseHTTPResponse_v2Beta" = ["parse", "HTTP", "Response", "v2", "Beta"] := by
  decide +kernel

end SampleTypes.Ident
