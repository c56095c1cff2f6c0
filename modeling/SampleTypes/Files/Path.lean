import SampleTypes.Text.Lines

/-!
# Paths

A path is a text with slashes between its parts.  It is kept as it was written, because messages
show it so; `components` is what it says about the way from where it starts, which is the root of
all files or the working directory.
-/

namespace SampleTypes.Files

/-- The parts of a path between its slashes. -/
def parts (path : String) : List String :=
  (Text.splitAt '/' path.toList).map String.ofList

/-- The parts of a path that are not empty. -/
def namedParts (path : String) : List String :=
  (parts path).filter (· ≠ "")

/--
The steps that a path takes.  Doubled slashes count once, and a slash at the end asks for a
directory, which is one step of `.` more.
-/
def components (path : String) : List String :=
  if (parts path).getLast? = some "" ∧ namedParts path ≠ [] then namedParts path ++ ["."]
  else namedParts path

/-- The path of an entry in a directory. -/
def join (directory name : String) : String :=
  if directory.isEmpty then name
  else if directory.toList.getLast? = some '/' then directory ++ name
  else directory ++ "/" ++ name

/-- A path that starts at the root of all files. -/
def isAbsolute (path : String) : Bool :=
  path.toList.head? == some '/'

/-- The list without its last elements, as long as they have the property. -/
def dropLastWhile (p : String → Bool) (xs : List String) : List String :=
  (xs.reverse.dropWhile p).reverse

/-- Takes no step of its own: what is between doubled slashes, and `.` after the start. -/
def isIdle (part : String) : Bool :=
  part == "" || part == "."

/--
The directory that a path is in; none for the root and the empty path.  It is written as in the
path, without idle parts at its end.
-/
def parent? (path : String) : Option String :=
  match parts path with
  | [] => none
  | first :: more =>
    match dropLastWhile isIdle more with
    | [] => if first = "" then none else some ""
    | steps =>
      let above := dropLastWhile isIdle steps.dropLast
      some (if first = "" ∧ above = [] then "/" else "/".intercalate (first :: above))

example : parent? "a" = some "" ∧ parent? "a/b" = some "a" ∧ parent? "/a" = some "/" := by
  decide +kernel
example : parent? "a//b/./c/" = some "a//b" ∧ parent? "." = some "" ∧ parent? "/" = none := by
  decide +kernel

end SampleTypes.Files
