/-!
# Outcomes

What a run leaves for whoever started it, besides files: an exit code and the two outputs.
-/

namespace SampleTypes.CommandLine

/-- How a run ended. -/
inductive Exit where
  | success
  | failure
  /-- The arguments were at fault. -/
  | usage
deriving DecidableEq, Repr

/-- The number of an exit. -/
def Exit.code : Exit → Nat
  | .success => 0
  | .failure => 1
  | .usage => 2

/-- The exit of a run and what it wrote to its outputs. -/
structure Outcome where
  exit : Exit := .success
  stdout : String := ""
  stderr : String := ""
deriving DecidableEq, Repr

/-- The lines as a text; each ends with a newline. -/
def unlines (lines : List String) : String :=
  String.join (lines.map (· ++ "\n"))

end SampleTypes.CommandLine
