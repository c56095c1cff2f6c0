import SampleTypes.Files.Host
import SampleTypes.Json.Cursor
import SampleTypes.Settings.Basic
import SampleTypes.Text.Lines

/-!
# Failures of a fixture run

Why a run was broken off.  A failure has a chain of causes, from what was being done to what went
wrong in the end; causes are numbered when there is more than one.
-/

namespace SampleTypes.Fixture

/-- Why there is no output for a fixture. -/
inductive CaseError where
  | sampleUnreadable (path : String) (cause : Files.OsError)
  | sampleInvalid (path : String) (cause : Json.ReadError)
  | settingsUnreadable (cause : Files.OsError)
  | settings (cause : SettingsError)

/-- Why a run was broken off. -/
inductive RunError where
  | notListed (directory : String) (cause : Files.OsError)
  | fixture (label : String) (cause : CaseError)
  | expectedUnreadable (path : String) (cause : Files.OsError)
  | notBlessed (cause : Files.OsError)

/-- A failure, and what caused it. -/
def CaseError.chain : CaseError → List String
  | .sampleUnreadable path cause => ["failed to read " ++ path, cause.message]
  | .sampleInvalid path cause => ["failed to parse " ++ path, cause.message]
  | .settingsUnreadable cause => [cause.message]
  | .settings cause => [cause.message]

/-- A failure, and what caused it. -/
def RunError.chain : RunError → List String
  | .notListed directory cause => ["failed to list " ++ directory, cause.message]
  | .fixture label cause => ("fixture " ++ label) :: cause.chain
  | .expectedUnreadable path cause => ["failed to read " ++ path, cause.message]
  | .notBlessed cause => [cause.message]

/-- A text with `first` before its first line and `others` before each further one. -/
def indented (first others text : String) : String :=
  first ++ ("\n" ++ others).intercalate ((Text.splitAt '\n' text.toList).map String.ofList)

/-- A numbered cause. -/
def numbered (index : Nat) (text : String) : String :=
  let digits := toString index
  indented (String.ofList (List.replicate (5 - digits.length) ' ') ++ digits ++ ": ") "       " text

/-- The causes, one below the other. -/
def causeLines : List String → List String
  | [] => []
  | [cause] => ["", "Caused by:", indented "    " "    " cause]
  | causes => ["", "Caused by:"] ++ causes.mapIdx numbered

/-- The lines of a report on a chain of causes. -/
def chainLines : List String → List String
  | [] => []
  | message :: causes => ("Error: " ++ message) :: causeLines causes

/-- The lines of a report on a failure. -/
def RunError.report (e : RunError) : List String :=
  chainLines e.chain

end SampleTypes.Fixture
