import SampleTypes.Files.Path
import SampleTypes.Text.Lines

/-!
# Fixtures

A fixture is a sample with the text that is expected for it in one language.  It is there when a
directory holds a file named `name.language.expected`; the sample is `name.json`, and settings can
stand in `name.config.json`.
-/

namespace SampleTypes.Fixture

/-- A fixture of a directory. -/
structure Case where
  name : String
  language : String
deriving DecidableEq, Repr

namespace Case

/-- The fixture that a file name stands for. -/
def ofFileName? (fileName : String) : Option Case :=
  match (Text.splitAt '.' fileName.toList).map String.ofList with
  | [name, language, "expected"] =>
    if name = "" ∨ language = "" then none else some ⟨name, language⟩
  | _ => none

/-- The name of the file with the expected text. -/
def fileName (c : Case) : String :=
  c.name ++ "." ++ c.language ++ ".expected"

/-- What reports call a fixture. -/
def label (c : Case) : String :=
  c.name ++ " [" ++ c.language ++ "]"

/-- The file with the expected text. -/
def expectedPath (directory : String) (c : Case) : String :=
  Files.join directory c.fileName

/-- The file with the sample. -/
def samplePath (directory : String) (c : Case) : String :=
  Files.join directory (c.name ++ ".json")

/-- The file with the settings, which may be missing. -/
def settingsPath (directory : String) (c : Case) : String :=
  Files.join directory (c.name ++ ".config.json")

/-- The fixtures among the names in a directory, in the order of their file names. -/
def ofNames (names : List String) : List Case :=
  (names.filterMap ofFileName?).mergeSort fun a b => !(b.fileName < a.fileName)

/-- A text is part of another. -/
def occursIn (part : List Char) : List Char → Bool
  | [] => part.isEmpty
  | c :: rest => part.isPrefixOf (c :: rest) || occursIn part rest

/-- The fixtures with a text in their names; all of them if there is no such text. -/
def select (filter : Option String) (cases : List Case) : List Case :=
  match filter with
  | none => cases
  | some text => cases.filter fun c => occursIn text.toList c.name.toList

end Case

example : Case.ofFileName? "orders.csharp.expected" = some ⟨"orders", "csharp"⟩ := by
  decide +kernel
example : Case.ofFileName? "orders.config.json" = none := by decide +kernel

end SampleTypes.Fixture
