import SampleTypes.Files.Host
import SampleTypes.Filter.Engine
import SampleTypes.Glob.Expand
import SampleTypes.Json.Lines
import SampleTypes.Json.Pointer

/-!
# Selecting samples

Which samples the user asks for: the texts to take documents from, whether a text has one document
on each line, and what of each document is a sample.
-/

namespace SampleTypes

open Json (Value)

/-- What samples are asked for. -/
structure Selection where
  /-- Each line of a text is a document. -/
  perLine : Bool := false
  /-- Leads from a document to the part of it that is used. -/
  pointer : Option String := none
  /-- Makes samples of that part. -/
  filter : Option String := none
  /-- Paths, patterns and `-` for standard input; nothing means standard input. -/
  inputs : List String := []
deriving DecidableEq, Repr

/-- Why there are no samples. -/
inductive SampleError where
  | unreadable (path : String) (cause : Files.OsError)
  | badPattern (pattern : String) (cause : Glob.PatternError)
  | notListed (cause : Glob.ListFailure)
  | noMatch (pattern : String)
  | notDocument (label : String) (cause : Json.ReadError)
  | notDocumentOnLine (label : String) (cause : Json.LineError)
  | pointsNowhere (label pointer : String)
  | notFiltered (label : String) (cause : Filter.Failure)
  | noDocuments

/-- The wording of an error. -/
def SampleError.message : SampleError → String
  | .unreadable path cause => "failed to read source file " ++ path ++ ": " ++ cause.message
  | .badPattern pattern cause => "bad glob pattern: " ++ pattern ++ ": " ++ cause.message
  | .notListed cause => cause.message
  | .noMatch pattern => "glob pattern matched no files: " ++ pattern
  | .notDocument label cause => "failed to parse JSON in " ++ label ++ ": " ++ cause.message
  | .notDocumentOnLine label cause =>
    "failed to parse JSON on line " ++ toString cause.line ++ " of " ++ label ++ ": "
      ++ cause.cause.message
  | .pointsNowhere label pointer => "json pointer " ++ pointer ++ " selects nothing in " ++ label
  | .notFiltered label cause =>
    "failed to apply jq expression to " ++ label ++ ": " ++ cause.message
  | .noDocuments => "no JSON documents found in input"

namespace Selection

variable (engine : Filter.Engine) (selection : Selection)

/-- The documents of a text; errors name it by its label. -/
def documents (label text : String) : Except SampleError (List Value) :=
  if selection.perLine then (Json.parseLines text).mapError (.notDocumentOnLine label)
  else ((Json.parse text).map fun value => [value]).mapError (.notDocument label)

/-- The part of a document that is used. -/
def focus (label : String) (document : Value) : Except SampleError Value :=
  match selection.pointer with
  | none => .ok document
  | some pointer =>
    match Json.pointer? document pointer with
    | some value => .ok value
    | none => .error (.pointsNowhere label pointer)

/-- The samples that a document gives. -/
def samplesOf (label : String) (document : Value) : Except SampleError (List Value) := do
  let value ← selection.focus label document
  match selection.filter with
  | none => .ok [value]
  | some text => (Filter.run engine text value).mapError (.notFiltered label)

/-- The samples that labelled documents give; there has to be one at least. -/
def samplesOfAll (documents : List (String × Value)) : Except SampleError (List Value) := do
  let samples ← documents.mapM fun (label, document) => selection.samplesOf engine label document
  if samples.flatten.isEmpty then .error .noDocuments else .ok samples.flatten

end Selection

end SampleTypes
