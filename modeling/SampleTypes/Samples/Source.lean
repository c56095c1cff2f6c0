import SampleTypes.Samples.Selection

/-!
# Sources

Where texts with samples come from.  An input with a wildcard or an opening brace in it is a
pattern, and stands for the files that it matches.  All sources are read, and all documents in them,
before the first of them is looked into.
-/

namespace SampleTypes

open Files (View)
open Json (Value)

/-- Where a text comes from. -/
inductive Source where
  | stdin
  | file (path : String)
deriving DecidableEq, Repr

/-- What errors call a source. -/
def Source.label : Source → String
  | .stdin => "<stdin>"
  | .file path => path

/-- An input that is a pattern. -/
def isPattern (input : String) : Bool :=
  input.toList.any fun c => ['*', '?', '[', '\x7b'].contains c

section

variable {m : Type → Type} [Monad m] (engine : Filter.Engine) (view : View m)

/-- The text of a source. -/
def Source.read (source : Source) : ExceptT SampleError m String := do
  match source with
  | .stdin => view.readStdin
  | .file path => ExceptT.mk do return (← view.readFile path).mapError (.unreadable path)

/-- The sources that an input stands for. -/
def sourcesOf (input : String) : ExceptT SampleError m (List Source) := do
  if input = "-" then return [.stdin]
  else if !isPattern input then return [.file input]
  else
    match Glob.Pattern.parse input with
    | .error cause => throw (.badPattern input cause)
    | .ok pattern =>
      let found ← (pattern.expand view : m Glob.Matches)
      let paths ← ((found.mapM id).mapError .notListed : Except SampleError (List String))
      if paths.isEmpty then throw (.noMatch input) else return paths.map .file

namespace Selection

variable (selection : Selection)

/-- The sources that are asked for, in their order. -/
def sources : ExceptT SampleError m (List Source) := do
  if selection.inputs.isEmpty then return [.stdin]
  else return (← selection.inputs.mapM (sourcesOf view)).flatten

/-- The documents of a source, each with the label of the source. -/
def documentsIn (source : Source) : ExceptT SampleError m (List (String × Value)) := do
  let text ← source.read view
  let documents ← selection.documents source.label text
  return documents.map fun document => (source.label, document)

/-- The samples that are asked for. -/
def load : ExceptT SampleError m (List Value) := do
  let sources ← selection.sources view
  let documents ← sources.mapM (selection.documentsIn view)
  selection.samplesOfAll engine documents.flatten

end Selection

end

end SampleTypes
