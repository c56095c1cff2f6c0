import SampleTypes.Json.Reader

/-!
# Filters

A filter is a text in a language of its own.  What reads filters and applies them is no part of the
program: it is any `Engine`, and `run` is what the program makes of its answers.
-/

namespace SampleTypes.Filter

open Json (Value)

/-- Why an engine does not take a text for a filter; the causes are in the engine's words. -/
inductive Refusal where
  /-- What could not be read. -/
  | unreadable (causes : List String)
  /-- Names that stand for nothing, and what each was taken for. -/
  | undefined (names : List (String × String))
deriving DecidableEq, Repr

/-- The wording of a refusal of a filter, with a line for each cause. -/
def Refusal.message (filter : String) : Refusal → String
  | .unreadable causes =>
    "\n".intercalate <| causes.map fun cause =>
      "jq parse error: " ++ cause ++ " in `" ++ filter ++ "`"
  | .undefined names =>
    "\n".intercalate <| names.map fun name =>
      "jq: undefined `" ++ name.1 ++ "` (" ++ name.2 ++ ") in `" ++ filter ++ "`"

/--
An engine for filters.  A text that it takes for a filter makes outputs of a document, one after the
other; each output is the text of a value, or a failure in the engine's words.
-/
structure Engine where
  compile : String → Except Refusal (Value → List (Except String String))

/-- Why a filter gave no values. -/
inductive Failure where
  | refused (filter : String) (cause : Refusal)
  | stopped (cause : String)
  /-- An output is not the text of a value. -/
  | notValue (cause : Json.ReadError)

/-- The wording of a failure. -/
def Failure.message : Failure → String
  | .refused filter cause => cause.message filter
  | .stopped cause => "jq runtime error: " ++ cause
  | .notValue cause => cause.message

/-- The value of an output. -/
def valueOf (output : Except String String) : Except Failure Value := do
  let text ← output.mapError .stopped
  (Json.parse text).mapError .notValue

/-- The values that a filter makes of a document, or the first failure. -/
def run (engine : Engine) (filter : String) (document : Value) : Except Failure (List Value) := do
  let outputs ← (engine.compile filter).mapError (.refused filter)
  (outputs document).mapM valueOf

end SampleTypes.Filter
