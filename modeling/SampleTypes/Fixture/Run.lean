import SampleTypes.CommandLine.Arguments
import SampleTypes.CommandLine.Outcome
import SampleTypes.Convert
import SampleTypes.Fixture.Case
import SampleTypes.Fixture.Difference
import SampleTypes.Fixture.Report
import SampleTypes.Json.Reader
import SampleTypes.Settings.Reader

/-!
# Running fixtures

Each selected fixture of a directory is converted, and the output compared with the text that is
expected.  A run that blesses makes the output the expected text where the two differ.
-/

namespace SampleTypes.Fixture

open CommandLine (Arity Items Manual Outcome OptionSpec UsageError)
open Files (Host View)

/-- What a run is asked for. -/
structure Request where
  directory : String
  /-- The output becomes the expected text. -/
  bless : Bool := false
  /-- Only fixtures with this in their names are run. -/
  filter : Option String := none
deriving DecidableEq, Repr

/-! ### One fixture -/

/-- How a fixture ended. -/
inductive Verdict where
  | passed
  | blessed
  | failed (difference : Option Difference)
deriving DecidableEq, Repr

/-- The report of a verdict on a fixture. -/
def Verdict.report (label : String) : Verdict → List String
  | .passed => ["ok " ++ label]
  | .blessed => ["blessed " ++ label]
  | .failed difference =>
    ("FAIL " ++ label) :: (difference.map Difference.report).getD []

section

variable {m : Type → Type} [Monad m]

/-- The settings of a fixture; the language is the fixture's in any case. -/
def settings (view : View m) (directory : String) (c : Case) : ExceptT CaseError m Settings := do
  let path := c.settingsPath directory
  match ← (view.kind? path : m (Option Files.Kind)) with
  | none => return { targetLanguage := c.language }
  | some _ =>
    let text ← ExceptT.mk do return (← view.readFile path).mapError .settingsUnreadable
    let settings ← (Settings.parse text).mapError CaseError.settings
    return { settings with targetLanguage := c.language }

/-- The output for a fixture. -/
def convert (view : View m) (directory : String) (c : Case) : ExceptT CaseError m Conversion := do
  let path := c.samplePath directory
  let text ← ExceptT.mk do return (← view.readFile path).mapError (.sampleUnreadable path)
  let sample ← (Json.parse text).mapError (CaseError.sampleInvalid path)
  let settings ← settings view directory c
  (settings.convert [sample]).mapError CaseError.settings

/-- Compares an output with the expected text, and makes it that text if asked to. -/
def compare (host : Host m) (request : Request) (c : Case) (output : String) :
    ExceptT RunError m Verdict := do
  let path := c.expectedPath request.directory
  let expected ← ExceptT.mk do return (← host.readFile path).mapError (.expectedUnreadable path)
  if output = expected then return .passed
  else if request.bless then
    ExceptT.mk do return (← host.writeFile path output).mapError .notBlessed
    return .blessed
  else return .failed (Difference.ofTexts? expected output)

/-! ### All fixtures -/

/-- What a run has come to so far: its report, and the number of fixtures that failed. -/
structure Tally where
  report : List String := []
  failures : Nat := 0
deriving DecidableEq, Repr

/-- The tally after more lines of report. -/
def Tally.add (t : Tally) (lines : List String) : Tally :=
  { t with report := t.report ++ lines }

/-- The tally after a verdict. -/
def Tally.count (t : Tally) (c : Case) (v : Verdict) : Tally :=
  match v with
  | .failed _ => ⟨t.report ++ v.report c.label, t.failures + 1⟩
  | _ => t.add (v.report c.label)

/-- The lines for the warnings of a conversion. -/
def warningLines (conversion : Conversion) : List String :=
  conversion.warnings.map fun w => "  warning: " ++ w.message

/-- Runs one fixture; what was reported before a failure stays. -/
def runCase (host : Host m) (request : Request) (t : Tally) (c : Case) :
    m (Tally × Option RunError) := do
  match ← (convert host.toView request.directory c).run with
  | .error cause => return (t, some (.fixture c.label cause))
  | .ok conversion =>
    let t := t.add (warningLines conversion)
    match ← (compare host request c conversion.output).run with
    | .error cause => return (t, some cause)
    | .ok verdict => return (t.count c verdict, none)

/-- Runs fixtures until one cannot be run. -/
def runCases (host : Host m) (request : Request) : Tally → List Case → m (Tally × Option RunError)
  | t, [] => return (t, none)
  | t, c :: cases => do
    match ← runCase host request t c with
    | (t, some cause) => return (t, some cause)
    | (t, none) => runCases host request t cases

/-- The outcome of a run that was broken off. -/
def brokenOff (t : Tally) (cause : RunError) : Outcome where
  exit := .failure
  stdout := CommandLine.unlines t.report
  stderr := CommandLine.unlines cause.report

/-- The outcome of a run of so many fixtures. -/
def finished (total : Nat) (t : Tally) : Outcome where
  exit := if t.failures = 0 then .success else .failure
  stdout := CommandLine.unlines <| t.report ++
    [toString total ++ " fixtures, " ++ toString t.failures ++ " failed"]

/-- Runs the fixtures that are asked for. -/
def Request.run (host : Host m) (request : Request) : m Outcome := do
  match ← host.listDirectory request.directory with
  | .error cause => return brokenOff {} (.notListed request.directory cause)
  | .ok names =>
    let cases := Case.select request.filter (Case.ofNames names)
    match ← runCases host request {} cases with
    | (t, some cause) => return brokenOff t cause
    | (t, none) => return finished cases.length t

/-! ### Arguments -/

/-- What an option is for. -/
inductive OptionKey where
  | help
  | directory
  | bless
deriving DecidableEq, Repr

/-- The options of a run. -/
def options : List (OptionSpec OptionKey) :=
  [⟨.help, "help", some 'h', .none⟩, ⟨.directory, "dir", none, .one⟩,
   ⟨.bless, "bless", none, .none⟩]

/-- The request after what was found is taken into account; none if help is asked for. -/
def Request.withItems (r : Request) :
    List OptionKey → Items OptionKey → Except UsageError (Option Request)
  | _, [] => .ok (some r)
  | _, .error cause :: _ => .error cause
  | seen, .ok (.positional text) :: items =>
    if r.filter.isSome then .error (.strayArgument text)
    else { r with filter := some text }.withItems seen items
  | seen, .ok (.option spec values) :: items =>
    let value := values.headD ""
    if seen.contains spec.key then .error (.repeated spec.name)
    else
      match spec.key with
      | .help => .ok none
      | .bless => { r with bless := true }.withItems (.bless :: seen) items
      | .directory =>
        if value.isEmpty then .error (.badValue spec.name value)
        else { r with directory := value }.withItems (.directory :: seen) items

/-- Runs the fixtures that arguments ask for: those in `home` unless they name a directory. -/
def run (home : String) (manual : Manual) (host : Host m) (arguments : List String) : m Outcome :=
  let request : Request := { directory := home }
  match request.withItems [] (CommandLine.scan options none arguments) with
  | .ok (some request) => request.run host
  | .ok none => return { stdout := manual.help arguments }
  | .error cause => return { exit := .usage, stderr := manual.mistake arguments cause }

end

end SampleTypes.Fixture
