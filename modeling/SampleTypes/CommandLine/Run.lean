import SampleTypes.CommandLine.Command
import SampleTypes.CommandLine.Outcome
import SampleTypes.Convert
import SampleTypes.Json.Printer
import SampleTypes.Samples.Source
import SampleTypes.Shape.Document

/-!
# Running commands

A command is first worked out, which only looks at files, and then delivered, which writes one file
at most.  So a command that cannot be worked out changes nothing.
-/

namespace SampleTypes.CommandLine

open Files (Host View)
open Naming (Warning)

/-- Why a command failed. -/
inductive CommandError where
  | settingsUnreadable (path : String) (cause : Files.OsError)
  | settingsInvalid (path : String) (cause : SettingsError)
  | settings (cause : SettingsError)
  | samples (cause : SampleError)
  /-- There were warnings, and none is allowed. -/
  | denied (warnings : Nat)
  | noDirectory (path : String) (cause : Files.OsError)
  | notWritten (path : String) (cause : Files.OsError)

/-- The wording of a failure. -/
def CommandError.message : CommandError → String
  | .settingsUnreadable path cause => "failed to read config file " ++ path ++ ": " ++ cause.message
  | .settingsInvalid path cause => "invalid config file " ++ path ++ ": " ++ cause.message
  | .settings cause => cause.message
  | .samples cause => cause.message
  | .denied warnings => toString warnings ++ " naming warning(s) and --deny-warnings is set"
  | .noDirectory path cause => "failed to create directory " ++ path ++ ": " ++ cause.message
  | .notWritten path cause => "failed to write " ++ path ++ ": " ++ cause.message

/-- What a command was worked out to: a text or a failure, and the warnings in either case. -/
structure Draft where
  warnings : List Warning := []
  text : Except CommandError String

section

variable {m : Type → Type} [Monad m] (engine : Filter.Engine)

/-- The settings of a request: those of its file, or else the usual ones, with some replaced. -/
def ConvertRequest.settings (view : View m) (r : ConvertRequest) :
    ExceptT CommandError m Settings := do
  match r.settingsFile with
  | none => return r.overrides.applyTo {}
  | some path =>
    let text ← ExceptT.mk do return (← view.readFile path).mapError (.settingsUnreadable path)
    let settings ← (Settings.parse text).mapError (CommandError.settingsInvalid path)
    return r.overrides.applyTo settings

/-- The samples of a request. -/
def loadSamples (view : View m) (selection : Selection) :
    ExceptT CommandError m (List Json.Value) :=
  ExceptT.mk do return (← (selection.load engine view).run).mapError .samples

/-- The conversion that is asked for. -/
def ConvertRequest.conversion (view : View m) (r : ConvertRequest) :
    ExceptT CommandError m Conversion := do
  let settings ← r.settings view
  let _ ← settings.check.mapError CommandError.settings
  let samples ← loadSamples engine view r.selection
  (settings.convert samples).mapError CommandError.settings

/-- A conversion as a draft; warnings may be a failure. -/
def ConvertRequest.review (r : ConvertRequest) (c : Conversion) : Draft :=
  if r.denyWarnings ∧ c.warnings ≠ [] then ⟨c.warnings, .error (.denied c.warnings.length)⟩
  else ⟨c.warnings, .ok c.output⟩

/-- Works out a request for declarations. -/
def ConvertRequest.draft (view : View m) (r : ConvertRequest) : m Draft := do
  match ← (r.conversion engine view).run with
  | .ok conversion => return r.review conversion
  | .error cause => return { text := .error cause }

/-- The shape of samples as a text. -/
def graphText (samples : List Json.Value) : String :=
  Json.print 0 (Shape.ofSamples samples).toDocument ++ "\n"

/-- Works out a request for a shape. -/
def GraphRequest.draft (view : View m) (r : GraphRequest) : m Draft := do
  return { text := (← (loadSamples engine view r.selection).run).map graphText }

/-- Writes a text to a file, in a directory that is made if need be. -/
def writeOut (host : Host m) (path text : String) : ExceptT CommandError m Unit := do
  if let some directory := Files.parent? path then
    ExceptT.mk do return (← host.createDirectories directory).mapError (.noDirectory directory)
  ExceptT.mk do return (← host.writeFile path text).mapError (.notWritten path)

/-- The lines for warnings. -/
def warningText (warnings : List Warning) : String :=
  unlines (warnings.map fun w => "warning: " ++ w.message)

/-- The outcome of a failure after warnings. -/
def failed (warnings : List Warning) (cause : CommandError) : Outcome where
  exit := .failure
  stderr := warningText warnings ++ "error: " ++ cause.message ++ "\n"

/-- Delivers what was worked out: to a file, or else to standard output. -/
def Draft.deliver (host : Host m) (out : Option String) (d : Draft) : m Outcome := do
  match d.text, out with
  | .error cause, _ => return failed d.warnings cause
  | .ok text, none => return { stdout := text, stderr := warningText d.warnings }
  | .ok text, some path =>
    match ← (writeOut host path text).run with
    | .ok () => return { stderr := warningText d.warnings }
    | .error cause => return failed d.warnings cause

/-- The blanks that fill a text up to a width. -/
def padding (width : Nat) (text : String) : String :=
  String.ofList (List.replicate (width - text.length) ' ')

/-- One line for each language: its name and its other names. -/
def languageList : String :=
  unlines <| Target.Language.all.map fun language =>
    language.name ++ padding 12 language.name ++ ", ".intercalate language.aliases

/-- The program's name and version. -/
def versionText : String :=
  "json2type 0.1.0\n"

/-- Runs a command. -/
def Command.run (host : Host m) : Command → m Outcome
  | .convert r => do (← r.draft engine host.toView).deliver host r.out
  | .graph r => do (← r.draft engine host.toView).deliver host r.out
  | .languages => return { stdout := languageList }
  | .version => return { stdout := versionText }

/-- Runs the command that arguments ask for. -/
def run (manual : Manual) (host : Host m) (arguments : List String) : m Outcome :=
  match Command.ofArguments arguments with
  | .ok command => command.run engine host
  | .error .help => return { stdout := manual.help arguments }
  | .error (.mistake cause) => return { exit := .usage, stderr := manual.mistake arguments cause }

end

end SampleTypes.CommandLine
