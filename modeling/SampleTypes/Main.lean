import SampleTypes.CommandLine.Run
import SampleTypes.Fixture.Run
import SampleTypes.Query.Eval

/-!
# Programs

The operations on the files of this machine, and the programs that run with them, with an engine for
filters and texts on how they are used.
-/

namespace SampleTypes

open CommandLine (Manual Outcome UsageError)
open Files (Host Kind OsError)

/-- The number of an error of the machine, which some operations give negated. -/
def errorNumber (code : UInt32) : UInt32 :=
  if code < 0x80000000 then code else 0 - code

/-- An error of the machine as an error of an operation on files. -/
def machineError : IO.Error → OsError
  | .noFileOrDirectory .. => .notFound
  | .alreadyExists .. => .alreadyExists
  | .inappropriateType file code details =>
    match errorNumber code with
    | 20 => .notDirectory
    | 21 => .isDirectory
    | _ => .other (toString (IO.Error.inappropriateType file code details))
  | e => .other (toString e)

/-- An action with its error as a value. -/
def caught {α : Type} (action : IO α) : IO (Except OsError α) := do
  try return .ok (← action) catch e => return .error (machineError e)

/-- What a path of this machine leads to, if anything. -/
def kindOf? (path : String) : IO (Option Kind) := do
  try
    let data ← ((← IO.currentDir) / path).metadata
    return some (if data.type == .dir then .directory else .file)
  catch _ => return none

/-- Creates a directory unless there is one. -/
def ensureDirectory (path : String) : IO Unit := do
  try IO.FS.createDir path
  catch e => unless (← kindOf? path) = some .directory do throw e

/-- Creates a directory and those that hold it, at most `depth` of them. -/
def createTree (path : String) : Nat → IO Unit
  | 0 => ensureDirectory path
  | depth + 1 => do
    try ensureDirectory path
    catch
      | e@(.noFileOrDirectory ..) =>
        let some directory := Files.parent? path | throw e
        unless directory.isEmpty do createTree directory depth
        ensureDirectory path
      | e => throw e

/-- The operations on the files of this machine. -/
def machine : Host IO where
  readStdin := do (← IO.getStdin).readToEnd
  readFile path := caught (IO.FS.readFile path)
  listDirectory path := caught do
    return (← ((← IO.currentDir) / path).readDir).toList.map (·.fileName)
  kind? := kindOf?
  writeFile path text := caught (IO.FS.writeFile path text)
  createDirectories path :=
    if path.isEmpty then return .ok () else caught (createTree path path.length)

/-- Runs a program on this machine. -/
def runProgram (program : Host IO → List String → IO Outcome) (arguments : List String) :
    IO UInt32 := do
  let outcome ← program machine arguments
  IO.print outcome.stdout
  IO.eprint outcome.stderr
  return outcome.exit.code.toUInt32

/-- The wording of a mistake in arguments. -/
def mistakeText : UsageError → String
  | .unknownOption text => "unexpected argument '" ++ text ++ "' found"
  | .missingValue name => "a value is required for '--" ++ name ++ "' but none was supplied"
  | .needlessValue name value => "unexpected value '" ++ value ++ "' for '--" ++ name ++ "' found"
  | .badValue name value => "invalid value '" ++ value ++ "' for '--" ++ name ++ "'"
  | .repeated name => "the argument '--" ++ name ++ "' cannot be used multiple times"
  | .strayArgument text => "unexpected argument '" ++ text ++ "' found"
  | .missingCommand => "a command is required but none was given"
  | .unknownCommand name => "unrecognized command '" ++ name ++ "'"

/-- The texts on a program, given the lines that say how it is used. -/
def manual (usage : List String) : Manual where
  help _ := CommandLine.unlines usage
  mistake _ cause := CommandLine.unlines ["error: " ++ mistakeText cause]

/-- How declarations are asked for. -/
def usage : List String :=
  ["infer types from JSON/NDJSON samples and emit C#, TypeScript, Python or Rust declarations",
   "",
   "Usage: json2type <COMMAND>",
   "",
   "Commands:",
   "  convert    infer and emit type declarations for a target language",
   "  graph      infer and print the unnamed type graph as JSON",
   "  languages  list target languages and their aliases",
   "  help       print this message"]

/-- How fixtures are run. -/
def fixtureUsage : List String :=
  ["Usage: fixtures [--dir <DIR>] [--bless] [FILTER]",
   "",
   "Compares the output for each sample of a directory with the text that is expected."]

/-- The program that runs fixtures, those of a directory unless another is named. -/
def fixtureMain (home : String) (arguments : List String) : IO UInt32 :=
  runProgram (Fixture.run home (manual fixtureUsage)) arguments

end SampleTypes

/-- The program that writes declarations for samples. -/
def main (arguments : List String) : IO UInt32 :=
  SampleTypes.runProgram
    (SampleTypes.CommandLine.run SampleTypes.Query.engine (SampleTypes.manual SampleTypes.usage))
    arguments
