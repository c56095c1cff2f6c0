import SampleTypes.Text.Lines

/-!
# Arguments

Arguments are options with their values, and what stands by itself.  An option is written `--name`
or `-n`; a value follows it as an argument of its own, or in the same one as in `--name=value`,
`-nvalue` and `-n=value`.  An option that takes many values takes all arguments up to the next
option, unless the first is in the same argument.  After `--` no argument is an option.

`scan` says what is found, in the order of the arguments; a mistake stands where it was noticed.
-/

namespace SampleTypes.CommandLine

/-- How many values an option takes. -/
inductive Arity where
  | none
  | one
  | many
deriving DecidableEq, Repr

/-- An option: what it is for, its names, and how many values it takes. -/
structure OptionSpec (κ : Type) where
  key : κ
  name : String
  letter : Option Char := none
  arity : Arity

/-- A mistake in the arguments. -/
inductive UsageError where
  | unknownOption (text : String)
  | missingValue (name : String)
  | needlessValue (name value : String)
  | badValue (name value : String)
  | repeated (name : String)
  | strayArgument (text : String)
  | missingCommand
  | unknownCommand (name : String)
deriving DecidableEq, Repr

/--
The texts on how a program is used, which its own part does not write: for arguments that ask for
help, and for a mistake in arguments.
-/
structure Manual where
  help : List String → String
  mistake : List String → UsageError → String

/-- What is found among arguments. -/
inductive Item (κ : Type) where
  | option (spec : OptionSpec κ) (values : List String)
  | positional (text : String)

/-- What is found, a mistake in its place. -/
abbrev Items (κ : Type) := List (Except UsageError (Item κ))

/-- An option that still takes values, with those that it has, the last first. -/
structure Pending (κ : Type) where
  spec : OptionSpec κ
  values : List String := []

/-- The option with the values that it has; an option without a value is a mistake. -/
def Pending.close {κ : Type} (p : Pending κ) : Items κ :=
  if p.values.isEmpty then [.error (.missingValue p.spec.name)]
  else [.ok (.option p.spec p.values.reverse)]

/-- What one argument tells: what is found in it, and the option that takes values after it. -/
structure Found (κ : Type) where
  items : Items κ
  pending : Option (Pending κ) := none

section

variable {κ : Type} (specs : List (OptionSpec κ))

/-- The option of a full name, with the value in the same argument if there is one. -/
def findNamed (name : String) (value : Option String) : Found κ :=
  match specs.find? (·.name == name) with
  | none => ⟨[.error (.unknownOption ("--" ++ name))], none⟩
  | some spec =>
    match spec.arity, value with
    | .none, none => ⟨[.ok (.option spec [])], none⟩
    | .none, some value => ⟨[.error (.needlessValue name value)], none⟩
    | _, none => ⟨[], some ⟨spec, []⟩⟩
    | _, some value => ⟨[.ok (.option spec [value])], none⟩

/-- The text without an equals sign at its start. -/
def dropEquals : List Char → List Char
  | '=' :: rest => rest
  | cs => cs

/-- The options of letters; what follows a letter that takes a value is the value. -/
def findLetters : List Char → Found κ
  | [] => ⟨[], none⟩
  | c :: rest =>
    match specs.find? (·.letter == some c) with
    | none => ⟨[.error (.unknownOption (String.ofList ['-', c]))], none⟩
    | some spec =>
      if spec.arity = .none then
        let found := findLetters rest
        ⟨.ok (.option spec []) :: found.items, found.pending⟩
      else if rest.isEmpty then ⟨[], some ⟨spec, []⟩⟩
      else ⟨[.ok (.option spec [String.ofList (dropEquals rest)])], none⟩

/-- What an argument that starts with a dash tells; none for a value. -/
def findOption? (argument : String) : Option (Found κ) :=
  match argument.toList with
  | '-' :: '-' :: text =>
    let value := text.dropWhile (· ≠ '=')
    some <| findNamed specs (String.ofList (text.takeWhile (· ≠ '=')))
      (if value.isEmpty then none else some (String.ofList value.tail))
  | '-' :: c :: letters => some (findLetters specs (c :: letters))
  | _ => none

/-- What is found in arguments, after an option that takes values if there is one. -/
def scan : Option (Pending κ) → List String → Items κ
  | pending, [] => (pending.map Pending.close).getD []
  | pending, argument :: rest =>
    if argument = "--" then
      (pending.map Pending.close).getD [] ++ rest.map fun text => .ok (.positional text)
    else
      match findOption? specs argument, pending with
      | some found, _ =>
        (pending.map Pending.close).getD [] ++ found.items ++ scan found.pending rest
      | none, none => .ok (.positional argument) :: scan none rest
      | none, some p =>
        if p.spec.arity = .many then scan (some ⟨p.spec, argument :: p.values⟩) rest
        else .ok (.option p.spec [argument]) :: scan none rest

end

end SampleTypes.CommandLine
