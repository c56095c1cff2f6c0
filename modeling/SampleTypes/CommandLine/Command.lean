import SampleTypes.CommandLine.Arguments
import SampleTypes.Samples.Selection
import SampleTypes.Settings.Reader

/-!
# Commands

What the user can ask for: declarations for samples, the shape of samples, or the list of languages.
The settings that the user names take the place of those in the file of settings, one by one.
-/

namespace SampleTypes.CommandLine

/-- What an option is for. -/
inductive OptionKey where
  | help
  | version
  | perLine
  | pointer
  | filter
  | input
  | out
  | settings
  | language
  | rootName
  | convention
  | nestedStyle
  | optionalAs
  | declarationKind
  | shareIdentical
  | denyWarnings
deriving DecidableEq, Repr

/-- Settings that the user names. -/
structure Overrides where
  targetLanguage : Option String := none
  rootName : Option String := none
  convention : Option Ident.Convention := none
  nestedStyle : Option NestedStyle := none
  optionalAsNullable : Option Bool := none
  declarationKind : Option DeclarationKind := none
  /-- Identical objects are to be shared, whatever the file of settings says. -/
  shareIdentical : Bool := false
deriving Repr

/-- Settings in which some have been replaced. -/
def Overrides.applyTo (o : Overrides) (s : Settings) : Settings where
  targetLanguage := o.targetLanguage.getD s.targetLanguage
  rootName := o.rootName.getD s.rootName
  convention := o.convention.getD s.convention
  nestedStyle := o.nestedStyle.getD s.nestedStyle
  optionalAsNullable := o.optionalAsNullable.getD s.optionalAsNullable
  declarationKind := o.declarationKind.getD s.declarationKind
  shareIdentical := o.shareIdentical || s.shareIdentical

/-- A request for the shape of samples. -/
structure GraphRequest where
  selection : Selection := {}
  /-- The file that gets the output; none for standard output. -/
  out : Option String := none
deriving Repr

/-- A request for declarations. -/
structure ConvertRequest extends GraphRequest where
  settingsFile : Option String := none
  overrides : Overrides := {}
  /-- A warning is an error. -/
  denyWarnings : Bool := false
deriving Repr

/-- What is asked for. -/
inductive Command where
  | convert (request : ConvertRequest)
  | graph (request : GraphRequest)
  | languages
  | version
deriving Repr

/-! ### Options -/

/-- The option that asks for help. -/
def helpOption : OptionSpec OptionKey :=
  ⟨.help, "help", some 'h', .none⟩

/-- Options before the name of a command. -/
def generalOptions : List (OptionSpec OptionKey) :=
  [helpOption, ⟨.version, "version", some 'V', .none⟩]

/-- Options of a request for a shape. -/
def graphOptions : List (OptionSpec OptionKey) :=
  [helpOption, ⟨.perLine, "ndjson", none, .none⟩, ⟨.pointer, "json-pointer", none, .one⟩,
   ⟨.filter, "jq-expr", none, .one⟩, ⟨.input, "input", some 'i', .many⟩,
   ⟨.out, "out", some 'o', .one⟩]

/-- Options of a request for declarations. -/
def convertOptions : List (OptionSpec OptionKey) :=
  graphOptions ++
    [⟨.settings, "config", some 'c', .one⟩, ⟨.language, "lang", none, .one⟩,
     ⟨.rootName, "root-name", none, .one⟩, ⟨.convention, "naming", none, .one⟩,
     ⟨.nestedStyle, "nested", none, .one⟩, ⟨.optionalAs, "optional-as", none, .one⟩,
     ⟨.declarationKind, "declaration", none, .one⟩,
     ⟨.shareIdentical, "share-identical-types", none, .none⟩,
     ⟨.denyWarnings, "deny-warnings", none, .none⟩]

/-- How optional members are written, by name: as nullable or not. -/
def optionalNames : List (String × Bool) :=
  [("nullable", true), ("omitted", false)]

/-! ### Reading -/

/-- Why no request was made: a mistake, or a wish for help instead. -/
inductive Stop where
  | mistake (cause : UsageError)
  | help

/-- The value of an option that has to name one of several choices. -/
def choice {α : Type} (name value : String) (choices : List (String × α)) : Except Stop α :=
  match choices.lookup value with
  | some x => .ok x
  | none => .error (.mistake (.badValue name value))

/-- The value of an option that has to be a path. -/
def path (name value : String) : Except Stop String :=
  if value.isEmpty then .error (.mistake (.badValue name value)) else .ok value

/-- A request with one more option taken into account. -/
def ConvertRequest.withOption (r : ConvertRequest) (spec : OptionSpec OptionKey)
    (values : List String) : Except Stop ConvertRequest :=
  let value := values.headD ""
  match spec.key with
  | .help => .error .help
  | .version => .ok r
  | .perLine => .ok { r with selection.perLine := true }
  | .pointer => .ok { r with selection.pointer := some value }
  | .filter => .ok { r with selection.filter := some value }
  | .input => .ok { r with selection.inputs := r.selection.inputs ++ values }
  | .out => (path spec.name value).map fun x => { r with out := some x }
  | .settings => (path spec.name value).map fun x => { r with settingsFile := some x }
  | .language => .ok { r with overrides.targetLanguage := some value }
  | .rootName => .ok { r with overrides.rootName := some value }
  | .convention =>
    (choice spec.name value Settings.conventionNames).map fun x =>
      { r with overrides.convention := some x }
  | .nestedStyle =>
    (choice spec.name value Settings.nestedStyleNames).map fun x =>
      { r with overrides.nestedStyle := some x }
  | .optionalAs =>
    (choice spec.name value optionalNames).map fun x =>
      { r with overrides.optionalAsNullable := some x }
  | .declarationKind =>
    (choice spec.name value Settings.declarationKindNames).map fun x =>
      { r with overrides.declarationKind := some x }
  | .shareIdentical => .ok { r with overrides.shareIdentical := true }
  | .denyWarnings => .ok { r with denyWarnings := true }

/-- The request after what was found is taken into account, given the options seen before. -/
def ConvertRequest.withItems (r : ConvertRequest) :
    List OptionKey → Items OptionKey → Except Stop ConvertRequest
  | _, [] => .ok r
  | _, .error cause :: _ => .error (.mistake cause)
  | _, .ok (.positional text) :: _ => .error (.mistake (.strayArgument text))
  | seen, .ok (.option spec values) :: items =>
    if spec.arity ≠ .many ∧ seen.contains spec.key then .error (.mistake (.repeated spec.name))
    else do (← r.withOption spec values).withItems (spec.key :: seen) items

/-- A request read from arguments. -/
def readRequest (specs : List (OptionSpec OptionKey)) (arguments : List String) :
    Except Stop ConvertRequest :=
  ({} : ConvertRequest).withItems [] (scan specs none arguments)

/-- The commands that help can be asked for by name. -/
def commandNames : List String :=
  ["convert", "graph", "languages", "help"]

/-- What comes of a wish for help in place of a command, if there is such a command. -/
def readHelp : List String → Stop
  | [] => .help
  | [name] => if commandNames.contains name then .help else .mistake (.unknownCommand name)
  | _ :: name :: _ => .mistake (.unknownCommand name)

/-- The command of a name with its arguments. -/
def readNamed (name : String) (arguments : List String) : Except Stop Command :=
  match name with
  | "convert" => (readRequest convertOptions arguments).map .convert
  | "graph" => (readRequest graphOptions arguments).map fun r => .graph r.toGraphRequest
  | "languages" => (readRequest [helpOption] arguments).map fun _ => .languages
  | "help" => .error (readHelp arguments)
  | _ => .error (.mistake (.unknownCommand name))

/--
The command that arguments ask for; options before its name are for help and the version only.
-/
def Command.ofArguments : List String → Except Stop Command
  | [] => .error (.mistake .missingCommand)
  | argument :: rest =>
    match findOption? generalOptions argument with
    | none => readNamed argument rest
    | some found =>
      match found.items with
      | .ok (.option ⟨.version, _, _, _⟩ _) :: _ => .ok .version
      | .ok _ :: _ => .error .help
      | .error cause :: _ => .error (.mistake cause)
      | [] => .error (.mistake .missingCommand)

end SampleTypes.CommandLine
