import SampleTypes.Decimal.Shortest
import SampleTypes.Json.Reader
import SampleTypes.Settings.Basic
import SampleTypes.Text.Quoted

/-!
# Reading settings

Settings are written as a JSON object with up to seven members, in any order and each at most once,
or as an array with the values of the first few settings in their order.  What is not given keeps
its default.  A setting with a fixed set of choices takes the name of one, or an object with the
name as its only key and null under it.  A failure says in which member it was met, what was wrong,
and where in the text.
-/

namespace SampleTypes.Settings

open Json (Cursor Fault Number Position ReadError)

/-- One of the settings. -/
inductive Item where
  | targetLanguage
  | rootName
  | convention
  | nestedStyle
  | optionalAsNullable
  | declarationKind
  | shareIdentical
deriving DecidableEq, Repr

namespace Item

/-- The settings in their order. -/
def all : List Item :=
  [.targetLanguage, .rootName, .convention, .nestedStyle, .optionalAsNullable, .declarationKind,
   .shareIdentical]

/-- The key of a setting. -/
def key : Item → String
  | .targetLanguage => "targetLanguage"
  | .rootName => "rootName"
  | .convention => "namingConvention"
  | .nestedStyle => "nestedTypeStyle"
  | .optionalAsNullable => "emitOptionalAsNullable"
  | .declarationKind => "declarationKind"
  | .shareIdentical => "shareIdenticalTypes"

/-- The setting with a key. -/
def withKey? (key : String) : Option Item :=
  all.find? (·.key == key)

end Item

/-! ### Failures -/

/-- One step from the settings to the place of a failure. -/
inductive Step where
  | key (name : String)
  | index (n : Nat)
  /-- A member whose key could not be read. -/
  | unnamed
deriving DecidableEq, Repr

/-- The text of a path: keys with points between them, indices in brackets. -/
def pathText : List Step → String
  | [] => "."
  | step :: steps =>
    let first :=
      match step with
      | .key name => name
      | .index n => "[" ++ toString n ++ "]"
      | .unnamed => "?"
    steps.foldl
      (fun text step =>
        match step with
        | .key name => text ++ "." ++ name
        | .index n => text ++ "[" ++ toString n ++ "]"
        | .unnamed => text ++ ".?")
      first

/-- A value that stands where another type of value belongs. -/
inductive Found where
  | null
  | bool (value : Bool)
  | number (value : Number)
  | string (value : String)
  | array
  | object

/-- A found value in words. -/
def Found.text : Found → String
  | .null => "null"
  | .bool value => "boolean `" ++ toString value ++ "`"
  | .number (.integer n) => "integer `" ++ toString n ++ "`"
  | .number (.float x) => "floating point `" ++ Decimal.floatText x ++ "`"
  | .string value => "string " ++ Text.quoted value
  | .array => "sequence"
  | .object => "map"

/-- What can be wrong with a text of settings. -/
inductive Complaint where
  | fault (cause : Fault)
  | wrongType (found : Found) (expected : String)
  | unknownChoice (name : String) (choices : List String)
  | unknownKey (name : String)
  | repeatedKey (name : String)

/-- Names in backquotes, as alternatives. -/
def alternatives (names : List String) : String :=
  let quoted := names.map fun name => "`" ++ name ++ "`"
  match quoted with
  | [a, b] => a ++ " or " ++ b
  | _ => "one of " ++ ", ".intercalate quoted

/-- The wording of a complaint. -/
def Complaint.message : Complaint → String
  | .fault f => f.message
  | .wrongType found expected => "invalid type: " ++ found.text ++ ", expected " ++ expected
  | .unknownChoice name choices =>
    "unknown variant `" ++ name ++ "`, expected " ++ alternatives choices
  | .unknownKey name =>
    "unknown field `" ++ name ++ "`, expected " ++ alternatives (Item.all.map Item.key)
  | .repeatedKey name => "duplicate field `" ++ name ++ "`"

/-- A complaint, its place in the settings, and its position in the text. -/
structure Failure where
  path : List Step
  complaint : Complaint
  position : Position

/-- The failure as a settings error. -/
def Failure.toError (f : Failure) : SettingsError :=
  .unreadable (pathText f.path) (f.position.locate f.complaint.message)

/-- A result, or the failure that was met. -/
abbrev SettingReader := Except Failure

/-- A fault of the JSON text, met at a place in the settings. -/
def atPath {α : Type} (path : List Step) (result : Except ReadError α) : SettingReader α :=
  result.mapError fun e => ⟨path, .fault e.fault, e.position⟩

/-- Failures of a part, seen from the whole. -/
def under {α : Type} (step : Step) (result : SettingReader α) : SettingReader α :=
  result.mapError fun f => { f with path := step :: f.path }

/-! ### Values -/

/-- Reads the value that comes next only to say what it is.  Arrays and objects are not entered. -/
def readFound (c : Cursor) : Json.Reader (Found × Cursor) :=
  match c.rest with
  | [] => c.fail .endInValue
  | 'n' :: _ => do .ok (.null, ← Json.readWord ['u', 'l', 'l'] c.advance)
  | 't' :: _ => do .ok (.bool true, ← Json.readWord ['r', 'u', 'e'] c.advance)
  | 'f' :: _ => do .ok (.bool false, ← Json.readWord ['a', 'l', 's', 'e'] c.advance)
  | '"' :: _ => do
    let (s, c) ← Json.readString c
    .ok (.string s, c)
  | '[' :: _ => .ok (.array, c)
  | '\x7b' :: _ => .ok (.object, c)
  | '-' :: _ => do
    let (n, c) ← Json.readNumber true c.advance
    .ok (.number n, c)
  | ch :: _ =>
    if ch.isDigit then do
      let (n, c) ← Json.readNumber false c
      .ok (.number n, c)
    else c.failNext .expectedValue

/-- Refuses the value that comes next because another type of value belongs there. -/
def wrongType {α : Type} (expected : String) (c : Cursor) : SettingReader α := do
  let (found, c) ← atPath [] (readFound c)
  .error ⟨[], .wrongType found expected, c.position⟩

/-- Reads a text. -/
def readText (expected : String) (c : Cursor) : SettingReader (String × Cursor) :=
  let c := c.skipBlanks
  if c.rest.head? = some '"' then atPath [] (Json.readString c) else wrongType expected c

/-- Reads a truth value. -/
def readBool (c : Cursor) : SettingReader (Bool × Cursor) :=
  let c := c.skipBlanks
  match c.rest with
  | 't' :: _ => do .ok (true, ← atPath [] (Json.readWord ['r', 'u', 'e'] c.advance))
  | 'f' :: _ => do .ok (false, ← atPath [] (Json.readWord ['a', 'l', 's', 'e'] c.advance))
  | _ => wrongType "a boolean" c

/-- Reads a null. -/
def readNull (c : Cursor) : SettingReader Cursor :=
  let c := c.skipBlanks
  match c.rest with
  | 'n' :: _ => atPath [] (Json.readWord ['u', 'l', 'l'] c.advance)
  | _ => wrongType "unit" c

/-- Reads the name of a choice; the result has the name as it was written. -/
def readChoiceName {α : Type} (choices : List (String × α)) (c : Cursor) :
    SettingReader ((String × α) × Cursor) := do
  let (name, c) ← readText "variant identifier" c
  match choices.find? (·.1 == name) with
  | some choice => .ok (choice, c)
  | none => .error ⟨[], .unknownChoice name (choices.map (·.1)), c.position⟩

/-- Reads a choice: its name, or an object with the name as its key and null as its value. -/
def readChoice {α : Type} (choices : List (String × α)) (c : Cursor) :
    SettingReader (α × Cursor) :=
  let c := c.skipBlanks
  match c.rest with
  | [] => atPath [] (c.fail .endInValue)
  | '"' :: _ => do
    let ((_, value), c) ← readChoiceName choices c
    .ok (value, c)
  | '\x7b' :: _ => do
    match ← atPath [] (Json.readKeyStart true c.advance) with
    | none => atPath [] (c.advance.skipBlanks.failNext .expectedValue)
    | some c =>
      let ((name, value), c) ← readChoiceName choices c
      let c ← atPath [] (Json.readColon c)
      let c ← under (.key name) (readNull c)
      let c := c.skipBlanks
      match c.rest with
      | [] => atPath [] (c.fail .endInObject)
      | '\x7d' :: _ => .ok (value, c.advance)
      | _ :: _ => atPath [] (c.fail .expectedValue)
  | _ :: _ => atPath [] (c.failNext .expectedValue)

/-- The names of the conventions. -/
def conventionNames : List (String × Ident.Convention) :=
  [("PascalCase", .pascal), ("pascal", .pascal), ("camel", .camel), ("camelCase", .camel),
   ("snake", .snake), ("snake_case", .snake)]

/-- The names of the nested styles. -/
def nestedStyleNames : List (String × NestedStyle) :=
  [("inline", .inside), ("hoisted", .hoisted)]

/-- The names of the kinds of declaration. -/
def declarationKindNames : List (String × DeclarationKind) :=
  [("class", .plainClass), ("record", .record), ("struct", .struct)]

/-- Reads the value of one setting into the settings. -/
def readItem (item : Item) (settings : Settings) (c : Cursor) :
    SettingReader (Settings × Cursor) := do
  match item with
  | .targetLanguage =>
    let (value, c) ← readText "a string" c
    .ok ({ settings with targetLanguage := value }, c)
  | .rootName =>
    let (value, c) ← readText "a string" c
    .ok ({ settings with rootName := value }, c)
  | .convention =>
    let (value, c) ← readChoice conventionNames c
    .ok ({ settings with convention := value }, c)
  | .nestedStyle =>
    let (value, c) ← readChoice nestedStyleNames c
    .ok ({ settings with nestedStyle := value }, c)
  | .optionalAsNullable =>
    let (value, c) ← readBool c
    .ok ({ settings with optionalAsNullable := value }, c)
  | .declarationKind =>
    let (value, c) ← readChoice declarationKindNames c
    .ok ({ settings with declarationKind := value }, c)
  | .shareIdentical =>
    let (value, c) ← readBool c
    .ok ({ settings with shareIdentical := value }, c)

/-! ### Whole texts -/

/-- Where a bad key is reported: past it, and past the closing brace if that comes next. -/
def pastKey (c : Cursor) : Position :=
  let c := c.skipBlanks
  (if c.rest.head? = some '\x7d' then c.advance else c).position

/-- Reads the members of an object of settings; `fuel` bounds their number. -/
def readMembers :
    Nat → List Item → Bool → Settings → Cursor → SettingReader (Settings × Cursor)
  | 0, _, _, _, c => atPath [.unnamed] (c.fail .endInObject)
  | fuel + 1, seen, first, settings, c => do
    match ← atPath [.unnamed] (Json.readKeyStart first c) with
    | none => .ok (settings, c.skipBlanks.advance)
    | some c =>
      let (key, c) ← atPath [.unnamed] (Json.readString c)
      match Item.withKey? key with
      | none => .error ⟨[.key key], .unknownKey key, pastKey c⟩
      | some item =>
        if seen.contains item then .error ⟨[], .repeatedKey key, pastKey c⟩
        else
          let c ← atPath [] (Json.readColon c)
          let (settings, c) ← under (.key key) (readItem item settings c)
          readMembers fuel (item :: seen) false settings c

/-- The end of an array of settings, all of them read. -/
def readItemsEnd (c : Cursor) : Json.Reader Cursor :=
  let c := c.skipBlanks
  match c.rest with
  | [] => c.fail .endInList
  | ']' :: _ => .ok c.advance
  | ',' :: _ =>
    let c := c.advance.skipBlanks
    c.failNext (if c.rest.head? = some ']' then .trailingComma else .trailingCharacters)
  | _ :: _ => c.failNext .trailingCharacters

/-- Reads the values of the given settings from an array. -/
def readItems : List Item → Nat → Settings → Cursor → SettingReader (Settings × Cursor)
  | [], _, settings, c => do .ok (settings, ← atPath [] (readItemsEnd c))
  | item :: items, index, settings, c => do
    match ← atPath [] (Json.readElementStart (index == 0) c) with
    | none => .ok (settings, c.skipBlanks.advance)
    | some c =>
      let (settings, c) ← under (.index index) (readItem item settings c)
      readItems items (index + 1) settings c

/-- Reads settings from the start of a text. -/
def readSettings (c : Cursor) : SettingReader (Settings × Cursor) :=
  let c := c.skipBlanks
  match c.rest with
  | '\x7b' :: _ => readMembers (c.rest.length) [] true {} c.advance
  | '[' :: _ => readItems Item.all 0 {} c.advance
  | _ => wrongType "struct Config" c

/-- The settings that a text describes. -/
def parse (text : String) : Except SettingsError Settings :=
  (do
    let (settings, c) ← readSettings (Cursor.start text)
    atPath [] (Json.readEnd c)
    .ok settings : SettingReader Settings).mapError Failure.toError

end SampleTypes.Settings
