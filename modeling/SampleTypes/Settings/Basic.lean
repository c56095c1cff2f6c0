import SampleTypes.Ident.Convention
import SampleTypes.Target.Language

/-!
# Settings

What a conversion can be told: target language, root name, casing, and the style of the output.
`Settings.check` refuses settings that no output exists for, before any sample is looked at.
-/

namespace SampleTypes

open Ident (Convention)
open Target (Language)

/-- Where the type of a nested object is declared. -/
inductive NestedStyle where
  /-- Inside the declaration that holds it, or spelled out in it. -/
  | inside
  /-- Beside the others, at the top level. -/
  | hoisted
deriving DecidableEq, Repr, Inhabited

/-- The kind of declaration, for languages that have a choice. -/
inductive DeclarationKind where
  | plainClass
  | record
  | struct
deriving DecidableEq, Repr, Inhabited

/-- The settings of a conversion. -/
structure Settings where
  targetLanguage : String := "csharp"
  rootName : String := "Root"
  convention : Convention := .pascal
  nestedStyle : NestedStyle := .hoisted
  /-- Optional fields become nullable members rather than members that may be left out. -/
  optionalAsNullable : Bool := true
  declarationKind : DeclarationKind := .plainClass
  /-- Objects of one shape share one declaration. -/
  shareIdentical : Bool := false
deriving DecidableEq, Repr, Inhabited

/-- Why settings were refused. -/
inductive SettingsError where
  | unknownLanguage (name : String)
  | inlineUnsupported (language : Language)
  | sharedInline
  | rootNameWithoutLetters (name : String)
  /-- The text of the settings is at fault: the path to the place, and what is wrong there. -/
  | unreadable (path message : String)
deriving DecidableEq, Repr

/-- The wording of a settings error. -/
def SettingsError.message : SettingsError → String
  | .unknownLanguage name =>
    "unknown target language '" ++ name ++ "' (known: "
      ++ ", ".intercalate (Language.all.map Language.name) ++ ")"
  | .inlineUnsupported language => language.name ++ " does not support inline nested types"
  | .sharedInline => "invalid option combination: shared types need hoisted declarations"
  | .rootNameWithoutLetters name =>
    "invalid root name '" ++ name ++ "': it contains no identifier characters"
  | .unreadable path message => "failed to parse configuration at " ++ path ++ ": " ++ message

namespace Settings

/-- The checks that hold for every language. -/
def validate (settings : Settings) : Except SettingsError Unit :=
  if !settings.rootName.toList.any Text.isAlphanumeric then
    .error (.rootNameWithoutLetters settings.rootName)
  else if settings.shareIdentical ∧ settings.nestedStyle = .inside then .error .sharedInline
  else .ok ()

/-- All checks of the settings; the result is the target language. -/
def check (settings : Settings) : Except SettingsError Language := do
  settings.validate
  match Language.find? settings.targetLanguage with
  | none => .error (.unknownLanguage settings.targetLanguage)
  | some language =>
    if settings.nestedStyle = .inside ∧ !language.supportsInline then
      .error (.inlineUnsupported language)
    else .ok language

end Settings

end SampleTypes
