import SampleTypes.Naming.Resolve
import SampleTypes.Shape.Infer
import SampleTypes.Target.CSharp
import SampleTypes.Target.Python
import SampleTypes.Target.Rust
import SampleTypes.Target.TypeScript

/-!
# Conversion

From samples to declarations: the settings are checked, the shape of all samples is inferred, its
objects are named, and the named graph is written in the target language.
-/

namespace SampleTypes

open Naming (Context Graph Warning)
open Target (Language)

/-- Declarations, and the warnings on the names in them. -/
structure Conversion where
  output : String
  warnings : List Warning
deriving DecidableEq

/-- The text of a graph in a language. -/
def Target.Language.render (language : Language) (settings : Settings) (graph : Graph) : String :=
  match language with
  | .csharp => (CSharp.File.of settings graph).text
  | .typescript => (TypeScript.File.of settings graph).text
  | .python => (Python.Module.of settings graph).text
  | .rust => (Rust.File.of settings graph).text

/-- What naming depends on, by the settings. -/
def Settings.naming (settings : Settings) (language : Language) : Context :=
  ⟨language, settings.convention, settings.shareIdentical⟩

/-- Names a shape and writes it in a language. -/
def Settings.write (settings : Settings) (language : Language) (shape : Shape) : Conversion :=
  let (graph, warnings) := (settings.naming language).resolve shape settings.rootName
  ⟨language.render settings graph, warnings⟩

/-- The declarations for a shape. -/
def Settings.convertShape (settings : Settings) (shape : Shape) :
    Except SettingsError Conversion := do
  let language ← settings.check
  .ok (settings.write language shape)

/-- The declarations for samples of one root type. -/
def Settings.convert (settings : Settings) (samples : List Json.Value) :
    Except SettingsError Conversion :=
  settings.convertShape (Shape.ofSamples samples)

end SampleTypes
