import SampleTypes.Proofs.Target.Blocks
import SampleTypes.Proofs.Target.RootAlias

/-!
# Scripts of the languages

What a text in each language looks like, told from the declarations right away: how a type is
spelled, how a member is written, what a block is and what stands around all blocks.

* `spelling` is the text of a type, in which declarations are called by what they are called where
  they stand, and `TypeExpr.text_of` (in Python `TypeHint.text_of`) shows that writers print it;
* `memberText` is the text of a member, and `script` puts everything together.
-/

namespace SampleTypes

open Naming (Graph Member TypeRef)

namespace Naming.TypeRef

/-- A null besides other values is in the type. -/
def isNullable : TypeRef → Bool
  | .nullable _ => true
  | _ => false

/-- The type with null besides its values, or the type itself. -/
def orNull (type : TypeRef) (withNull : Bool) : TypeRef :=
  if withNull then .nullable type else type

end Naming.TypeRef

namespace Target

/-! ### C# -/

namespace CSharp

/-- The text of a type, given the names of the declarations. -/
def spelling (reference : Nat → String) : TypeRef → String
  | .unknown => "object"
  | .union _ => "object"
  | .primitive .null => "object?"
  | .primitive .bool => "bool"
  | .primitive .integer => "long"
  | .primitive .float => "double"
  | .primitive .string => "string"
  | .declared id => reference id
  | .array element => "List<" ++ spelling reference element ++ ">"
  | .nullable inner =>
    spelling reference inner ++ (if inner.isNullable || inner.isNull then "" else "?")

/-- The text of a member: a property, or a parameter of a record. -/
def memberText (kind : DeclarationKind) (reference : Nat → String) (level : Nat) (m : Member) :
    String :=
  let pad := indent level 4
  let type := spelling reference (m.type.orNull m.optional)
  let argument := "JsonPropertyName(" ++ stringLiteral m.key ++ ")"
  match kind with
  | .record =>
    pad ++ (if unescaped m.ident = m.key then "" else "[property: " ++ argument ++ "] ")
      ++ type ++ " " ++ m.ident
  | _ =>
    (if unescaped m.ident = m.key then "" else pad ++ "[" ++ argument ++ "]\n")
      ++ pad ++ "public " ++ type ++ " " ++ m.ident ++ " \x7b get; set; \x7d"

/-- The text of a block. -/
def blockText (kind : DeclarationKind) (level : Nat) (name : String)
    (inside members : List String) : String :=
  let pad := indent level 4
  match kind with
  | .record =>
    pad ++ "public record " ++ name ++ "("
      ++ (if members.isEmpty then "" else "\n" ++ ",\n".intercalate members ++ "\n" ++ pad) ++ ")"
      ++ (if inside.isEmpty then ";"
          else "\n" ++ pad ++ "\x7b\n" ++ "\n\n".intercalate inside ++ "\n" ++ pad ++ "\x7d")
  | _ =>
    let word := if kind = .struct then "struct" else "class"
    let parts := inside ++ (if members.isEmpty then [] else ["\n".intercalate members])
    pad ++ "public " ++ word ++ " " ++ name ++ "\n" ++ pad ++ "\x7b\n"
      ++ "\n\n".intercalate parts ++ (if parts.isEmpty then "" else "\n") ++ pad ++ "\x7d"

/-- How C# is written. -/
def script (kind : DeclarationKind) : Script where
  imports := ["using System.Collections.Generic;", "using System.Text.Json.Serialization;"]
  file imports blocks comment :=
    "\n\n".intercalate ((if imports.isEmpty then [] else ["\n".intercalate imports])
      ++ blocks ++ comment.toList) ++ "\n"
  block := blockText kind
  member settings graph := memberText kind (settings.header graph)
  aliasLine graph :=
    Language.csharp.aliasText graph.rootName (spelling graph.nameOf graph.root)

theorem TypeExpr.orNull_orNull (t : TypeExpr) : t.orNull.orNull = t.orNull := by
  cases t <;> rfl

theorem TypeExpr.orNull_of (reference : Nat → String) (t : TypeRef) :
    (TypeExpr.of reference t).orNull =
      if t.isNullable || t.isNull then TypeExpr.of reference t
      else .nullable (TypeExpr.of reference t) := by
  cases t with
  | primitive kind => cases kind <;> rfl
  | nullable inner => exact TypeExpr.orNull_orNull _
  | _ => rfl

/-- A type is printed as it is spelled. -/
theorem TypeExpr.text_of (reference : Nat → String) : (t : TypeRef) →
    (TypeExpr.of reference t).text = spelling reference t
  | .unknown => rfl
  | .union _ => rfl
  | .primitive kind => by cases kind <;> rfl
  | .declared _ => rfl
  | .array element => by
    rw [TypeExpr.of, TypeExpr.text, spelling, TypeExpr.text_of reference element]
  | .nullable inner => by
    -- the writer looks at what it made of the inner type, the script at the inner type itself
    rw [TypeExpr.of, TypeExpr.orNull_of, spelling, ← TypeExpr.text_of reference inner]
    split
    · rw [String.append_empty]
    · rw [TypeExpr.text]

/-- A property as a member of a declaration of a kind. -/
def Property.text (kind : DeclarationKind) (level : Nat) (p : Property) : String :=
  match kind with
  | .record => p.parameterText level
  | _ => p.memberText level

theorem Property.text_type_of (reference : Nat → String) (m : Member) :
    (Property.of reference m).type.text = spelling reference (m.type.orNull m.optional) := by
  rw [← TypeExpr.text_of]
  unfold Property.of TypeRef.orNull
  cases m.optional <;> rfl

/-- A mark is written where the identifier does not spell the key. -/
theorem Property.getD_map_jsonName_of (reference : Nat → String) (m : Member)
    (mark : String → String) : ((Property.of reference m).jsonName.map mark).getD ""
      = if unescaped m.ident = m.key then "" else mark m.key := by
  unfold Property.of
  dsimp only
  split <;> rfl

theorem Property.text_of (kind : DeclarationKind) (reference : Nat → String) (level : Nat)
    (m : Member) :
    (Property.of reference m).text kind level = CSharp.memberText kind reference level m := by
  have hident : (Property.of reference m).ident = m.ident := rfl
  unfold CSharp.memberText Property.text
  cases kind with
  | record =>
    unfold Property.parameterText
    dsimp only
    rw [Property.getD_map_jsonName_of, Property.text_type_of, hident]
    rfl
  | plainClass | struct =>
    unfold Property.memberText
    dsimp only
    rw [Property.getD_map_jsonName_of, Property.text_type_of, hident]
    rfl

end CSharp

/-! ### Python -/

namespace Python

mutual

/-- The text of a type, given the paths of the declarations. -/
def spelling (reference : Nat → List String) : TypeRef → String
  | .unknown => "Any"
  | .primitive .null => "None"
  | .primitive .bool => "bool"
  | .primitive .integer => "int"
  | .primitive .float => "float"
  | .primitive .string => "str"
  | .declared id => ".".intercalate (reference id)
  | .array element => "list[" ++ spelling reference element ++ "]"
  | .nullable inner => spelling reference inner ++ " | None"
  | .union arms => " | ".intercalate (spellings reference arms)

/-- The texts of several types. -/
def spellings (reference : Nat → List String) : List TypeRef → List String
  | [] => []
  | arm :: arms => spelling reference arm :: spellings reference arms

end

/-- The line of a member, without its newline. -/
def memberText (reference : Nat → List String) (level : Nat) (m : Member) : String :=
  indent level 4 ++ m.ident ++ ": "
    ++ spelling reference (m.type.orNull (m.optional && !m.type.isNull))
    ++ (if m.optional then " = None" else "")

/-- The text of a block. -/
def blockText (level : Nat) (name : String) (inside members : List String) : String :=
  let pad := indent level 4
  let parts := inside ++ (if members.isEmpty then [] else ["\n".intercalate members])
  pad ++ "@dataclass(kw_only=True)\n" ++ pad ++ "class " ++ name ++ ":\n"
    ++ "\n\n".intercalate (if parts.isEmpty then [indent (level + 1) 4 ++ "pass"] else parts)

/-- How Python is written. -/
def script : Script where
  imports := ["from dataclasses import dataclass", "from typing import Any"]
  file imports blocks aliasText :=
    "from __future__ import annotations"
      ++ (if imports.isEmpty then "" else "\n\n" ++ "\n".intercalate imports)
      ++ "\n\n\n" ++ "\n\n\n".intercalate (blocks ++ aliasText.toList) ++ "\n"
  block := blockText
  member settings graph := memberText (settings.path graph)
  aliasLine graph :=
    Language.python.aliasText graph.rootName (spelling (fun id => [graph.nameOf id]) graph.root)

mutual

/-- A type is printed as it is spelled. -/
theorem TypeHint.text_of (reference : Nat → List String) : (t : TypeRef) →
    (TypeHint.of reference t).text = spelling reference t
  | .unknown => rfl
  | .primitive kind => by cases kind <;> rfl
  | .declared _ => rfl
  | .array element => by
    rw [TypeHint.of, TypeHint.text, spelling, TypeHint.text_of reference element]
  | .nullable inner => by
    rw [TypeHint.of, TypeHint.text, spelling, TypeHint.text_of reference inner]
  | .union arms => by
    rw [TypeHint.of, TypeHint.text, spelling, TypeHint.texts_ofArms reference arms]

theorem TypeHint.texts_ofArms (reference : Nat → List String) : (ts : List TypeRef) →
    TypeHint.texts (TypeHint.ofArms reference ts) = spellings reference ts
  | [] => rfl
  | t :: ts => by
    rw [TypeHint.ofArms, TypeHint.texts, spellings, TypeHint.text_of reference t,
      TypeHint.texts_ofArms reference ts]

end

example : (TypeHint.of (fun _ => ["Root", "Tag"]) (.array (.nullable (.declared 1)))).text
    = "list[Root.Tag | None]" := by
  decide

theorem ClassField.text_of (reference : Nat → List String) (level : Nat) (m : Member) :
    (ClassField.of reference m).text level = memberText reference level m := by
  have hhint : (ClassField.of reference m).hint.text
      = spelling reference (m.type.orNull (m.optional && !m.type.isNull)) := by
    rw [← TypeHint.text_of]
    unfold ClassField.of TypeRef.orNull
    cases m.optional && !m.type.isNull <;> rfl
  rw [ClassField.text, hhint]
  rfl

end Python

/-! ### TypeScript -/

namespace TypeScript

/-- A type that is put in parentheses before brackets. -/
def needsParens : TypeRef → Bool
  | .nullable _ => true
  | .union _ => true
  | _ => false

mutual

/-- The text of a type, given the names of the declarations. -/
def spelling (reference : Nat → String) : TypeRef → String
  | .unknown => "unknown"
  | .primitive .null => "null"
  | .primitive .bool => "boolean"
  | .primitive .integer => "number"
  | .primitive .float => "number"
  | .primitive .string => "string"
  | .declared id => reference id
  | .array element =>
    if needsParens element then "(" ++ spelling reference element ++ ")[]"
    else spelling reference element ++ "[]"
  | .nullable inner => spelling reference inner ++ " | null"
  | .union arms => " | ".intercalate (spellings reference arms)

/-- The texts of several types. -/
def spellings (reference : Nat → String) : List TypeRef → List String
  | [] => []
  | arm :: arms => spelling reference arm :: spellings reference arms

end

/-- The line of a member, with its newline. -/
def memberText (asNullable : Bool) (reference : Nat → String) (m : Member) : String :=
  "  " ++ m.ident ++ (if m.optional && !asNullable then "?" else "") ++ ": "
    ++ spelling reference (m.type.orNull (m.optional && asNullable && !m.type.isNull)) ++ ";\n"

/-- How TypeScript is written where every declaration is an interface. -/
def script : Script where
  imports := []
  file _ blocks aliasText := "\n\n".intercalate (blocks ++ aliasText.toList) ++ "\n"
  block _ name _ members :=
    "export interface " ++ name ++ " \x7b\n" ++ String.join members ++ "\x7d"
  member settings graph _ := memberText settings.optionalAsNullable (settings.header graph)
  aliasLine graph :=
    Language.typescript.aliasText graph.rootName (spelling graph.nameOf graph.root)

theorem isCompound_of_name (nameOf : Nat → String) (t : TypeRef) :
    (TypeExpr.of (fun id => .name (nameOf id)) t).isCompound = needsParens t := by
  cases t <;> rfl

mutual

/-- A type is printed as it is spelled. -/
theorem TypeExpr.text_of (nameOf : Nat → String) (level : Nat) : (t : TypeRef) →
    (TypeExpr.of (fun id => .name (nameOf id)) t).text level = spelling nameOf t
  | .unknown => rfl
  | .primitive kind => by cases kind <;> rfl
  | .declared _ => rfl
  | .array element => by
    rw [TypeExpr.of, TypeExpr.text, spelling, isCompound_of_name,
      TypeExpr.text_of nameOf level element]
  | .nullable inner => by
    rw [TypeExpr.of, TypeExpr.text, spelling, TypeExpr.text_of nameOf level inner]
  | .union arms => by
    rw [TypeExpr.of, TypeExpr.text, spelling, TypeExpr.texts_ofArms nameOf level arms]

theorem TypeExpr.texts_ofArms (nameOf : Nat → String) (level : Nat) : (ts : List TypeRef) →
    TypeExpr.texts level (TypeExpr.ofArms (fun id => .name (nameOf id)) ts) = spellings nameOf ts
  | [] => rfl
  | t :: ts => by
    rw [TypeExpr.ofArms, TypeExpr.texts, spellings, TypeExpr.text_of nameOf level t,
      TypeExpr.texts_ofArms nameOf level ts]

end

theorem Property.text_type_of (asNullable : Bool) (nameOf : Nat → String) (level : Nat)
    (m : Member) :
    (Property.of asNullable (fun id => .name (nameOf id)) m).type.text level
      = spelling nameOf (m.type.orNull (m.optional && asNullable && !m.type.isNull)) := by
  rw [← TypeExpr.text_of nameOf level]
  unfold Property.of TypeRef.orNull
  cases m.optional && asNullable && !m.type.isNull <;> rfl

theorem propertyLines_of (asNullable : Bool) (nameOf : Nat → String) (ms : List Member) :
    TypeExpr.propertyLines 1 (ms.map (Property.of asNullable fun id => .name (nameOf id)))
      = ms.map (memberText asNullable nameOf) := by
  induction ms with
  | nil => rfl
  | cons m ms ih =>
    have hindent : indent 1 2 = "  " := by
      decide
    have htype := Property.text_type_of asNullable nameOf 1 m
    rw [List.map_cons, List.map_cons, memberText, ← ih, ← htype, ← hindent]
    rfl

end TypeScript

/-! ### Rust -/

namespace Rust

/-- The text of a type, given the names of the declarations. -/
def spelling (reference : Nat → String) : TypeRef → String
  | .unknown => "serde_json::Value"
  | .union _ => "serde_json::Value"
  | .primitive .null => "serde_json::Value"
  | .primitive .bool => "bool"
  | .primitive .integer => "i64"
  | .primitive .float => "f64"
  | .primitive .string => "String"
  | .declared id => reference id
  | .array element => "Vec<" ++ spelling reference element ++ ">"
  | .nullable inner =>
    if inner.isNullable then spelling reference inner
    else "Option<" ++ spelling reference inner ++ ">"

/-- The lines of a member, each with its newline. -/
def memberText (asNullable : Bool) (reference : Nat → String) (m : Member) : String :=
  let rename := if unescaped m.ident = m.key then [] else ["rename = " ++ Text.quoted m.key]
  let omission := if m.optional && !asNullable then
    ["default", "skip_serializing_if = \"Option::is_none\""] else []
  let pad := "    "
  (if (rename ++ omission).isEmpty then ""
    else pad ++ "#[serde(" ++ ", ".intercalate (rename ++ omission) ++ ")]\n")
    ++ pad ++ "pub " ++ m.ident ++ ": " ++ spelling reference (m.type.orNull m.optional) ++ ",\n"

/-- How Rust is written. -/
def script : Script where
  imports := ["use serde::\x7bDeserialize, Serialize\x7d;"]
  file imports blocks aliasText :=
    "\n\n".intercalate (imports ++ blocks ++ aliasText.toList) ++ "\n"
  block _ name _ members :=
    "#[derive(Debug, Clone, PartialEq, Serialize, Deserialize)]\npub struct " ++ name
      ++ (if members.isEmpty then " \x7b\x7d" else " \x7b\n" ++ String.join members ++ "\x7d")
  member settings graph _ := memberText settings.optionalAsNullable (settings.header graph)
  aliasLine graph :=
    Language.rust.aliasText graph.rootName (spelling graph.nameOf graph.root)

theorem TypeExpr.orAbsent_orAbsent (t : TypeExpr) : t.orAbsent.orAbsent = t.orAbsent := by
  cases t <;> rfl

theorem TypeExpr.orAbsent_of (reference : Nat → String) (t : TypeRef) :
    (TypeExpr.of reference t).orAbsent =
      if t.isNullable then TypeExpr.of reference t else .option (TypeExpr.of reference t) := by
  cases t with
  | nullable inner => exact TypeExpr.orAbsent_orAbsent _
  | _ => rfl

/-- A type is printed as it is spelled. -/
theorem TypeExpr.text_of (reference : Nat → String) : (t : TypeRef) →
    (TypeExpr.of reference t).text = spelling reference t
  | .unknown => rfl
  | .union _ => rfl
  | .primitive kind => by cases kind <;> rfl
  | .declared _ => rfl
  | .array element => by
    rw [TypeExpr.of, TypeExpr.text, spelling, TypeExpr.text_of reference element]
  | .nullable inner => by
    rw [TypeExpr.of, TypeExpr.orAbsent_of, spelling, ← TypeExpr.text_of reference inner]
    split
    · rfl
    · rw [TypeExpr.text]

theorem StructField.text_of (asNullable : Bool) (reference : Nat → String) (m : Member) :
    (StructField.of asNullable reference m).text = memberText asNullable reference m := by
  have hindent : indent 1 4 = "    " := by
    decide
  have htype : (StructField.of asNullable reference m).type.text
      = spelling reference (m.type.orNull m.optional) := by
    rw [← TypeExpr.text_of]
    unfold StructField.of TypeRef.orNull
    cases m.optional <;> rfl
  have hattributes : (StructField.of asNullable reference m).attributes
      = (if unescaped m.ident = m.key then [] else ["rename = " ++ Text.quoted m.key])
        ++ (if m.optional && !asNullable then
          ["default", "skip_serializing_if = \"Option::is_none\""] else []) := by
    rw [StructField.attributes]
    unfold StructField.of
    dsimp only
    split <;> rfl
  unfold StructField.text memberText
  dsimp only
  rw [hattributes, htype, hindent]
  rfl

end Rust

/-! ### All languages -/

/-- How a language is written. -/
def Language.script (language : Language) (kind : DeclarationKind) : Script :=
  match language with
  | .csharp => CSharp.script kind
  | .typescript => TypeScript.script
  | .python => Python.script
  | .rust => Rust.script

/-- The alias of a graph is the line that the script has for it. -/
theorem Language.alias?_eq_aliasLine (language : Language) (settings : Settings) (graph : Graph) :
    language.alias? settings graph = if graph.needsAlias then
      some ((language.script settings.declarationKind).aliasLine graph) else none := by
  rw [alias?_eq]
  cases language with
  | csharp => rw [Language.rootText, CSharp.TypeExpr.text_of]; rfl
  | typescript => rw [Language.rootText, TypeScript.TypeExpr.text_of]; rfl
  | python => rw [Language.rootText, Python.TypeHint.text_of]; rfl
  | rust => rw [Language.rootText, Rust.TypeExpr.text_of]; rfl

end Target

end SampleTypes
