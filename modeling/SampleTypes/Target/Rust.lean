import SampleTypes.Settings.Basic
import SampleTypes.Target.Layout
import SampleTypes.Text.Quoted

/-!
# Rust

Objects become structs for serde, all at the top level.  There are no unions: a union, an unknown
type and null alone are `serde_json::Value`.  A root without objects becomes a type alias.
-/

namespace SampleTypes.Target.Rust

open Naming (Declaration Graph Member TypeRef)

/-- A type expression. -/
inductive TypeExpr where
  | name (text : String)
  | vec (element : TypeExpr)
  | option (inner : TypeExpr)
deriving Inhabited, DecidableEq

/-- A field of a struct. -/
structure StructField where
  /-- The key, where the identifier does not spell it. -/
  rename : Option String
  /-- The field is left out when it has no value, and may be missing. -/
  omittable : Bool
  ident : String
  type : TypeExpr
deriving DecidableEq

/-- A struct. -/
structure Struct where
  name : String
  fields : List StructField
deriving DecidableEq

/-- What is written for a graph. -/
structure File where
  structs : List Struct
  /-- The name and the type of a root without objects. -/
  typeAlias : Option (String × TypeExpr)

/-- The optional form of a type, which an optional type is already. -/
def TypeExpr.orAbsent : TypeExpr → TypeExpr
  | .option inner => .option inner
  | type => .option type

/-- The name of a kind. -/
def kindName : Primitive → String
  | .null => "serde_json::Value"
  | .bool => "bool"
  | .integer => "i64"
  | .float => "f64"
  | .string => "String"

/-- The expression for a type, given the names of the declarations. -/
def TypeExpr.of (reference : Nat → String) : TypeRef → TypeExpr
  | .unknown => .name "serde_json::Value"
  | .union _ => .name "serde_json::Value"
  | .primitive kind => .name (kindName kind)
  | .declared id => .name (reference id)
  | .array element => .vec (TypeExpr.of reference element)
  | .nullable inner => (TypeExpr.of reference inner).orAbsent

/-- An identifier without the mark of a raw one. -/
def unescaped (ident : String) : String :=
  match ident.toList with
  | 'r' :: '#' :: rest => String.ofList rest
  | _ => ident

/-- The field for a member. -/
def StructField.of (asNullable : Bool) (reference : Nat → String) (member : Member) : StructField :=
  let type := TypeExpr.of reference member.type
  { rename := if unescaped member.ident = member.key then none else some member.key
    omittable := member.optional && !asNullable
    ident := member.ident
    type := if member.optional then type.orAbsent else type }

/-- The struct for a declaration. -/
def Struct.of (asNullable : Bool) (graph : Graph) (d : Declaration) : Struct :=
  ⟨d.name, d.members.map (StructField.of asNullable graph.nameOf)⟩

/-- The file for a graph. -/
def File.of (settings : Settings) (graph : Graph) : File :=
  { structs := graph.declarations.map (Struct.of settings.optionalAsNullable graph)
    typeAlias :=
      if graph.needsAlias then some (graph.rootName, TypeExpr.of graph.nameOf graph.root)
      else none }

/-! ### Text -/

/-- The text of a type. -/
def TypeExpr.text : TypeExpr → String
  | .name text => text
  | .vec element => "Vec<" ++ element.text ++ ">"
  | .option inner => "Option<" ++ inner.text ++ ">"

/-- The arguments of a field's attribute. -/
def StructField.attributes (f : StructField) : List String :=
  (f.rename.map fun key => "rename = " ++ Text.quoted key).toList
    ++ (if f.omittable then ["default", "skip_serializing_if = \"Option::is_none\""] else [])

/-- The lines of a field, each with its newline. -/
def StructField.text (f : StructField) : String :=
  let pad := indent 1 4
  let mark :=
    if f.attributes.isEmpty then ""
    else pad ++ "#[serde(" ++ ", ".intercalate f.attributes ++ ")]\n"
  mark ++ pad ++ "pub " ++ f.ident ++ ": " ++ f.type.text ++ ",\n"

/-- The text of a struct. -/
def Struct.text (s : Struct) : String :=
  "#[derive(Debug, Clone, PartialEq, Serialize, Deserialize)]\npub struct " ++ s.name
    ++ (if s.fields.isEmpty then " \x7b\x7d"
        else " \x7b\n" ++ String.join (s.fields.map StructField.text) ++ "\x7d")

/-- The text of a file: import, structs and alias with blank lines between. -/
def File.text (file : File) : String :=
  let imports := if file.structs.isEmpty then [] else ["use serde::\x7bDeserialize, Serialize\x7d;"]
  let aliasText := file.typeAlias.map fun (name, type) =>
    "pub type " ++ name ++ " = " ++ type.text ++ ";"
  "\n\n".intercalate (imports ++ file.structs.map Struct.text ++ aliasText.toList) ++ "\n"

end SampleTypes.Target.Rust
