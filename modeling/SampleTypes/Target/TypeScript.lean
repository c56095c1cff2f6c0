import SampleTypes.Settings.Basic
import SampleTypes.Target.Layout

/-!
# TypeScript

Objects become interfaces; unions are written as they are.  In the inside style a nested object is
spelled out as an object literal type where it is used, and only the root's objects are interfaces.
A root without objects becomes a type alias.
-/

namespace SampleTypes.Target.TypeScript

open Naming (Declaration Graph Member TypeRef)

mutual

/-- A type expression. -/
inductive TypeExpr where
  | name (text : String)
  | array (element : TypeExpr)
  | orNull (inner : TypeExpr)
  | union (arms : List TypeExpr)
  | literal (properties : List Property)

/-- A property of an interface or an object literal type. -/
structure Property where
  ident : String
  /-- The property may be missing. -/
  omittable : Bool
  type : TypeExpr

end

instance : Inhabited TypeExpr := ⟨.name ""⟩

/-- An interface. -/
structure Interface where
  name : String
  properties : List Property

/-- What is written for a graph. -/
structure File where
  interfaces : List Interface
  /-- The name and the definition of a type alias. -/
  typeAlias : Option (String × TypeExpr)

/-- The name of a kind. -/
def kindName : Primitive → String
  | .null => "null"
  | .bool => "boolean"
  | .integer => "number"
  | .float => "number"
  | .string => "string"

mutual

/-- The expression for a type, given the expressions for the declarations. -/
def TypeExpr.of (reference : Nat → TypeExpr) : TypeRef → TypeExpr
  | .unknown => .name "unknown"
  | .primitive kind => .name (kindName kind)
  | .declared id => reference id
  | .array element => .array (TypeExpr.of reference element)
  | .nullable inner => .orNull (TypeExpr.of reference inner)
  | .union arms => .union (TypeExpr.ofArms reference arms)

/-- The expressions for several types. -/
def TypeExpr.ofArms (reference : Nat → TypeExpr) : List TypeRef → List TypeExpr
  | [] => []
  | arm :: arms => TypeExpr.of reference arm :: TypeExpr.ofArms reference arms

end

/--
The property for a member.  An optional member either may be null or may be missing; null alone
needs no second null.
-/
def Property.of (asNullable : Bool) (reference : Nat → TypeExpr) (member : Member) : Property :=
  let type := TypeExpr.of reference member.type
  { ident := member.ident
    omittable := member.optional && !asNullable
    type := if member.optional && asNullable && !member.type.isNull then .orNull type else type }

mutual

/-- A declaration spelled out, with those under it spelled out inside. -/
def spelledOut (asNullable : Bool) : Declaration → List Property
  | ⟨_, _, members, nested⟩ =>
    let inside := spelledOutAll asNullable nested
    members.map (Property.of asNullable fun id => .literal ((inside.lookup id).getD []))

/-- Several declarations spelled out, with their numbers. -/
def spelledOutAll (asNullable : Bool) : List Declaration → List (Nat × List Property)
  | [] => []
  | d :: ds => (d.id, spelledOut asNullable d) :: spelledOutAll asNullable ds

end

/-- A declaration as an interface that refers to other declarations by name. -/
def Interface.hoisted (asNullable : Bool) (graph : Graph) (d : Declaration) : Interface :=
  ⟨d.name, d.members.map (Property.of asNullable fun id => .name (graph.nameOf id))⟩

/-- The file for a graph. -/
def File.of (settings : Settings) (graph : Graph) : File :=
  { interfaces :=
      match settings.nestedStyle with
      | .hoisted => graph.declarations.map (Interface.hoisted settings.optionalAsNullable graph)
      | .inside => graph.forest.map fun d => ⟨d.name, spelledOut settings.optionalAsNullable d⟩
    typeAlias :=
      if graph.needsAlias then
        some (graph.rootName, TypeExpr.of (fun id => .name (graph.nameOf id)) graph.root)
      else none }

/-- The type needs parentheses before `[]`. -/
def TypeExpr.isCompound : TypeExpr → Bool
  | .orNull _ => true
  | .union _ => true
  | _ => false

mutual

/-- The text of a type on a line of the given level. -/
def TypeExpr.text (level : Nat) : TypeExpr → String
  | .name text => text
  | .array element =>
    let inner := TypeExpr.text level element
    if element.isCompound then "(" ++ inner ++ ")[]" else inner ++ "[]"
  | .orNull inner => TypeExpr.text level inner ++ " | null"
  | .union arms => " | ".intercalate (TypeExpr.texts level arms)
  | .literal properties =>
    "\x7b\n" ++ String.join (TypeExpr.propertyLines (level + 1) properties)
      ++ indent level 2 ++ "\x7d"

/-- The texts of several types. -/
def TypeExpr.texts (level : Nat) : List TypeExpr → List String
  | [] => []
  | arm :: arms => TypeExpr.text level arm :: TypeExpr.texts level arms

/-- The lines of properties, each with its newline. -/
def TypeExpr.propertyLines (level : Nat) : List Property → List String
  | [] => []
  | ⟨ident, omittable, type⟩ :: properties =>
    (indent level 2 ++ ident ++ (if omittable then "?" else "") ++ ": "
        ++ TypeExpr.text level type ++ ";\n")
      :: TypeExpr.propertyLines level properties

end

/-- The text of an interface. -/
def Interface.text (i : Interface) : String :=
  "export interface " ++ i.name ++ " " ++ (TypeExpr.literal i.properties).text 0

/-- The text of a file: its parts with blank lines between. -/
def File.text (file : File) : String :=
  let aliasText := file.typeAlias.map fun (name, type) =>
    "export type " ++ name ++ " = " ++ type.text 0 ++ ";"
  "\n\n".intercalate (file.interfaces.map Interface.text ++ aliasText.toList) ++ "\n"

end SampleTypes.Target.TypeScript
