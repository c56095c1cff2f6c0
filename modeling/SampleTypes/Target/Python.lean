import SampleTypes.Settings.Basic
import SampleTypes.Target.Layout

/-!
# Python

Objects become dataclasses, the root's class last; hints are lazy, so that a class may name
one that comes later.  In the inside style classes are nested and referred to by their dotted path.
A root without objects becomes an assignment.
-/

namespace SampleTypes.Target.Python

open Naming (Declaration Graph Member TypeRef)

/-- A type hint. -/
inductive TypeHint where
  | name (path : List String)
  | list (element : TypeHint)
  | orNone (inner : TypeHint)
  | union (arms : List TypeHint)
deriving Inhabited

/-- A field of a class. -/
structure ClassField where
  ident : String
  hint : TypeHint
  /-- The field is none unless it is given. -/
  defaultsToNone : Bool

/-- A dataclass, with the classes inside it. -/
structure Class where
  name : String
  nested : List Class
  fields : List ClassField

/-- What is written for a graph. -/
structure Module where
  classes : List Class
  /-- The name and the type of a root without objects. -/
  rootAlias : Option (String × TypeHint)
  usesAny : Bool

/-- The name of a kind. -/
def kindName : Primitive → String
  | .null => "None"
  | .bool => "bool"
  | .integer => "int"
  | .float => "float"
  | .string => "str"

mutual

/-- The type hint for a type, given the paths of the declarations. -/
def TypeHint.of (reference : Nat → List String) : TypeRef → TypeHint
  | .unknown => .name ["Any"]
  | .primitive kind => .name [kindName kind]
  | .declared id => .name (reference id)
  | .array element => .list (TypeHint.of reference element)
  | .nullable inner => .orNone (TypeHint.of reference inner)
  | .union arms => .union (TypeHint.ofArms reference arms)

/-- The hints for several types. -/
def TypeHint.ofArms (reference : Nat → List String) : List TypeRef → List TypeHint
  | [] => []
  | arm :: arms => TypeHint.of reference arm :: TypeHint.ofArms reference arms

end

/-- The field for a member.  An optional one may be none; none alone needs no second none. -/
def ClassField.of (reference : Nat → List String) (member : Member) : ClassField :=
  let hint := TypeHint.of reference member.type
  { ident := member.ident
    hint := if member.optional && !member.type.isNull then .orNone hint else hint
    defaultsToNone := member.optional }

mutual

/-- A declaration as a class at the given path, with those under it inside. -/
def nest (convention : Ident.Convention) (path : List String) (name : String) : Declaration → Class
  | ⟨_, _, members, nested⟩ =>
    let here := path ++ [name]
    let names := nested.map fun d => (d.id, nestedName convention members d.name)
    { name
      nested := nestAll convention here members nested
      fields := members.map (ClassField.of fun id => here ++ (names.lookup id).toList) }

/-- Several declarations inside the class at the given path. -/
def nestAll (convention : Ident.Convention) (path : List String) (siblings : List Member) :
    List Declaration → List Class
  | [] => []
  | d :: ds =>
    nest convention path (nestedName convention siblings d.name) d
      :: nestAll convention path siblings ds

end

/-- A declaration by itself, which refers to the others by name. -/
def Class.hoisted (graph : Graph) (d : Declaration) : Class :=
  ⟨d.name, [], d.members.map (ClassField.of fun id => [graph.nameOf id])⟩

/-- The declarations with the root's own one moved to the end. -/
def rootLast (graph : Graph) (ds : List Declaration) : List Declaration :=
  let isRoot := fun d : Declaration => graph.rootDeclaration? == some d.id
  ds.filter (fun d => !isRoot d) ++ (graph.declarations.filter isRoot)

/-- The module for a graph. -/
def Module.of (settings : Settings) (graph : Graph) : Module :=
  { classes :=
      match settings.nestedStyle with
      | .hoisted => (rootLast graph graph.declarations).map (Class.hoisted graph)
      | .inside => (rootLast graph graph.forest).map fun d => nest settings.convention [] d.name d
    rootAlias :=
      if graph.needsAlias then
        some (graph.rootName, TypeHint.of (fun id => [graph.nameOf id]) graph.root)
      else none
    usesAny := graph.mentionsUnknown }

/-! ### Text -/

mutual

/-- The text of a type hint. -/
def TypeHint.text : TypeHint → String
  | .name path => ".".intercalate path
  | .list element => "list[" ++ TypeHint.text element ++ "]"
  | .orNone inner => TypeHint.text inner ++ " | None"
  | .union arms => " | ".intercalate (TypeHint.texts arms)

/-- The texts of several hints. -/
def TypeHint.texts : List TypeHint → List String
  | [] => []
  | arm :: arms => TypeHint.text arm :: TypeHint.texts arms

end

/-- The line of a field, without its newline. -/
def ClassField.text (level : Nat) (f : ClassField) : String :=
  indent level 4 ++ f.ident ++ ": " ++ f.hint.text
    ++ (if f.defaultsToNone then " = None" else "")

mutual

/-- The text of a class on a level: the classes inside it, then its fields. -/
def Class.text (level : Nat) : Class → String
  | ⟨name, nested, fields⟩ =>
    let pad := indent level 4
    let own :=
      if fields.isEmpty then [] else ["\n".intercalate (fields.map (ClassField.text (level + 1)))]
    let sections := Class.texts (level + 1) nested ++ own
    let body := if sections.isEmpty then [indent (level + 1) 4 ++ "pass"] else sections
    pad ++ "@dataclass(kw_only=True)\n" ++ pad ++ "class " ++ name ++ ":\n"
      ++ "\n\n".intercalate body

/-- The texts of several classes. -/
def Class.texts (level : Nat) : List Class → List String
  | [] => []
  | c :: cs => Class.text level c :: Class.texts level cs

end

/-- The import lines after the first. -/
def Module.imports (m : Module) : List String :=
  (if m.classes.isEmpty then [] else ["from dataclasses import dataclass"])
    ++ (if m.usesAny then ["from typing import Any"] else [])

/-- The text of a module: imports, classes and alias with two blank lines between. -/
def Module.text (m : Module) : String :=
  let imports :=
    "from __future__ import annotations"
      ++ (if m.imports.isEmpty then "" else "\n\n" ++ "\n".intercalate m.imports)
  let aliasText := m.rootAlias.map fun (name, hint) => name ++ " = " ++ hint.text
  imports ++ "\n\n\n" ++ "\n\n\n".intercalate (Class.texts 0 m.classes ++ aliasText.toList) ++ "\n"

end SampleTypes.Target.Python
