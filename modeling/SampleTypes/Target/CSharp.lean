import SampleTypes.Settings.Basic
import SampleTypes.Target.Layout

/-!
# C#

Objects become classes, records or structs whose members carry the key as an attribute when the
identifier does not spell it.  There are no unions: a union, an unknown type and null alone are
`object`.  An optional member is always nullable.  A root without objects becomes a comment.
-/

namespace SampleTypes.Target.CSharp

open Naming (Declaration Graph Member TypeRef)

/-- A type expression. -/
inductive TypeExpr where
  | name (text : String)
  | list (element : TypeExpr)
  | nullable (inner : TypeExpr)
deriving Inhabited, DecidableEq

/-- A property of a type. -/
structure Property where
  /-- The key, where the identifier does not spell it. -/
  jsonName : Option String
  type : TypeExpr
  ident : String
deriving DecidableEq

/-- A class, record or struct, with the types declared inside it. -/
structure TypeDeclaration where
  name : String
  properties : List Property
  nested : List TypeDeclaration

/-- What is written for a graph. -/
structure File where
  kind : DeclarationKind
  declarations : List TypeDeclaration
  /-- The name and the type of a root without objects. -/
  rootComment : Option (String × TypeExpr)

/-- The nullable form of a type, which a nullable type is already. -/
def TypeExpr.orNull : TypeExpr → TypeExpr
  | .nullable inner => .nullable inner
  | type => .nullable type

/-- The type for a kind. -/
def TypeExpr.ofKind : Primitive → TypeExpr
  | .null => .nullable (.name "object")
  | .bool => .name "bool"
  | .integer => .name "long"
  | .float => .name "double"
  | .string => .name "string"

/-- The expression for a type, given the names of the declarations. -/
def TypeExpr.of (reference : Nat → String) : TypeRef → TypeExpr
  | .unknown => .name "object"
  | .union _ => .name "object"
  | .primitive kind => .ofKind kind
  | .declared id => .name (reference id)
  | .array element => .list (TypeExpr.of reference element)
  | .nullable inner => (TypeExpr.of reference inner).orNull

/-- An identifier without the marks that escape keywords. -/
def unescaped (ident : String) : String :=
  String.ofList (ident.toList.dropWhile (· == '@'))

/-- The property for a member. -/
def Property.of (reference : Nat → String) (member : Member) : Property :=
  let type := TypeExpr.of reference member.type
  { jsonName := if unescaped member.ident = member.key then none else some member.key
    type := if member.optional then type.orNull else type
    ident := member.ident }

mutual

/-- A declaration under the given name, with those under it inside. -/
def nest (convention : Ident.Convention) (name : String) : Declaration → TypeDeclaration
  | ⟨_, _, members, nested⟩ =>
    let names := nested.map fun d => (d.id, nestedName convention members d.name)
    { name
      properties := members.map (Property.of fun id => (names.lookup id).getD "")
      nested := nestAll convention members nested }

/-- Several declarations inside the type with the given members. -/
def nestAll (convention : Ident.Convention) (siblings : List Member) :
    List Declaration → List TypeDeclaration
  | [] => []
  | d :: ds =>
    nest convention (nestedName convention siblings d.name) d :: nestAll convention siblings ds

end

/-- A declaration by itself, which refers to the others by name. -/
def TypeDeclaration.hoisted (graph : Graph) (d : Declaration) : TypeDeclaration :=
  ⟨d.name, d.members.map (Property.of graph.nameOf), []⟩

/-- The file for a graph. -/
def File.of (settings : Settings) (graph : Graph) : File :=
  { kind := settings.declarationKind
    declarations :=
      match settings.nestedStyle with
      | .hoisted => graph.declarations.map (TypeDeclaration.hoisted graph)
      | .inside => graph.forest.map fun d => nest settings.convention d.name d
    rootComment :=
      if graph.needsAlias then some (graph.rootName, TypeExpr.of graph.nameOf graph.root)
      else none }

/-! ### What a file uses -/

/-- The type is a list or has one in it. -/
def TypeExpr.usesList : TypeExpr → Bool
  | .name _ => false
  | .list _ => true
  | .nullable inner => inner.usesList

mutual

/-- A property of the declaration, or of one inside it, satisfies `p`. -/
def TypeDeclaration.anyProperty (p : Property → Bool) : TypeDeclaration → Bool
  | ⟨_, properties, nested⟩ => properties.any p || anyPropertyOf p nested

/-- A property of one of several declarations satisfies `p`. -/
def TypeDeclaration.anyPropertyOf (p : Property → Bool) : List TypeDeclaration → Bool
  | [] => false
  | d :: ds => TypeDeclaration.anyProperty p d || TypeDeclaration.anyPropertyOf p ds

end

/-- Lists are used. -/
def File.usesLists (file : File) : Bool :=
  TypeDeclaration.anyPropertyOf (·.type.usesList) file.declarations
    || file.rootComment.any (·.2.usesList)

/-- Attributes are used. -/
def File.usesAttributes (file : File) : Bool :=
  TypeDeclaration.anyPropertyOf (·.jsonName.isSome) file.declarations

/-! ### Text -/

/-- A control character: below `0x20`, or from `0x7F` to `0x9F`. -/
def isControl (c : Char) : Bool :=
  c.toNat < 0x20 || (0x7F ≤ c.toNat && c.toNat < 0xA0)

/-- How one character stands inside a string literal. -/
def literalChar (c : Char) : List Char :=
  if c = '"' then ['\\', '"']
  else if c = '\\' then ['\\', '\\']
  else if c = '\n' then ['\\', 'n']
  else if c = '\r' then ['\\', 'r']
  else if c = '\t' then ['\\', 't']
  else if c = '\x00' then ['\\', '0']
  else if isControl c then
    let digits := Nat.toDigits 16 c.toNat
    '\\' :: 'u' :: List.replicate (4 - digits.length) '0' ++ digits
  else [c]

/-- A text as a string literal. -/
def stringLiteral (s : String) : String :=
  String.ofList ('"' :: s.toList.flatMap literalChar ++ ['"'])

/-- The text of a type. -/
def TypeExpr.text : TypeExpr → String
  | .name text => text
  | .list element => "List<" ++ element.text ++ ">"
  | .nullable inner => inner.text ++ "?"

/-- The attribute with a key, without its brackets. -/
def attributeText (key : String) : String :=
  "JsonPropertyName(" ++ stringLiteral key ++ ")"

/-- The keyword of a kind of declaration. -/
def keyword : DeclarationKind → String
  | .plainClass => "class"
  | .record => "record"
  | .struct => "struct"

/-- A property as a member with its lines. -/
def Property.memberText (level : Nat) (p : Property) : String :=
  let pad := indent level 4
  let mark := (p.jsonName.map fun key => pad ++ "[" ++ attributeText key ++ "]\n").getD ""
  mark ++ pad ++ "public " ++ p.type.text ++ " " ++ p.ident ++ " \x7b get; set; \x7d"

/-- A property as a parameter of a record. -/
def Property.parameterText (level : Nat) (p : Property) : String :=
  let mark := (p.jsonName.map fun key => "[property: " ++ attributeText key ++ "] ").getD ""
  indent level 4 ++ mark ++ p.type.text ++ " " ++ p.ident

/-- A class or struct: the types inside it, with blank lines between, then its properties. -/
def classText (word : String) (level : Nat) (d : TypeDeclaration) (inside : List String) : String :=
  let pad := indent level 4
  let properties := d.properties.map (Property.memberText (level + 1))
  let sections := inside ++ (if properties.isEmpty then [] else ["\n".intercalate properties])
  pad ++ "public " ++ word ++ " " ++ d.name ++ "\n" ++ pad ++ "\x7b\n"
    ++ "\n\n".intercalate sections ++ (if sections.isEmpty then "" else "\n") ++ pad ++ "\x7d"

/-- A record: its properties as parameters, then the types inside it in braces if there are any. -/
def recordText (level : Nat) (d : TypeDeclaration) (inside : List String) : String :=
  let pad := indent level 4
  let parameters := d.properties.map (Property.parameterText (level + 1))
  let list := if parameters.isEmpty then "" else "\n" ++ ",\n".intercalate parameters ++ "\n" ++ pad
  let body :=
    if inside.isEmpty then ";"
    else "\n" ++ pad ++ "\x7b\n" ++ "\n\n".intercalate inside ++ "\n" ++ pad ++ "\x7d"
  pad ++ "public record " ++ d.name ++ "(" ++ list ++ ")" ++ body

mutual

/-- The text of a declaration on a level. -/
def TypeDeclaration.text (kind : DeclarationKind) (level : Nat) : TypeDeclaration → String
  | ⟨name, properties, nested⟩ =>
    let inside := TypeDeclaration.texts kind (level + 1) nested
    match kind with
    | .record => recordText level ⟨name, properties, nested⟩ inside
    | _ => classText (keyword kind) level ⟨name, properties, nested⟩ inside

/-- The texts of several declarations. -/
def TypeDeclaration.texts (kind : DeclarationKind) (level : Nat) :
    List TypeDeclaration → List String
  | [] => []
  | d :: ds => TypeDeclaration.text kind level d :: TypeDeclaration.texts kind level ds

end

/-- The directives for what a file uses. -/
def File.usings (file : File) : List String :=
  (if file.usesLists then ["using System.Collections.Generic;"] else [])
    ++ (if file.usesAttributes then ["using System.Text.Json.Serialization;"] else [])

/-- The text of a file: directives, declarations and comment with blank lines between. -/
def File.text (file : File) : String :=
  let directives := if file.usings.isEmpty then [] else ["\n".intercalate file.usings]
  let comment := file.rootComment.map fun (name, type) => "// " ++ name ++ ": " ++ type.text
  "\n\n".intercalate
    (directives ++ TypeDeclaration.texts file.kind 0 file.declarations ++ comment.toList) ++ "\n"

end SampleTypes.Target.CSharp
