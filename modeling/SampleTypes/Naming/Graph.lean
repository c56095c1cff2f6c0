import SampleTypes.Shape.Basic

/-!
# Named types

The result of naming a shape: a forest of declarations.  Each object has a declaration; it stands
under the declaration whose field first led to it, and outside of all others when no field did.  A
type refers to a declaration by its number.  The numbers count the declarations depth first, in the
order of the fields.
-/

namespace SampleTypes.Naming

/-- The type of a member or of the root: a shape whose objects are references to declarations. -/
inductive TypeRef where
  | unknown
  | primitive (kind : Primitive)
  | declared (id : Nat)
  | array (element : TypeRef)
  | nullable (inner : TypeRef)
  | union (arms : List TypeRef)

instance : Inhabited TypeRef := ⟨.unknown⟩

/-- A field with its name in the target language. -/
structure Member where
  key : String
  ident : String
  type : TypeRef
  optional : Bool
deriving Inhabited

/-- An object type with a name, and the declarations that were first met in its fields. -/
structure Declaration where
  id : Nat
  name : String
  members : List Member
  nested : List Declaration
deriving Inhabited

/-- The named form of a shape. -/
structure Graph where
  rootName : String
  root : TypeRef
  /-- The declarations that no field led to. -/
  forest : List Declaration
deriving Inhabited

namespace TypeRef

mutual

/-- The first declaration that a type mentions. -/
def firstDeclared? : TypeRef → Option Nat
  | .declared id => some id
  | .array element => firstDeclared? element
  | .nullable inner => firstDeclared? inner
  | .union arms => firstDeclaredOf? arms
  | .unknown => none
  | .primitive _ => none

/-- The first declaration that one of several types mentions. -/
def firstDeclaredOf? : List TypeRef → Option Nat
  | [] => none
  | arm :: arms => (firstDeclared? arm).or (firstDeclaredOf? arms)

end

mutual

/-- The type or a part of it is unknown; what lies behind references does not count. -/
def mentionsUnknown : TypeRef → Bool
  | .unknown => true
  | .array element => mentionsUnknown element
  | .nullable inner => mentionsUnknown inner
  | .union arms => anyMentionsUnknown arms
  | .declared _ => false
  | .primitive _ => false

/-- One of several types mentions an unknown one. -/
def anyMentionsUnknown : List TypeRef → Bool
  | [] => false
  | arm :: arms => mentionsUnknown arm || anyMentionsUnknown arms

end

/-- The type of null alone. -/
def isNull : TypeRef → Bool
  | .primitive .null => true
  | _ => false

end TypeRef

namespace Declaration

mutual

/-- A declaration and all those under it, depth first, each with the number of the one above it. -/
def listing (parent : Option Nat) : Declaration → List (Option Nat × Declaration)
  | ⟨id, name, members, nested⟩ =>
    (parent, ⟨id, name, members, nested⟩) :: listingOf (some id) nested

/-- Several declarations and all those under them. -/
def listingOf (parent : Option Nat) : List Declaration → List (Option Nat × Declaration)
  | [] => []
  | d :: ds => listing parent d ++ listingOf parent ds

end

/-- The numbers of the declarations right under this one. -/
def children (d : Declaration) : List Nat :=
  d.nested.map (·.id)

end Declaration

namespace Graph

/-- All declarations, depth first, each with the number of the one above it. -/
def listing (graph : Graph) : List (Option Nat × Declaration) :=
  Declaration.listingOf none graph.forest

/-- All declarations, depth first. -/
def declarations (graph : Graph) : List Declaration :=
  graph.listing.map (·.2)

/-- The declaration with a number. -/
def find? (graph : Graph) (id : Nat) : Option Declaration :=
  graph.declarations.find? (·.id == id)

/-- The name of the declaration with a number. -/
def nameOf (graph : Graph) (id : Nat) : String :=
  ((graph.find? id).map (·.name)).getD ""

/-- The declaration that the root leads to first. -/
def rootDeclaration? (graph : Graph) : Option Nat :=
  graph.root.firstDeclared?

/-- The root leads to no declaration, so that its name needs a definition of its own. -/
def needsAlias (graph : Graph) : Bool :=
  graph.rootDeclaration?.isNone

/-- The root or a member has a type that mentions an unknown one. -/
def mentionsUnknown (graph : Graph) : Bool :=
  graph.root.mentionsUnknown
    || graph.declarations.any fun d => d.members.any (·.type.mentionsUnknown)

end Graph

end SampleTypes.Naming
