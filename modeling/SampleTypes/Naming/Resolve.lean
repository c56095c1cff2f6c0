import SampleTypes.Naming.Graph
import SampleTypes.Naming.Identifier

/-!
# Naming a shape

`resolve` walks a shape depth first and gives every object a declaration.  The root's objects have
the root name; an object under a field is named after the field's key, then after the declaration
and the key, then after the key with a number, whichever is free first.  With sharing, an object
equal to one that was already declared refers to that declaration.
-/

namespace SampleTypes.Naming

/-- Where an object stands: at the root, whose name it takes, or under a field. -/
inductive Place where
  | root (name : String)
  | field (owner key : String)

/-- The type names given so far, the number of declarations, and those that can be shared. -/
structure Names where
  used : List String
  next : Nat := 0
  shared : List (List Field × Nat) := []

/-- What naming yields: a result, the declarations and warnings on the way, and the names after. -/
structure Outcome (α : Type) where
  result : α
  declared : List Declaration
  warnings : List Warning
  names : Names

/-- The same outcome with another result. -/
def Outcome.map {α β : Type} (f : α → β) (o : Outcome α) : Outcome β :=
  ⟨f o.result, o.declared, o.warnings, o.names⟩

/-- Nothing declared, nothing to warn of. -/
def Outcome.pure {α : Type} (result : α) (names : Names) : Outcome α :=
  ⟨result, [], [], names⟩

/-- Adds what was declared and warned of before. -/
def Outcome.after {α β : Type} (o : Outcome β) (before : Outcome α) : Outcome β :=
  ⟨o.result, before.declared ++ o.declared, before.warnings ++ o.warnings, o.names⟩

/-- Marks a type name as used. -/
def Names.use (names : Names) (name : String) : Names :=
  { names with used := name :: names.used }

/-- The declaration of an object equal to this one. -/
def Names.sharedId? (names : Names) (fields : List Field) : Option Nat :=
  (names.shared.find? (·.1 == fields)).map (·.2)

/-- Gives the next number to a declaration for these fields. -/
def Names.add (names : Names) (sharing : Bool) (fields : List Field) : Names :=
  { names with
    next := names.next + 1
    shared := if sharing then names.shared ++ [(fields, names.next)] else names.shared }

/-- The name for a new declaration. -/
def Context.typeName (cx : Context) (place : Place) (names : Names) : String :=
  match place with
  | .root name => name
  | .field owner key =>
    let plain := (cx.sanitize key "type").ident
    let qualified := (cx.sanitize (owner ++ " " ++ key) "type").ident
    if !names.used.contains plain then plain
    else if !names.used.contains qualified then qualified
    else freshName names.used (cx.convention.withCounter plain)

/-- The names after a declaration got its name; the root's name is in use from the start. -/
def Names.withTypeName (names : Names) (place : Place) (name : String) : Names :=
  match place with
  | .root _ => names
  | .field _ _ => names.use name

mutual

/-- Names the objects of a shape. -/
def Context.nameType (cx : Context) (place : Place) (names : Names) : Shape → Outcome TypeRef
  | .unknown => .pure .unknown names
  | .primitive kind => .pure (.primitive kind) names
  | .array element => (cx.nameType place names element).map .array
  | .nullable inner => (cx.nameType place names inner).map .nullable
  | .union arms => (cx.nameArms place names arms).map .union
  | .object fields =>
    match if cx.shareIdentical then names.sharedId? fields else none with
    | some id => .pure (.declared id) names
    | none =>
      let name := cx.typeName place names
      let inside := (names.withTypeName place name).add cx.shareIdentical fields
      let o := cx.nameFields name inside (cx.memberNames name (fields.map (·.key))) fields
      ⟨.declared names.next, [⟨names.next, name, o.result, o.declared⟩], o.warnings, o.names⟩

/-- Names the objects of several arms, from left to right. -/
def Context.nameArms (cx : Context) (place : Place) (names : Names) :
    List Shape → Outcome (List TypeRef)
  | [] => .pure [] names
  | arm :: arms =>
    let first := cx.nameType place names arm
    ((cx.nameArms place first.names arms).map (first.result :: ·)).after first

/--
Makes members of fields, given the identifiers of the fields.  A field's warning comes before those
of the objects under it.
-/
def Context.nameFields (cx : Context) (owner : String) (names : Names) (idents : List Candidate) :
    List Field → Outcome (List Member)
  | [] => .pure [] names
  | ⟨key, shape, optional⟩ :: fields =>
    let own := idents.headD ⟨key, none⟩
    let warnings := own.reason.toList.map fun reason => Warning.mk key own.ident reason
    let type := cx.nameType (.field owner key) names shape
    let more := cx.nameFields owner type.names idents.tail fields
    ((more.map (⟨key, own.ident, type.result, optional⟩ :: ·)).after type).after
      ⟨(), [], warnings, names⟩

end

/-- The name of the root, and whether a warning goes with it. -/
def Context.rootName (cx : Context) (rootName : String) : Candidate :=
  let candidate := cx.sanitize rootName "root"
  let reserved := cx.language.reservedTypeNames
  if reserved.contains candidate.ident then
    ⟨freshName reserved (cx.convention.withCounter candidate.ident), some .collision⟩
  else candidate

/-- Names a shape: the graph of declarations, and the warnings in the order of the walk. -/
def Context.resolve (cx : Context) (root : Shape) (rootName : String) : Graph × List Warning :=
  let name := cx.rootName rootName
  let warnings := name.reason.toList.map fun reason => Warning.mk rootName name.ident reason
  let names : Names := { used := name.ident :: cx.language.reservedTypeNames }
  let o := cx.nameType (.root name.ident) names root
  (⟨name.ident, o.result, o.declared⟩, warnings ++ o.warnings)

end SampleTypes.Naming
