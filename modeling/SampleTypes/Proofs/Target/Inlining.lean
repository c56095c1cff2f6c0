import SampleTypes.Proofs.Naming.UnmarkedNames
import SampleTypes.Proofs.Target.Emission
import SampleTypes.Proofs.Target.Literals

/-!
# Nested objects spelled out

In the inside style of TypeScript a nested object is spelled out where the hoisted style has its
name.  Nothing else changes but the blanks at the beginnings of lines.

* `SpellsOut` is spelling out by numbers: first all that the members refer to, then the declaration;
* `bodyPieces` is a body with its references left open, `fill` puts texts in their places;
* `unindents_body`: whatever is put there, the text of the body has it in these places;
* `spelledOut_resolve` is the main result.
-/

namespace SampleTypes.Target.TypeScript

open Naming (Declaration Graph Member TypeRef)
open Naming.Declaration (withNested)

/-! ### Spelling out by numbers -/

/--
A declaration is spelled out when those that its members refer to are.  The last argument has the
numbers of all declarations that are written for it, in order.
-/
inductive SpellsOut (asNullable : Bool) (graph : Graph) : Nat → List Property → List Nat → Prop
  | body {id : Nat} {d : Declaration} (found : graph.find? id = some d)
    (inside : Nat → List Property) (written : Nat → List Nat)
    (referred : ∀ c ∈ d.members.flatMap (·.type.references),
      SpellsOut asNullable graph c (inside c) (written c)) :
    SpellsOut asNullable graph id
      (d.members.map (Property.of asNullable fun c => .literal (inside c)))
      (id :: (d.members.flatMap (·.type.references)).flatMap written)

mutual

theorem TypeExpr.of_congr {f g : Nat → TypeExpr} : (t : TypeRef) →
    (∀ id ∈ t.references, f id = g id) → TypeExpr.of f t = TypeExpr.of g t
  | .unknown, _ => rfl
  | .primitive _, _ => rfl
  | .declared id, h => h id List.mem_cons_self
  | .array t, h => congrArg TypeExpr.array (TypeExpr.of_congr t h)
  | .nullable t, h => congrArg TypeExpr.orNull (TypeExpr.of_congr t h)
  | .union arms, h => congrArg TypeExpr.union (TypeExpr.ofArms_congr arms h)

theorem TypeExpr.ofArms_congr {f g : Nat → TypeExpr} : (arms : List TypeRef) →
    (∀ id ∈ TypeRef.referencesOf arms, f id = g id) →
    TypeExpr.ofArms f arms = TypeExpr.ofArms g arms
  | [], _ => rfl
  | arm :: arms, h => by
    rw [TypeRef.referencesOf, List.forall_mem_append] at h
    rw [TypeExpr.ofArms, TypeExpr.ofArms, TypeExpr.of_congr arm h.1, TypeExpr.ofArms_congr arms h.2]

end

variable {asNullable : Bool} {graph : Graph}

/-- What is written for members depends on what stands for their references only. -/
theorem map_property_congr {f g : Nat → TypeExpr} {members : List Member}
    (h : ∀ id ∈ members.flatMap (·.type.references), f id = g id) :
    members.map (Property.of asNullable f) = members.map (Property.of asNullable g) := by
  apply List.map_congr_left
  intro m hm
  have htype : TypeExpr.of f m.type = TypeExpr.of g m.type :=
    TypeExpr.of_congr m.type fun id hid => h id (List.mem_flatMap.2 ⟨m, hm, hid⟩)
  unfold Property.of
  rw [htype]

theorem SpellsOut.unique {id : Nat} {properties properties' : List Property} {ids ids' : List Nat}
    (h : SpellsOut asNullable graph id properties ids)
    (h' : SpellsOut asNullable graph id properties' ids') :
    properties = properties' ∧ ids = ids' := by
  induction h generalizing properties' ids' with
  | body found inside written referred ih =>
    obtain ⟨found', inside', written', referred'⟩ := h'
    rw [found] at found'
    cases found'
    have hsame := fun c hc => ih c hc (referred' c hc)
    constructor
    · exact map_property_congr fun c hc => congrArg TypeExpr.literal (hsame c hc).1
    · exact congrArg _ (List.flatMap_congr fun c hc => (hsame c hc).2)

section Tree

/-- What is spelled out for a number. -/
def bodyOf (asNullable : Bool) (graph : Graph) (id : Nat) : List Property :=
  ((graph.find? id).map (spelledOut asNullable)).getD []

/-- The numbers of a declaration and of those under it. -/
def idsWithin (d : Declaration) : List Nat :=
  (withNested [d]).map (·.id)

theorem spelledOutAll_eq_map (ds : List Declaration) :
    spelledOutAll asNullable ds = ds.map fun d => (d.id, spelledOut asNullable d) := by
  induction ds with
  | nil => rfl
  | cons d ds ih => rw [spelledOutAll, ih, List.map_cons]

variable (hasc : graph.Ascending) (htree : graph.Tree) {d : Declaration}

include hasc

theorem bodyOf_eq (hd : d ∈ graph.declarations) :
    bodyOf asNullable graph d.id = spelledOut asNullable d := by
  rw [bodyOf, hasc.find?_eq_some hd]
  rfl

include htree

/-- Inside a declaration the references are to those right under it. -/
theorem spelledOut_eq (hd : d ∈ graph.declarations) :
    spelledOut asNullable d
      = d.members.map (Property.of asNullable fun id => .literal (bodyOf asNullable graph id)) := by
  have hinside : spelledOutAll asNullable d.nested
      = d.children.map fun id => (id, bodyOf asNullable graph id) := by
    rw [spelledOutAll_eq_map, Declaration.children, List.map_map]
    apply List.map_congr_left
    intro c hc
    rw [Function.comp_apply, bodyOf_eq hasc (Declaration.mem_withNested_of_mem_nested hd hc)]
  have hspelled : spelledOut asNullable d = d.members.map (Property.of asNullable fun id =>
      .literal (((spelledOutAll asNullable d.nested).lookup id).getD [])) := by
    obtain ⟨id, name, members, nested⟩ := d
    rfl
  rw [hspelled, hinside]
  apply map_property_congr
  intro id hid
  rw [htree.members d hd] at hid
  rw [List.lookup_graph (bodyOf asNullable graph) hid, Option.getD_some]

/-- **Spelling out by numbers ends**, for every declaration of a forest. -/
theorem spellsOut_of_subset : (ds : List Declaration) → withNested ds ⊆ graph.declarations →
    ∀ d ∈ withNested ds,
      SpellsOut asNullable graph d.id (spelledOut asNullable d) (idsWithin d) := by
  intro ds
  induction ds using Declaration.forest_induction with
  | nil => rintro - d ⟨⟩
  | cons d ds ihNested ihRest =>
    rw [Declaration.withNested_cons, List.cons_subset, List.append_subset, List.forall_mem_cons,
      List.forall_mem_append]
    rintro ⟨hd, hnested, hrest⟩
    refine ⟨?_, ihNested hnested, ihRest hrest⟩
    -- what the members refer to stands right under the declaration, and ends by induction
    let written id := ((graph.find? id).map idsWithin).getD []
    have hreferred : ∀ c ∈ d.members.flatMap (·.type.references),
        SpellsOut asNullable graph c (bodyOf asNullable graph c) (written c) := by
      intro id hid
      rw [htree.members d hd] at hid
      obtain ⟨c, hc, rfl⟩ := List.mem_map.1 hid
      have hmem := Declaration.mem_withNested_of_mem_nested hd hc
      have hbody := ihNested hnested c (Declaration.mem_withNested_of_mem hc)
      simp only [written]
      rwa [bodyOf_eq hasc hmem, hasc.find?_eq_some hmem]
    have hwritten : idsWithin d
        = d.id :: (d.members.flatMap (·.type.references)).flatMap written := by
      rw [htree.members d hd, idsWithin, Declaration.withNested_cons, Declaration.withNested_nil,
        List.append_nil, List.map_cons, Declaration.withNested_eq_flatMap, List.map_flatMap,
        Declaration.children, List.flatMap_map]
      congr 1
      refine List.flatMap_congr fun c hc => ?_
      simp only [written]
      rw [hasc.find?_eq_some (Declaration.mem_withNested_of_mem_nested hd hc), Option.map_some,
        Option.getD_some, idsWithin, Declaration.withNested_cons, Declaration.withNested_nil,
        List.append_nil]
    rw [hwritten, spelledOut_eq hasc htree hd]
    exact .body (hasc.find?_eq_some hd) _ written hreferred

end Tree

/-! ### Bodies with open places -/

/-- A part of a body. -/
inductive Piece where
  | text (s : String)
  /-- The place of the declaration with a number. -/
  | reference (id : Nat)

/-- The number of a place. -/
def Piece.reference? : Piece → Option Nat
  | .text _ => none
  | .reference id => some id

/-- A part with a text in its place. -/
def Piece.fill (replace : Nat → List Char) : Piece → List Char
  | .text s => s.toList
  | .reference id => replace id

/-- Puts texts in the places of declarations. -/
def fill (replace : Nat → List Char) (pieces : List Piece) : List Char :=
  pieces.flatMap (Piece.fill replace)

mutual

/-- The parts of a type. -/
def typePieces : TypeRef → List Piece
  | .unknown => [.text "unknown"]
  | .primitive kind => [.text (kindName kind)]
  | .declared id => [.reference id]
  | .array element =>
    if needsParens element then .text "(" :: typePieces element ++ [.text ")[]"]
    else typePieces element ++ [.text "[]"]
  | .nullable inner => typePieces inner ++ [.text " | null"]
  | .union arms => armPieces arms

/-- The parts of several types with bars between them. -/
def armPieces : List TypeRef → List Piece
  | [] => []
  | [arm] => typePieces arm
  | arm :: next :: arms => typePieces arm ++ .text " | " :: armPieces (next :: arms)

end

/-- The mark of a member that may be missing. -/
def marker (asNullable : Bool) (m : Member) : String :=
  if m.optional && !asNullable then "?" else ""

/-- What is added to the type of a member that may be null instead. -/
def ending (asNullable : Bool) (m : Member) : String :=
  if m.optional && asNullable && !m.type.isNull then " | null" else ""

/-- The parts of the line of a member. -/
def memberPieces (asNullable : Bool) (m : Member) : List Piece :=
  .text (m.ident ++ marker asNullable m ++ ": ") :: typePieces m.type
    ++ [.text (ending asNullable m ++ ";\n")]

/-- The parts of a body. -/
def bodyPieces (asNullable : Bool) (members : List Member) : List Piece :=
  .text "\x7b\n" :: members.flatMap (memberPieces asNullable) ++ [.text "\x7d"]

section Places

theorem fill_append (replace : Nat → List Char) (pieces more : List Piece) :
    fill replace (pieces ++ more) = fill replace pieces ++ fill replace more :=
  List.flatMap_append

theorem fill_cons (replace : Nat → List Char) (piece : Piece) (pieces : List Piece) :
    fill replace (piece :: pieces) = piece.fill replace ++ fill replace pieces :=
  List.flatMap_cons

mutual

theorem references_typePieces : (t : TypeRef) →
    (typePieces t).filterMap Piece.reference? = t.references
  | .unknown => rfl
  | .primitive _ => rfl
  | .declared _ => rfl
  | .array t => by
    have h := references_typePieces t
    rw [typePieces, TypeRef.references]
    split
    · rw [List.cons_append, List.filterMap_cons_none rfl, List.filterMap_append, h]
      exact List.append_nil _
    · rw [List.filterMap_append, h]
      exact List.append_nil _
  | .nullable t => by
    have h := references_typePieces t
    rw [typePieces, TypeRef.references, List.filterMap_append, h]
    exact List.append_nil _
  | .union arms => references_armPieces arms

theorem references_armPieces : (arms : List TypeRef) →
    (armPieces arms).filterMap Piece.reference? = TypeRef.referencesOf arms
  | [] => rfl
  | [arm] => by
    rw [armPieces, references_typePieces arm, TypeRef.referencesOf, TypeRef.referencesOf,
      List.append_nil]
  | arm :: next :: arms => by
    rw [armPieces, TypeRef.referencesOf, List.filterMap_append, references_typePieces arm]
    exact congrArg _ (references_armPieces (next :: arms))

end

/-- The places in a body are those of what its members refer to. -/
theorem references_bodyPieces (members : List Member) :
    (bodyPieces asNullable members).filterMap Piece.reference?
      = members.flatMap (·.type.references) := by
  have hmember : ∀ m : Member,
      (memberPieces asNullable m).filterMap Piece.reference? = m.type.references := by
    intro m
    rw [memberPieces, List.filterMap_append, List.filterMap_cons_none rfl, references_typePieces]
    exact List.append_nil _
  rw [bodyPieces, List.filterMap_append, List.filterMap_cons_none rfl, List.filterMap_flatMap]
  simp only [hmember]
  exact List.append_nil _

end Places

/-! ### Texts of bodies -/

/-- A text without the blanks before its lines; at the front a line may begin. -/
def unindentedFrom : Bool → List Char → List Char
  | _, [] => []
  | fresh, c :: cs =>
    if fresh && c == ' ' then unindentedFrom true cs else c :: unindentedFrom (c == '\n') cs

/-- A text without the blanks at the beginnings of its lines. -/
def unindented (cs : List Char) : List Char :=
  unindentedFrom true cs

/-- The text of a body on a line of the given level. -/
def bodyText (level : Nat) (properties : List Property) : List Char :=
  ((TypeExpr.literal properties).text level).toList

section Unindent

theorem unindentedFrom_true {cs : List Char} (h : cs.head? ≠ some ' ') :
    unindentedFrom true cs = unindentedFrom false cs := by
  cases cs with
  | nil => rfl
  | cons c cs =>
    have hc : c ≠ ' ' := fun hc => h (congrArg some hc)
    have hblank : (true && c == ' ') = false := by
      rw [Bool.true_and, beq_eq_false_iff_ne]
      exact hc
    rw [unindentedFrom, unindentedFrom, hblank, Bool.false_and]

theorem unindentedFrom_indent (level width : Nat) (rest : List Char) :
    unindentedFrom true ((indent level width).toList ++ rest) = unindentedFrom true rest := by
  rw [indent, String.toList_ofList]
  induction level * width with
  | zero => rfl
  | succ n ih => rw [List.replicate_succ, List.cons_append, unindentedFrom]; exact ih

/-- The text comes in the middle of a line, and is `ds` without the blanks before other lines. -/
def Unindents (cs ds : List Char) : Prop :=
  ∀ rest, unindentedFrom false (cs ++ rest) = ds ++ unindentedFrom false rest

theorem Unindents.append {cs ds cs' ds' : List Char} (h : Unindents cs ds)
    (h' : Unindents cs' ds') : Unindents (cs ++ cs') (ds ++ ds') := by
  intro rest
  rw [List.append_assoc, h, h', List.append_assoc]

theorem unindents_self {cs : List Char} (h : '\n' ∉ cs) : Unindents cs cs := by
  intro rest
  induction cs with
  | nil => rfl
  | cons c cs ih =>
    rw [List.mem_cons, not_or] at h
    have hline : (c == '\n') = false := by
      rw [beq_eq_false_iff_ne]
      exact Ne.symm h.1
    rw [List.cons_append, unindentedFrom, Bool.false_and, if_neg Bool.false_ne_true, hline,
      ih h.2, List.cons_append]

end Unindent

section Fill

variable {reference : Nat → TypeExpr} {replace : Nat → List Char}

/-- What is written for a number is a text that needs no parentheses. -/
structure Fits (reference : Nat → TypeExpr) (replace : Nat → List Char) (id : Nat) : Prop where
  simple : (reference id).isCompound = false
  text : ∀ level, Unindents ((reference id).text level).toList (replace id)

theorem isCompound_of {t : TypeRef} (h : ∀ id ∈ t.references, Fits reference replace id) :
    (TypeExpr.of reference t).isCompound = needsParens t := by
  cases t with
  | declared id => exact (h id List.mem_cons_self).simple
  | unknown | primitive | array | nullable | union => rfl

theorem fill_text (s : String) : fill replace [.text s] = s.toList :=
  List.append_nil _

variable (level : Nat)

mutual

/-- The text of a type has the texts of references in their places. -/
theorem unindents_type : (t : TypeRef) → (∀ id ∈ t.references, Fits reference replace id) →
    Unindents ((TypeExpr.of reference t).text level).toList (fill replace (typePieces t))
  | .unknown, _ => by
    have hname : '\n' ∉ "unknown".toList := by
      decide
    rw [typePieces, fill_text]
    exact unindents_self hname
  | .primitive kind, _ => by
    have hname : '\n' ∉ (kindName kind).toList := by
      cases kind <;> decide
    rw [typePieces, fill_text]
    exact unindents_self hname
  | .declared id, h => by
    have hreplace : fill replace [.reference id] = replace id := List.append_nil _
    rw [typePieces, hreplace]
    exact (h id List.mem_cons_self).text level
  | .array t, h => by
    have ht := unindents_type t h
    have hparens : (TypeExpr.of reference t).isCompound = needsParens t := isCompound_of h
    rw [TypeExpr.of, TypeExpr.text, hparens, typePieces]
    split
    · rw [fill_append, fill_cons, fill_text, String.toList_append, String.toList_append]
      exact ((unindents_self (by decide)).append ht).append (unindents_self (by decide))
    · rw [fill_append, fill_text, String.toList_append]
      exact ht.append (unindents_self (by decide))
  | .nullable t, h => by
    rw [TypeExpr.of, TypeExpr.text, typePieces, fill_append, fill_text, String.toList_append]
    exact (unindents_type t h).append (unindents_self (by decide))
  | .union arms, h => by
    rw [TypeExpr.of, TypeExpr.text, typePieces]
    exact unindents_arms arms h

theorem unindents_arms : (arms : List TypeRef) →
    (∀ id ∈ TypeRef.referencesOf arms, Fits reference replace id) →
    Unindents (" | ".intercalate (TypeExpr.texts level (TypeExpr.ofArms reference arms))).toList
      (fill replace (armPieces arms))
  | [], _ => fun _ => rfl
  | [arm], h => by
    rw [TypeRef.referencesOf, TypeRef.referencesOf, List.append_nil] at h
    rw [TypeExpr.ofArms, TypeExpr.ofArms, TypeExpr.texts, TypeExpr.texts,
      String.intercalate_singleton, armPieces]
    exact unindents_type arm h
  | arm :: next :: arms, h => by
    rw [TypeRef.referencesOf, List.forall_mem_append] at h
    have hrest := unindents_arms (next :: arms) h.2
    rw [TypeExpr.ofArms, TypeExpr.texts] at hrest
    rw [TypeExpr.ofArms, TypeExpr.ofArms, TypeExpr.texts, TypeExpr.texts,
      String.intercalate_cons_cons, String.toList_append, String.toList_append, armPieces,
      fill_append, fill_cons, List.append_assoc]
    exact (unindents_type arm h.1).append ((unindents_self (by decide)).append hrest)

end

theorem propertyLines_cons (property : Property) (properties : List Property) :
    TypeExpr.propertyLines level (property :: properties)
      = (indent level 2 ++ property.ident ++ (if property.omittable then "?" else "") ++ ": "
          ++ property.type.text level ++ ";\n") :: TypeExpr.propertyLines level properties := by
  obtain ⟨ident, omittable, type⟩ := property
  rw [TypeExpr.propertyLines]

section Line

variable (asNullable : Bool) {m : Member}

theorem text_type_property : (Property.of asNullable reference m).type.text level
    = (TypeExpr.of reference m.type).text level ++ ending asNullable m := by
  rw [Property.of, ending]
  dsimp only
  split
  · rfl
  · rw [String.append_empty]

/-- A line begins with the identifier, or with what comes after an empty one. -/
theorem unindentedFrom_opening (hident : Text.IdentText m.ident) (rest : List Char) :
    unindentedFrom true ((m.ident ++ marker asNullable m ++ ": ").toList ++ rest)
      = (m.ident ++ marker asNullable m ++ ": ").toList ++ unindentedFrom false rest := by
  have hmarker : ' ' ∉ (marker asNullable m).toList ∧ '\n' ∉ (marker asNullable m).toList := by
    rw [marker]
    split <;> decide
  have hblank : ' ' ∉ (m.ident ++ marker asNullable m).toList := by
    rw [String.toList_append, List.mem_append, not_or]
    exact ⟨notMem_of_identText hident (by decide), hmarker.1⟩
  have hline : '\n' ∉ (m.ident ++ marker asNullable m ++ ": ").toList := by
    simp only [String.toList_append, List.mem_append, not_or]
    exact ⟨⟨notMem_of_identText hident (by decide), hmarker.2⟩, by decide⟩
  have hhead : ((m.ident ++ marker asNullable m ++ ": ").toList ++ rest).head? ≠ some ' ' := by
    rw [String.toList_append]
    cases hcs : (m.ident ++ marker asNullable m).toList with
    | nil => exact fun h => absurd (Option.some.inj h) (by decide)
    | cons c _ =>
      rw [hcs, List.mem_cons, not_or] at hblank
      exact fun h => hblank.1 (Option.some.inj h).symm
  rw [unindentedFrom_true hhead, unindents_self hline]

/-- The blanks that the line of a member begins with are all that is left out in it. -/
theorem unindentedFrom_line (hident : Text.IdentText m.ident)
    (h : ∀ id ∈ m.type.references, Fits reference replace id) (rest : List Char) :
    let property := Property.of asNullable reference m
    unindentedFrom true ((indent level 2 ++ property.ident
        ++ (if property.omittable then "?" else "") ++ ": " ++ property.type.text level
        ++ ";\n").toList ++ rest)
      = fill replace (memberPieces asNullable m) ++ unindentedFrom true rest := by
  intro property
  have hending : '\n' ∉ (ending asNullable m).toList := by
    rw [ending]
    split <;> decide
  -- the blanks, what opens the line, the type, and what ends the line
  have hline : (indent level 2 ++ property.ident ++ (if property.omittable then "?" else "")
        ++ ": " ++ property.type.text level ++ ";\n").toList ++ rest
      = (indent level 2).toList ++ ((m.ident ++ marker asNullable m ++ ": ").toList
        ++ (((TypeExpr.of reference m.type).text level).toList
          ++ ((ending asNullable m).toList ++ ';' :: '\n' :: rest))) := by
    rw [text_type_property]
    simp only [String.toList_append, List.append_assoc]
    rfl
  have hpieces : fill replace (memberPieces asNullable m)
      = (m.ident ++ marker asNullable m ++ ": ").toList
        ++ (fill replace (typePieces m.type) ++ ((ending asNullable m).toList ++ [';', '\n'])) := by
    rw [memberPieces, List.cons_append, fill_cons, fill_append, fill_text, String.toList_append]
    rfl
  have hend : unindentedFrom false (';' :: '\n' :: rest)
      = [';', '\n'] ++ unindentedFrom true rest := rfl
  rw [hline, unindentedFrom_indent, unindentedFrom_opening asNullable hident,
    unindents_type level m.type h, unindents_self hending, hend, hpieces]
  simp only [List.append_assoc]

end Line

theorem bodyText_eq (properties : List Property) : bodyText level properties
    = '\x7b' :: '\n' :: ((String.join (TypeExpr.propertyLines (level + 1) properties)).toList
        ++ ((indent level 2).toList ++ ['\x7d'])) := by
  rw [bodyText, TypeExpr.text]
  simp only [String.toList_append, List.append_assoc]
  rfl

/-- **The text of a body has the texts of references in their places.** -/
theorem unindents_body (asNullable : Bool) {members : List Member}
    (hident : ∀ m ∈ members, Text.IdentText m.ident)
    (h : ∀ id ∈ members.flatMap (·.type.references), Fits reference replace id) :
    Unindents (bodyText level (members.map (Property.of asNullable reference)))
      (fill replace (bodyPieces asNullable members)) := by
  have hlines : ∀ (level : Nat) (rest : List Char), unindentedFrom true
      ((String.join (TypeExpr.propertyLines level
        (members.map (Property.of asNullable reference)))).toList ++ rest)
      = fill replace (members.flatMap (memberPieces asNullable)) ++ unindentedFrom true rest := by
    intro level rest
    induction members with
    | nil => rfl
    | cons m members ih =>
      rw [List.forall_mem_cons] at hident
      rw [List.flatMap_cons, List.forall_mem_append] at h
      rw [List.map_cons, propertyLines_cons, String.join_cons, String.toList_append,
        List.append_assoc, unindentedFrom_line level asNullable hident.1 h.1, ih hident.2 h.2,
        List.flatMap_cons, fill_append, List.append_assoc]
  intro rest
  have hopening : ∀ cs, unindentedFrom false ('\x7b' :: '\n' :: cs)
      = "\x7b\n".toList ++ unindentedFrom true cs := fun _ => rfl
  have hclosing : unindentedFrom true ('\x7d' :: rest)
      = "\x7d".toList ++ unindentedFrom false rest := rfl
  rw [bodyText_eq, List.cons_append, List.cons_append, hopening, List.append_assoc, hlines,
    List.append_assoc, unindentedFrom_indent, List.singleton_append, hclosing, bodyPieces,
    List.cons_append, fill_cons, fill_append, fill_text, List.append_assoc, List.append_assoc]
  rfl

/-- A body begins with a brace, so that nothing is left out before it. -/
theorem Unindents.unindented_eq {properties : List Property} {ds : List Char}
    (h : Unindents (bodyText level properties) ds) :
    unindented (bodyText level properties) = ds := by
  have hhead : (bodyText level properties).head? ≠ some ' ' := by
    rw [bodyText_eq]
    exact fun h => absurd (Option.some.inj h) (by decide)
  have hall := h []
  rw [List.append_nil] at hall
  rw [unindented, unindentedFrom_true hhead, hall]
  exact List.append_nil ds

end Fill

/-! ### Both styles -/

/-- The text that stands for a number in the inside style. -/
def insideText (asNullable : Bool) (graph : Graph) (id : Nat) : List Char :=
  unindented (bodyText 0 (bodyOf asNullable graph id))

section Styles

variable (hasc : graph.Ascending) (htree : graph.Tree)
  (hident : ∀ d ∈ graph.declarations, ∀ m ∈ d.members, Text.IdentText m.ident)

include hasc htree hident

/-- **A declaration that is spelled out has those right under it in its places**, on any level. -/
theorem unindents_spelledOut : (ds : List Declaration) → withNested ds ⊆ graph.declarations →
    ∀ d ∈ withNested ds, ∀ level, Unindents (bodyText level (spelledOut asNullable d))
      (fill (insideText asNullable graph) (bodyPieces asNullable d.members)) := by
  intro ds
  induction ds using Declaration.forest_induction with
  | nil => rintro - d ⟨⟩
  | cons d ds ihNested ihRest =>
    rw [Declaration.withNested_cons, List.cons_subset, List.append_subset, List.forall_mem_cons,
      List.forall_mem_append]
    rintro ⟨hd, hnested, hrest⟩
    refine ⟨fun level => ?_, ihNested hnested, ihRest hrest⟩
    have hfits : ∀ id ∈ d.members.flatMap (·.type.references),
        Fits (fun id => .literal (bodyOf asNullable graph id)) (insideText asNullable graph)
          id := by
      intro id hid
      rw [htree.members d hd] at hid
      obtain ⟨c, hc, rfl⟩ := List.mem_map.1 hid
      have hbody := ihNested hnested c (Declaration.mem_withNested_of_mem hc)
      have hmem := Declaration.mem_withNested_of_mem_nested hd hc
      -- the body is the same on every level, so that the one on level 0 stands for all
      refine ⟨rfl, fun level => ?_⟩
      rw [insideText, bodyOf_eq hasc hmem, (hbody 0).unindented_eq]
      exact hbody level
    rw [spelledOut_eq hasc htree hd]
    exact unindents_body level asNullable (hident d hd) hfits

end Styles

/-- Spelling out a declaration ends, and changes nothing else in it. -/
structure SpelledOut (asNullable : Bool) (graph : Graph) (d : Declaration) : Prop where
  ends : ∀ properties ids, SpellsOut asNullable graph d.id properties ids ↔
    properties = spelledOut asNullable d ∧ ids = idsWithin d
  /-- The places in the body are those of the declarations right under it. -/
  places : (bodyPieces asNullable d.members).filterMap Piece.reference?
    = (graph.under (some d.id)).map (·.id)
  hoisted : ∀ level, unindented (bodyText level (Interface.hoisted asNullable graph d).properties)
    = fill (fun id => (graph.nameOf id).toList) (bodyPieces asNullable d.members)
  inside : ∀ level, unindented (bodyText level (spelledOut asNullable d))
    = fill (insideText asNullable graph) (bodyPieces asNullable d.members)

theorem check_withStyle {settings : Settings} (hshare : settings.shareIdentical = false)
    (h : settings.check = .ok .typescript) (style : NestedStyle) :
    Settings.check { settings with nestedStyle := style } = .ok .typescript := by
  rw [Settings.check_eq_ok_iff, Settings.validate_eq_ok_iff] at h ⊢
  exact ⟨⟨h.1.1, fun _ => hshare⟩, h.2.1, fun _ => rfl⟩

/-- A file has the bodies of its interfaces after their names, and the alias of the root. -/
theorem File.text_eq_intercalate (settings : Settings) (graph : Graph) :
    (File.of settings graph).text = "\n\n".intercalate
      ((File.of settings graph).interfaces.map (fun i =>
          "export interface " ++ i.name ++ " " ++ String.ofList (bodyText 0 i.properties))
        ++ if graph.needsAlias then [script.aliasLine graph] else []) ++ "\n" := by
  have htexts : (fun i : Interface => "export interface " ++ i.name ++ " "
      ++ String.ofList (bodyText 0 i.properties)) = Interface.text := by
    funext i
    unfold Interface.text bodyText
    rw [String.ofList_toList]
  rw [File.text_of, Language.alias?_eq_aliasLine, htexts]
  cases graph.needsAlias <;> rfl

/--
**Both styles describe the same types.**  A text has the bodies of its interfaces.  The interfaces
of the inside style are the declarations that stand under no other; with what is spelled out in
them, every declaration is written once.  Each body is that of the hoisted style with other bodies
in the places of names, blanks before lines apart.
-/
theorem spelledOut_resolve (settings : Settings) (hshare : settings.shareIdentical = false)
    (shape : Shape) :
    let graph := settings.graph .typescript shape
    let file style := File.of { settings with nestedStyle := style } graph
    let asNullable := settings.optionalAsNullable
    (settings.check = .ok .typescript → ∀ style, ∃ warnings,
      Settings.convertShape { settings with nestedStyle := style } shape
        = .ok ⟨(file style).text, warnings⟩) ∧
    (∀ style, (file style).text = "\n\n".intercalate
      ((file style).interfaces.map (fun i =>
          "export interface " ++ i.name ++ " " ++ String.ofList (bodyText 0 i.properties))
        ++ if graph.needsAlias then [script.aliasLine graph] else []) ++ "\n") ∧
    (file .inside).interfaces
      = (graph.under none).map (fun d => ⟨d.name, spelledOut asNullable d⟩) ∧
    (file .hoisted).interfaces = graph.declarations.map (Interface.hoisted asNullable graph) ∧
    (file .inside).typeAlias = (file .hoisted).typeAlias ∧
    (graph.under none).flatMap idsWithin = List.range graph.declarations.length ∧
    ∀ d ∈ graph.declarations, SpelledOut asNullable graph d := by
  intro graph file asNullable
  have htree : graph.Tree := Naming.tree_resolve hshare shape settings.rootName
  obtain ⟨objects, -, -, -, hdeclares⟩ :=
    Naming.declares_resolve (settings.naming .typescript) shape settings.rootName
  have hasc : graph.Ascending := hdeclares.ascending
  have hident : ∀ d ∈ graph.declarations, ∀ m ∈ d.members, Text.IdentText m.ident :=
    fun d hd m hm => Naming.identText_of_mem_members hd hm
  have hids : graph.declarations.map (·.id) = List.range graph.declarations.length := by
    have hlength := congrArg List.length hdeclares.ids
    rw [List.length_map, List.length_range'] at hlength
    rw [List.range_eq_range']
    exact hdeclares.ids.trans (congrArg (List.range' 0) hlength.symm)
  refine ⟨fun h style => ?_, fun style => File.text_eq_intercalate _ graph, ?_, rfl, rfl, ?_,
    fun d hd => ⟨fun properties ids => ?_, ?_, ?_, ?_⟩⟩
  · exact Settings.convertShape_of_check (check_withStyle hshare h style) shape
  · rw [Graph.under_none]
    rfl
  · rw [Graph.under_none, ← hids, Graph.declarations_eq,
      Declaration.withNested_eq_flatMap graph.forest, List.map_flatMap]
    refine List.flatMap_congr fun d _ => ?_
    rw [idsWithin, Declaration.withNested_cons, Declaration.withNested_nil, List.append_nil]
  · have hspells : SpellsOut asNullable graph d.id (spelledOut asNullable d) (idsWithin d) :=
      spellsOut_of_subset hasc htree graph.forest (List.Subset.refl _) d hd
    constructor
    · exact fun h => h.unique hspells
    · rintro ⟨rfl, rfl⟩
      exact hspells
  · rw [references_bodyPieces, htree.members d hd, Graph.under_some hasc hd]
    rfl
  · intro level
    refine Unindents.unindented_eq level (unindents_body level asNullable (hident d hd) ?_)
    refine fun id _ => ⟨rfl, fun level => unindents_self ?_⟩
    exact notMem_of_identText (Naming.identText_nameOf _ shape settings.rootName id) (by decide)
  · intro level
    exact Unindents.unindented_eq level
      (unindents_spelledOut hasc htree hident graph.forest (List.Subset.refl _) d hd level)

/-- Objects that may be null or missing, in lists and in others. -/
theorem spelledOut_of_tags :
    let settings : Settings := { targetLanguage := "typescript", optionalAsNullable := false }
    let tag : Shape := .object [⟨"n", .primitive .integer, true⟩]
    let home : Shape := .object [⟨"tags", .array (.nullable tag), false⟩]
    let shape : Shape := .array (.object [⟨"home", home, true⟩])
    let graph := settings.graph .typescript shape
    let text style := (File.of { settings with nestedStyle := style } graph).text
    settings.shareIdentical = false ∧ settings.check = .ok .typescript ∧
      text .inside = "export interface Root \x7b\n  Home?: \x7b\n    Tags: (\x7b\n"
        ++ "      N?: number;\n    \x7d | null)[];\n  \x7d;\n\x7d\n" ∧
      text .hoisted = "export interface Root \x7b\n  Home?: Home;\n\x7d\n\n"
        ++ "export interface Home \x7b\n  Tags: (Tags | null)[];\n\x7d\n\n"
        ++ "export interface Tags \x7b\n  N?: number;\n\x7d\n" ∧
      ((graph.under none).flatMap idsWithin) = [0, 1, 2] ∧
      ∀ d ∈ graph.declarations, SpelledOut false graph d := by
  intro settings tag home shape graph text
  obtain ⟨-, -, -, -, -, hids, hdeclarations⟩ := spelledOut_resolve settings rfl shape
  refine ⟨rfl, by decide +kernel, by decide +kernel, by decide +kernel, hids.trans ?_,
    hdeclarations⟩
  decide +kernel

end SampleTypes.Target.TypeScript
