import SampleTypes.Proofs.Ident.Characters
import SampleTypes.Proofs.Naming.Expansion
import SampleTypes.Proofs.Naming.FreshName

/-!
# What a declaration is made of

Every declaration of a graph comes from an object that the walk met at the root or under a field:
its name is a type name for that place, and its members and the declarations under it are what the
walk makes of the fields.  `Built` says so once, and the rest is read off from it.

* `built_nameType` shows it of a walk, `built_of_mem_declarations` of a graph;
* `Built.idents`: the identifiers of the members are those that `Context.memberNames` gives, so that
  in a language that reserves the owner's name no member has it (`Built.name_notMem_idents`);
* `tree_resolve`: where nothing is shared, the members of a declaration refer to the declarations
  right under it, to each of them once, and to no others.
-/

namespace SampleTypes.Naming

open Declaration (withNested)

/-- The declaration is what the walk makes of an object at the place, or of one inside it. -/
inductive Built (cx : Context) (place : Place) : Declaration → Prop
  | object {here : Place} (inside : here = place ∨ ∃ owner key, here = .field owner key)
    (before after : Names) (id : Nat) (fields : List Field) :
    Built cx place
      { id
        name := cx.typeName here before
        members := (cx.nameFields (cx.typeName here before) after
          (cx.memberNames (cx.typeName here before) (fields.map (·.key))) fields).result
        nested := (cx.nameFields (cx.typeName here before) after
          (cx.memberNames (cx.typeName here before) (fields.map (·.key))) fields).declared }

section Walk

variable {cx : Context}

theorem Built.of_field {owner key : String} {d : Declaration} (h : Built cx (.field owner key) d)
    (place : Place) : Built cx place d := by
  obtain ⟨hin, before, after, id, fields⟩ := h
  refine .object (.inr ?_) before after id fields
  rcases hin with rfl | hin
  · exact ⟨owner, key, rfl⟩
  · exact hin

variable (cx)

mutual

/-- **The walk makes every declaration of an object.** -/
theorem built_nameType (place : Place) (names : Names) : (s : Shape) →
    ∀ d ∈ withNested (cx.nameType place names s).declared, Built cx place d
  | .unknown => by
    rw [Context.nameType]
    rintro d ⟨⟩
  | .primitive _ => by
    rw [Context.nameType]
    rintro d ⟨⟩
  | .array e => by
    rw [Context.nameType]
    exact built_nameType place names e
  | .nullable s => by
    rw [Context.nameType]
    exact built_nameType place names s
  | .union as => by
    rw [Context.nameType]
    exact built_nameArms place names as
  | .object fs => by
    rw [Context.nameType]
    split
    · rintro d ⟨⟩
    · simp only [Declaration.withNested_cons, Declaration.withNested_nil, List.append_nil,
        List.forall_mem_cons]
      constructor
      · exact .object (.inl rfl) _ _ _ _
      · intro d hd
        exact built_nameFields place _ _ _ fs d hd

theorem built_nameArms (place : Place) (names : Names) : (as : List Shape) →
    ∀ d ∈ withNested (cx.nameArms place names as).declared, Built cx place d
  | [] => by
    rw [Context.nameArms]
    rintro d ⟨⟩
  | a :: as => by
    rw [Context.nameArms]
    simp only [Outcome.after, Outcome.map, Declaration.withNested_append, List.forall_mem_append]
    exact ⟨built_nameType place names a, built_nameArms place _ as⟩

theorem built_nameFields (place : Place) (owner : String) (names : Names)
    (idents : List Candidate) : (fs : List Field) →
    ∀ d ∈ withNested (cx.nameFields owner names idents fs).declared, Built cx place d
  | [] => by
    rw [Context.nameFields]
    rintro d ⟨⟩
  | ⟨key, s, _⟩ :: fs => by
    rw [Context.nameFields]
    simp only [Outcome.after, Outcome.map, List.nil_append, Declaration.withNested_append,
      List.forall_mem_append]
    constructor
    · intro d hd
      exact (built_nameType (.field owner key) names s d hd).of_field place
    · exact built_nameFields place owner _ idents.tail fs

end

theorem built_of_mem_declarations (s : Shape) (rootName : String) :
    ∀ d ∈ (cx.resolve s rootName).1.declarations,
      Built cx (.root (cx.resolve s rootName).1.rootName) d :=
  built_nameType cx _ _ s

/-- The names of all declarations may stand in an identifier. -/
theorem identText_of_mem_declarations (s : Shape) (rootName : String) :
    ∀ d ∈ (cx.resolve s rootName).1.declarations, Text.IdentText d.name := by
  intro d hd
  obtain ⟨hin, before, after, id, fields⟩ := built_of_mem_declarations cx s rootName d hd
  rcases hin with rfl | ⟨owner, key, rfl⟩
  · exact identText_rootName cx rootName
  · exact identText_typeName cx owner key before

theorem identText_nameOf (s : Shape) (rootName : String) (id : Nat) :
    Text.IdentText ((cx.resolve s rootName).1.nameOf id) := by
  rw [Graph.nameOf]
  cases hfind : (cx.resolve s rootName).1.find? id with
  | none => decide
  | some d => exact identText_of_mem_declarations cx s rootName d (List.mem_of_find?_eq_some hfind)

/-! ### Numbers -/

section Numbers

variable {graph : Graph} {objects : List (List Field)}

/-- The number of a declaration is its place. -/
theorem Declares.id_eq (h : Declares objects 0 graph.declarations objects) {id : Nat}
    {d : Declaration} (hd : graph.declarations[id]? = some d) : d.id = id := by
  have hid : (graph.declarations.map (·.id))[id]? = some d.id := by
    rw [List.getElem?_map, hd, Option.map_some]
  rw [h.ids] at hid
  have hlt := (List.getElem?_eq_some_iff.1 hid).1
  rw [List.getElem?_eq_getElem hlt, List.getElem_range'] at hid
  have := Option.some.inj hid
  omega

/-- An object at the root is the first declaration and has the name of the root. -/
theorem resolve_object (cx : Context) (fields : List Field) (rootName : String) :
    (cx.resolve (.object fields) rootName).1.root = .declared 0 ∧
      (cx.resolve (.object fields) rootName).1.nameOf 0
        = (cx.resolve (.object fields) rootName).1.rootName := by
  have hnone : ∀ used : List String,
      (if cx.shareIdentical then ({ used } : Names).sharedId? fields else none) = none := by
    intro used
    split <;> rfl
  simp only [Context.resolve, Context.nameType, hnone]
  exact ⟨trivial, rfl⟩

end Numbers

/-! ### The members -/

theorem keys_nameFields (owner : String) (names : Names) (idents : List Candidate)
    (fs : List Field) :
    (cx.nameFields owner names idents fs).result.map (·.key) = fs.map (·.key) := by
  induction fs generalizing names idents with
  | nil =>
    rw [Context.nameFields]
    rfl
  | cons f fs ih =>
    obtain ⟨key, s, optional⟩ := f
    rw [Context.nameFields]
    exact congrArg (key :: ·) (ih _ _)

theorem idents_nameFields (owner : String) (names : Names) {idents : List Candidate}
    {fs : List Field} (h : idents.length = fs.length) :
    (cx.nameFields owner names idents fs).result.map (·.ident) = idents.map (·.ident) := by
  induction fs generalizing names idents with
  | nil =>
    rw [List.eq_nil_of_length_eq_zero h, Context.nameFields]
    rfl
  | cons f fs ih =>
    obtain ⟨key, s, optional⟩ := f
    obtain ⟨c, cs, rfl⟩ := List.exists_cons_of_length_eq_add_one h
    rw [Context.nameFields]
    exact congrArg (c.ident :: ·) (ih _ (Nat.succ.inj h))

theorem length_assignNames (convention : Ident.Convention) (wanted : List String)
    (owner : Option String) (claims : Claims) (cs : List Candidate) :
    (assignNames convention wanted owner claims cs).length = cs.length := by
  fun_induction assignNames convention wanted owner claims cs with
  | case1 => rfl
  | case2 claims c cs collides reason _ ident ih => rw [List.length_cons, ih, List.length_cons]
  | case3 claims c cs collides reason _ ih => rw [List.length_cons, ih, List.length_cons]

theorem length_memberNames (name : String) (keys : List String) :
    (cx.memberNames name keys).length = keys.length := by
  rw [Context.memberNames, length_assignNames, List.length_map]

variable {cx}

/-- The members of a declaration have the identifiers that their keys get in it. -/
theorem Built.idents {place : Place} {d : Declaration} (h : Built cx place d) :
    d.members.map (·.ident)
      = (cx.memberNames d.name (d.members.map (·.key))).map (·.ident) := by
  obtain ⟨hin, before, after, id, fields⟩ := h
  simp only
  rw [keys_nameFields, idents_nameFields]
  rw [length_memberNames, List.length_map]

/-- A name that is claimed before, and kept from numbering, is not handed out. -/
theorem notMem_assignNames {convention : Ident.Convention} {wanted : List String}
    {owner : Option String} {name : String} {claims : Claims} (cs : List Candidate)
    (htaken : name ∈ claims.taken) (hclaimed : name ∈ claims.claimed) :
    name ∉ (assignNames convention wanted owner claims cs).map (·.ident) := by
  fun_induction assignNames convention wanted owner claims cs with
  | case1 => simp
  | case2 claims c cs collides reason _ ident ih =>
    rw [List.map_cons, List.mem_cons, not_or]
    constructor
    · rintro rfl
      exact freshName_notMem _ (convention.withCounter_injective _) htaken
    · exact ih (List.mem_cons_of_mem _ htaken) hclaimed
  | case3 claims c cs collides reason hfree ih =>
    rw [List.map_cons, List.mem_cons, not_or]
    constructor
    · rintro rfl
      exact hfree (List.contains_iff_mem.2 hclaimed)
    · exact ih htaken (List.mem_cons_of_mem _ hclaimed)

/-- Where the owner's name is reserved, no member gets it. -/
theorem Built.name_notMem_idents {place : Place} {d : Declaration} (h : Built cx place d)
    (hlanguage : cx.language.memberMayShareTypeName = false) :
    d.name ∉ d.members.map (·.ident) := by
  rw [h.idents, Context.memberNames]
  apply notMem_assignNames
  · simp [hlanguage]
  · simp [hlanguage]

/-! ### References -/

mutual

theorem TypeRef.firstDeclared?_eq_head? : (t : TypeRef) → t.firstDeclared? = t.references.head?
  | .unknown => rfl
  | .primitive _ => rfl
  | .declared _ => rfl
  | .array t => TypeRef.firstDeclared?_eq_head? t
  | .nullable t => TypeRef.firstDeclared?_eq_head? t
  | .union ts => TypeRef.firstDeclaredOf?_eq_head? ts

theorem TypeRef.firstDeclaredOf?_eq_head? : (ts : List TypeRef) →
    TypeRef.firstDeclaredOf? ts = (TypeRef.referencesOf ts).head?
  | [] => rfl
  | t :: ts => by
    rw [TypeRef.firstDeclaredOf?, TypeRef.referencesOf, List.head?_append,
      TypeRef.firstDeclared?_eq_head? t, TypeRef.firstDeclaredOf?_eq_head? ts]

end

mutual

/-- Where nothing is shared, a type refers to what is declared for it, and to nothing else. -/
theorem references_nameType (hshare : cx.shareIdentical = false) (place : Place) (names : Names) :
    (s : Shape) →
    (cx.nameType place names s).result.references
      = (cx.nameType place names s).declared.map (·.id)
  | .unknown => by
    rw [Context.nameType]
    rfl
  | .primitive _ => by
    rw [Context.nameType]
    rfl
  | .array e => by
    rw [Context.nameType]
    exact references_nameType hshare place names e
  | .nullable s => by
    rw [Context.nameType]
    exact references_nameType hshare place names s
  | .union as => by
    rw [Context.nameType]
    exact references_nameArms hshare place names as
  | .object fs => by
    rw [Context.nameType, hshare]
    rfl

theorem references_nameArms (hshare : cx.shareIdentical = false) (place : Place) (names : Names) :
    (as : List Shape) →
    TypeRef.referencesOf (cx.nameArms place names as).result
      = (cx.nameArms place names as).declared.map (·.id)
  | [] => by
    rw [Context.nameArms]
    rfl
  | a :: as => by
    rw [Context.nameArms]
    simp only [Outcome.after, Outcome.map, TypeRef.referencesOf, List.map_append]
    rw [references_nameType hshare place names a, references_nameArms hshare place _ as]

end

theorem references_nameFields (hshare : cx.shareIdentical = false) (owner : String) (names : Names)
    (idents : List Candidate) (fs : List Field) :
    (cx.nameFields owner names idents fs).result.flatMap (·.type.references)
      = (cx.nameFields owner names idents fs).declared.map (·.id) := by
  induction fs generalizing names idents with
  | nil =>
    rw [Context.nameFields]
    rfl
  | cons f fs ih =>
    obtain ⟨key, s, optional⟩ := f
    rw [Context.nameFields]
    simp only [Outcome.after, Outcome.map, List.nil_append, List.flatMap_cons, List.map_append]
    rw [references_nameType hshare, ih]

/-- Every type refers to the declarations that it is the first to lead to, in order. -/
structure Graph.Tree (graph : Graph) : Prop where
  root : graph.root.references = graph.forest.map (·.id)
  members : ∀ d ∈ graph.declarations, d.members.flatMap (·.type.references) = d.children

theorem Graph.Tree.mem_children {graph : Graph} (h : graph.Tree) {d : Declaration}
    (hd : d ∈ graph.declarations) {m : Member} (hm : m ∈ d.members) {id : Nat}
    (hid : id ∈ m.type.references) : id ∈ d.children := by
  rw [← h.members d hd]
  exact List.mem_flatMap.2 ⟨m, hm, hid⟩

/-- **References go one step down**, to each declaration once, where nothing is shared. -/
theorem tree_resolve (hshare : cx.shareIdentical = false) (s : Shape) (rootName : String) :
    (cx.resolve s rootName).1.Tree where
  root := references_nameType hshare _ _ s
  members := by
    intro d hd
    obtain ⟨hin, before, after, id, fields⟩ := built_of_mem_declarations cx s rootName d hd
    exact references_nameFields hshare _ _ _ _

end Walk

end SampleTypes.Naming
