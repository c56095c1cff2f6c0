import SampleTypes.Proofs.Naming.MemberNames
import SampleTypes.Proofs.Naming.TypeNames

/-!
# Names in use

How a type or a member is named depends on nothing but the names that are in use when its turn
comes, and what it gets is in use from then on.

* `Context.Picks` tells the name of a type under a field (`picks_typeName`);
* `Graph.Tracks` is the invariant of a walk: the names in use are those of the declarations that
  have a number.  `Graph.Tracks.declare` is the step and `named_nameType` the walk;
* `Context.HandsOut` says what holds of a graph, and `picks_typeName_and_handsOut_resolve` is the
  main result.
-/

namespace SampleTypes.Naming

open Ident (Convention)
open Declaration (withNested innerNames)

/-! ### The name of a type -/

/-- What a type under a field is called for the sake of a text. -/
def Context.typeCandidate (cx : Context) (text : String) : String :=
  (cx.sanitize text "type").ident

/--
The name of a type under a field where some names are in use: that of the key, else that of the
owner with the key, else that of the key with a number.
-/
inductive Context.Picks (cx : Context) (used : Finset String) (owner key : String) : String → Prop
  | key (free : cx.typeCandidate key ∉ used) : Picks cx used owner key (cx.typeCandidate key)
  | ownerAndKey (plain : cx.typeCandidate key ∈ used)
    (free : cx.typeCandidate (owner ++ " " ++ key) ∉ used) :
    Picks cx used owner key (cx.typeCandidate (owner ++ " " ++ key))
  | numbered (n : Nat) (plain : cx.typeCandidate key ∈ used)
    (qualified : cx.typeCandidate (owner ++ " " ++ key) ∈ used)
    (number : Numbers used (cx.convention.withCounter (cx.typeCandidate key)) n) :
    Picks cx used owner key (cx.convention.withCounter (cx.typeCandidate key) n)

theorem Context.Picks.notMem {cx : Context} {used : Finset String} {owner key name : String}
    (h : cx.Picks used owner key name) : name ∉ used := by
  cases h with
  | key free => exact free
  | ownerAndKey _ free => exact free
  | numbered n _ _ number => exact number.notMem

/-- **A type under a field is named by these rules**, whatever names are in use. -/
theorem picks_typeName (cx : Context) (owner key : String) (names : Names) :
    cx.Picks names.used.toFinset owner key (cx.typeName (.field owner key) names) := by
  have hmem : ∀ name, names.used.contains name = true ↔ name ∈ names.used.toFinset := by
    intro name
    rw [List.contains_iff_mem, List.mem_toFinset]
  unfold Context.typeName
  simp only [Bool.not_eq_true', ← Bool.not_eq_true, hmem, ite_not]
  split_ifs with hplain hqualified
  · obtain ⟨n, hnumber, heq⟩ := exists_numbers_freshName names.used
      (cx.convention.withCounter_injective (cx.typeCandidate key))
    have hpicks := Context.Picks.numbered n hplain hqualified hnumber
    rwa [← heq] at hpicks
  · exact .ownerAndKey hplain hqualified
  · exact .key hplain

/-- The name of the root: what is wanted for it, with a number if that is reserved. -/
inductive Context.PicksRoot (cx : Context) (rootName : String) : String → Prop
  | wanted (free : (cx.sanitize rootName "root").ident ∉ cx.language.reservedTypeNames) :
    PicksRoot cx rootName (cx.sanitize rootName "root").ident
  | numbered (n : Nat)
    (reserved : (cx.sanitize rootName "root").ident ∈ cx.language.reservedTypeNames)
    (number : Numbers cx.language.reservedTypeNames.toFinset
      (cx.convention.withCounter (cx.sanitize rootName "root").ident) n) :
    PicksRoot cx rootName (cx.convention.withCounter (cx.sanitize rootName "root").ident n)

theorem picksRoot_rootName (cx : Context) (rootName : String) :
    cx.PicksRoot rootName (cx.rootName rootName).ident := by
  unfold Context.rootName
  simp only [List.contains_iff_mem]
  split_ifs with hreserved
  · obtain ⟨n, hnumber, heq⟩ := exists_numbers_freshName cx.language.reservedTypeNames
      (cx.convention.withCounter_injective (cx.sanitize rootName "root").ident)
    have hpicks := Context.PicksRoot.numbered n hreserved hnumber
    rwa [← heq] at hpicks
  · exact .wanted hreserved

/-! ### The names in use on a walk -/

/--
The type names in use when a declaration gets its number: the root's, the reserved ones and those of
declarations with smaller numbers.
-/
def Graph.usedBefore (graph : Graph) (reserved : List String) (id : Nat) : Finset String :=
  (graph.rootName :: reserved
    ++ (graph.declarations.filter fun d => d.id < id).map (·.name)).toFinset

/-- The names in use on a walk are those that the graph has before the next number. -/
def Graph.Tracks (graph : Graph) (reserved : List String) (names : Names) : Prop :=
  names.used.toFinset = graph.usedBefore reserved names.next

section Tracks

variable {graph : Graph} {reserved : List String}

theorem Graph.mem_usedBefore {id : Nat} {name : String} : name ∈ graph.usedBefore reserved id ↔
    (name = graph.rootName ∨ name ∈ reserved) ∨
      ∃ d ∈ graph.declarations, d.id < id ∧ d.name = name := by
  simp [Graph.usedBefore, or_assoc, and_assoc]

/-- With its number a declaration brings its name into use. -/
theorem Graph.usedBefore_succ (hasc : graph.Ascending) {d : Declaration}
    (hd : d ∈ graph.declarations) :
    graph.usedBefore reserved (d.id + 1) = insert d.name (graph.usedBefore reserved d.id) := by
  ext name
  rw [Finset.mem_insert, mem_usedBefore, mem_usedBefore, or_left_comm]
  refine or_congr_right ⟨?_, ?_⟩
  · rintro ⟨e, he, hlt, rfl⟩
    rcases Nat.lt_succ_iff_lt_or_eq.1 hlt with hlt | heq
    · exact .inr ⟨e, he, hlt, rfl⟩
    · -- only this declaration has the number
      have hsame := hasc.find?_eq_some he
      rw [heq, hasc.find?_eq_some hd, Option.some.injEq] at hsame
      exact .inl (congrArg Declaration.name hsame.symm)
  · rintro (rfl | ⟨e, he, hlt, rfl⟩)
    · exact ⟨d, hd, Nat.lt_succ_self _, rfl⟩
    · exact ⟨e, he, Nat.lt_succ_of_lt hlt, rfl⟩

/-- At the root the names are tracked from the start. -/
theorem Graph.tracks_start (graph : Graph) (reserved : List String) :
    graph.Tracks reserved { used := graph.rootName :: reserved } := by
  have hnone : (graph.declarations.filter fun d => d.id < 0) = [] := by
    rw [List.filter_eq_nil_iff]
    simp
  rw [Tracks, usedBefore, hnone, List.map_nil, List.append_nil]

/-- At the root a name is the root's, under a field what is picked for that field. -/
def Context.NamedAt (cx : Context) (graph : Graph) (id : Nat) (name : String) : Place → Prop
  | .root _ => name = graph.rootName
  | .field owner key =>
    cx.Picks (graph.usedBefore cx.language.reservedTypeNames id) owner key name

/-- The walk names the next declaration by the names in use. -/
theorem Graph.Tracks.namedAt_typeName {cx : Context} {names : Names}
    (h : graph.Tracks cx.language.reservedTypeNames names) {place : Place}
    (hplace : ∀ name, place = .root name → name = graph.rootName) :
    cx.NamedAt graph names.next (cx.typeName place names) place := by
  cases place with
  | root name => exact hplace name rfl
  | field owner key =>
    have hpicks := picks_typeName cx owner key names
    rwa [h] at hpicks

/-- **One step**: a declaration gets the next number and its name. -/
theorem Graph.Tracks.declare {cx : Context} {names : Names}
    (h : graph.Tracks cx.language.reservedTypeNames names) (hasc : graph.Ascending)
    {d : Declaration} (hd : d ∈ graph.declarations) (hid : d.id = names.next) {place : Place}
    (hnamed : cx.NamedAt graph names.next d.name place) (sharing : Bool) (fields : List Field) :
    graph.Tracks cx.language.reservedTypeNames
      ((names.withTypeName place d.name).add sharing fields) := by
  have hnext : graph.usedBefore cx.language.reservedTypeNames (names.next + 1)
      = insert d.name names.used.toFinset := by
    rw [h, ← hid]
    exact usedBefore_succ hasc hd
  cases place with
  | root name =>
    -- the root's name was in use before
    have hused : d.name ∈ names.used.toFinset := by
      rw [h]
      exact mem_usedBefore.2 (.inl (.inl hnamed))
    show names.used.toFinset = graph.usedBefore _ (names.next + 1)
    rw [hnext, Finset.insert_eq_of_mem hused]
  | field owner key =>
    show (d.name :: names.used).toFinset = graph.usedBefore _ (names.next + 1)
    rw [hnext, List.toFinset_cons]

end Tracks

/--
A declaration under another is named for the first member that leads to it, by the names in use when
it got its number.
-/
def Context.NamedUnder (cx : Context) (graph : Graph) (owner : String) (members : List Member)
    (d : Declaration) : Prop :=
  ∃ m, members.find? (fun m => m.type.references.contains d.id) = some m ∧
    cx.Picks (graph.usedBefore cx.language.reservedTypeNames d.id) owner m.key d.name

/-- A walk tracks the names in use, and `Outer` holds of its own declarations. -/
structure Context.Named {α : Type} (cx : Context) (graph : Graph) (Outer : Declaration → Prop)
    (o : Outcome α) : Prop where
  tracks : graph.Tracks cx.language.reservedTypeNames o.names
  outer : ∀ d ∈ o.declared, Outer d
  inner : ∀ owner ∈ withNested o.declared, ∀ d ∈ owner.nested,
    cx.NamedUnder graph owner.name owner.members d

section Walk

variable {cx : Context} {graph : Graph}

theorem Context.Named.nothing {α : Type} {Outer : Declaration → Prop} {names : Names}
    (h : graph.Tracks cx.language.reservedTypeNames names) (result : α) :
    cx.Named graph Outer (.pure result names) :=
  ⟨h, by rintro d ⟨⟩, by rintro d ⟨⟩⟩

theorem Context.Named.map {α β : Type} {Outer : Declaration → Prop} {o : Outcome α}
    (h : cx.Named graph Outer o) (f : α → β) : cx.Named graph Outer (o.map f) :=
  ⟨h.tracks, h.outer, h.inner⟩

/-- Two walks, one after the other. -/
theorem Context.Named.join {α β : Type} {Outer Outer' Outer'' : Declaration → Prop}
    {first : Outcome α} {rest : Outcome β} (hfirst : cx.Named graph Outer first)
    (hrest : cx.Named graph Outer' rest) (h : ∀ d ∈ first.declared, Outer d → Outer'' d)
    (h' : ∀ d ∈ rest.declared, Outer' d → Outer'' d) :
    cx.Named graph Outer'' (rest.after first) where
  tracks := hrest.tracks
  outer := by
    intro d hd
    rcases List.mem_append.1 hd with hd | hd
    · exact h d hd (hfirst.outer d hd)
    · exact h' d hd (hrest.outer d hd)
  inner := by
    show ∀ owner ∈ withNested (first.declared ++ rest.declared), _
    rw [Declaration.withNested_append, List.forall_mem_append]
    exact ⟨hfirst.inner, hrest.inner⟩

/-- What was warned of before makes no difference. -/
theorem Context.Named.after_warnings {α β : Type} {Outer : Declaration → Prop} {o : Outcome α}
    (h : cx.Named graph Outer o) (u : β) (warnings : List Warning) (names : Names) :
    cx.Named graph Outer (o.after ⟨u, [], warnings, names⟩) :=
  ⟨h.tracks, h.outer, h.inner⟩

mutual

/-- **A walk names types by the names in use.** -/
theorem named_nameType (hasc : graph.Ascending) (place : Place)
    (hplace : ∀ name, place = .root name → name = graph.rootName) (names : Names)
    (h : graph.Tracks cx.language.reservedTypeNames names) (before : List (List Field))
    (hr : Records before names) : (s : Shape) →
    withNested (cx.nameType place names s).declared ⊆ graph.declarations →
    cx.Named graph (fun d => cx.NamedAt graph d.id d.name place) (cx.nameType place names s)
  | .unknown, _ => by
    rw [Context.nameType]
    exact .nothing h _
  | .primitive _, _ => by
    rw [Context.nameType]
    exact .nothing h _
  | .array e, hsub => by
    rw [Context.nameType] at hsub ⊢
    exact (named_nameType hasc place hplace names h before hr e hsub).map _
  | .nullable s, hsub => by
    rw [Context.nameType] at hsub ⊢
    exact (named_nameType hasc place hplace names h before hr s hsub).map _
  | .union as, hsub => by
    rw [Context.nameType] at hsub ⊢
    exact (named_nameArms hasc place hplace names h before hr as hsub).map _
  | .object fs, hsub => by
    rw [Context.nameType] at hsub ⊢
    split at hsub
    · exact .nothing h _
    · simp only [Declaration.withNested_cons, Declaration.withNested_nil, List.append_nil,
        List.cons_subset] at hsub
      obtain ⟨hself, hnested⟩ := hsub
      have hnamed := h.namedAt_typeName hplace
      have hinside := h.declare hasc hself rfl hnamed cx.shareIdentical fs
      have hfields := named_nameFields hasc (cx.typeName place names) _ hinside
        (cx.memberNames (cx.typeName place names) (fs.map (·.key))) (before ++ [fs])
        ((hr.withTypeName place _).add _ fs) fs hnested
      refine ⟨hfields.tracks, List.forall_mem_singleton.2 hnamed, ?_⟩
      rw [Declaration.withNested_cons, Declaration.withNested_nil, List.append_nil,
        List.forall_mem_cons]
      exact ⟨hfields.outer, hfields.inner⟩

theorem named_nameArms (hasc : graph.Ascending) (place : Place)
    (hplace : ∀ name, place = .root name → name = graph.rootName) (names : Names)
    (h : graph.Tracks cx.language.reservedTypeNames names) (before : List (List Field))
    (hr : Records before names) : (as : List Shape) →
    withNested (cx.nameArms place names as).declared ⊆ graph.declarations →
    cx.Named graph (fun d => cx.NamedAt graph d.id d.name place) (cx.nameArms place names as)
  | [], _ => by
    rw [Context.nameArms]
    exact .nothing h _
  | a :: as, hsub => by
    rw [Context.nameArms] at hsub ⊢
    simp only [Outcome.after, Outcome.map, Declaration.withNested_append, List.append_subset]
      at hsub
    obtain ⟨hfirst, hrest⟩ := hsub
    obtain ⟨new, -, -, hr', -⟩ := faithful_nameType cx place names before hr a
    have hnamed := named_nameType hasc place hplace names h before hr a hfirst
    have hmore := named_nameArms hasc place hplace _ hnamed.tracks _ hr' as hrest
    exact hnamed.join (hmore.map _) (fun _ _ h => h) fun _ _ h => h

theorem named_nameFields (hasc : graph.Ascending) (owner : String) (names : Names)
    (h : graph.Tracks cx.language.reservedTypeNames names) (idents : List Candidate)
    (before : List (List Field)) (hr : Records before names) : (fs : List Field) →
    withNested (cx.nameFields owner names idents fs).declared ⊆ graph.declarations →
    cx.Named graph (cx.NamedUnder graph owner (cx.nameFields owner names idents fs).result)
      (cx.nameFields owner names idents fs)
  | [], _ => by
    rw [Context.nameFields]
    exact .nothing h _
  | ⟨key, s, optional⟩ :: fs, hsub => by
    rw [Context.nameFields] at hsub ⊢
    simp only [Outcome.after, Outcome.map, List.nil_append, Declaration.withNested_append,
      List.append_subset] at hsub
    obtain ⟨hfirst, hrest⟩ := hsub
    obtain ⟨new, -, -, hr', -⟩ := faithful_nameType cx (.field owner key) names before hr s
    have hnamed := named_nameType hasc (.field owner key) (by rintro name ⟨⟩) names h before hr s
      hfirst
    have hmore := named_nameFields hasc owner _ hnamed.tracks idents.tail _ hr' fs hrest
    refine .after_warnings (hnamed.join (hmore.map _) (fun d hd hpicks => ?_)
      fun d hd hunder => ?_) _ _ _
    · -- the field's own type leads to what is declared for it
      have hid := mem_references_nameType cx (.field owner key) names s d hd
      refine ⟨_, List.find?_cons_of_pos ?_, hpicks⟩
      exact List.contains_iff_mem.2 hid
    · -- the field before is passed over on the way to the one that leads there
      have hid := notMem_references_of_mem_nameFields cx hr s owner idents.tail fs hd
      obtain ⟨m, hm, hpicks⟩ := hunder
      refine ⟨m, ?_, hpicks⟩
      rw [← hm]
      exact List.find?_cons_of_neg (mt List.contains_iff_mem.1 hid)

end

end Walk

/-! ### The names in a graph -/

/-- The names in a graph are handed out one after the other, each by the names in use. -/
structure Context.HandsOut (cx : Context) (rootName : String) (graph : Graph) : Prop where
  root : cx.PicksRoot rootName graph.rootName
  types : ∀ owner ∈ graph.declarations, ∀ d ∈ owner.nested,
    cx.NamedUnder graph owner.name owner.members d
  members : ∀ d ∈ graph.declarations,
    (cx.claims d).Run cx.convention (cx.candidates d.members) (d.members.map (·.ident))
  /-- No name is given twice to declarations that stand under others. -/
  nodup : (innerNames graph.forest).Nodup
  apart : ∀ name ∈ innerNames graph.forest,
    name ≠ graph.rootName ∧ name ∉ cx.language.reservedTypeNames

section Resolve

variable (cx : Context)

/-- **The names in the graph of a shape are handed out one after the other.** -/
theorem handsOut_resolve (s : Shape) (rootName : String) :
    cx.HandsOut rootName (cx.resolve s rootName).1 := by
  have hnames := (typeNames_resolve cx s rootName).1
  have hwalk := named_nameType (ascending_resolve cx s rootName)
    (.root (cx.rootName rootName).ident) (by rintro name ⟨⟩; rfl) _ (Graph.tracks_start _ _) []
    (records_start _) s (List.Subset.refl _)
  constructor
  · exact picksRoot_rootName cx rootName
  · exact hwalk.inner
  · intro d hd
    exact (built_of_mem_declarations cx s rootName d hd).run
  · exact hnames.nodup
  · exact hnames.inner

/--
**Every name is found and was free.**  Whatever type names are in use, a type under a field gets the
name of its key, else that of its owner with the key, else the first number that is free, and this
name and no other comes into use; whatever is claimed and taken, members get what they want or the
first number that is free.  In a graph the names in use are those handed out before, so that no name
of a declaration under another is repeated, or is the root's or a reserved one.
-/
theorem picks_typeName_and_handsOut_resolve :
    (∀ (owner key : String) (names : Names),
      let name := cx.typeName (.field owner key) names
      cx.Picks names.used.toFinset owner key name ∧ name ∉ names.used ∧
        (names.withTypeName (.field owner key) name).used.toFinset
          = insert name names.used.toFinset) ∧
    (∀ (wanted : List String) (owner : Option String) (claims : Claims) (cs : List Candidate),
      claims.Run cx.convention (cs.map (·.ident))
        ((assignNames cx.convention wanted owner claims cs).map (·.ident))) ∧
    ∀ (s : Shape) (rootName : String), cx.HandsOut rootName (cx.resolve s rootName).1 := by
  refine ⟨fun owner key names => ?_, run_assignNames cx.convention, handsOut_resolve cx⟩
  have hpicks := picks_typeName cx owner key names
  refine ⟨hpicks, ?_, List.toFinset_cons⟩
  rw [← List.mem_toFinset]
  exact hpicks.notMem

end Resolve

/-- The third type wants the root's name, and with it that of the second. -/
example :
    let shape : Shape := .object [⟨"rootRoot", .object [], false⟩, ⟨"root", .object [], false⟩]
    (Context.resolve ⟨.csharp, .pascal, false⟩ shape "Root").1.declarations.map (·.name)
      = ["Root", "RootRoot", "Root2"] := by
  decide +kernel

end SampleTypes.Naming
