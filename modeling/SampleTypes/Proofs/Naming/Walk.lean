import Mathlib.Data.List.Forall2
import SampleTypes.Naming.Resolve

/-!
# What a naming walk declares

The walk of `Context.nameType` through a shape gives numbers to the objects that it declares.  All
that is said of a walk here is relative to the list of objects that have a number, where the place
of an object is its number:

* `Denotes` says what a type stands for, `Makes` what a member does;
* `Records` ties the names under way to the objects numbered so far, `Declares` the declarations of
  a walk to the objects that it numbers;
* `Faithful` is the law of one walk, with `Faithful.pure`, `Faithful.map` and `Faithful.join` for
  the ways in which walks are put together;
* `faithful_nameType` and `declares_resolve` are the main results.
-/

namespace SampleTypes

open List (Forall₂)

/-! ### The objects of a shape -/

namespace Shape

mutual

/-- The objects in a shape, depth first, each as the list of its fields. -/
def objects : Shape → List (List Field)
  | .object fields => fields :: objectsOfFields fields
  | .array element => objects element
  | .nullable inner => objects inner
  | .union arms => objectsOfArms arms
  | .unknown => []
  | .primitive _ => []

/-- The objects in the shapes of fields. -/
def objectsOfFields : List Field → List (List Field)
  | [] => []
  | ⟨_, shape, _⟩ :: fields => objects shape ++ objectsOfFields fields

/-- The objects in several arms. -/
def objectsOfArms : List Shape → List (List Field)
  | [] => []
  | arm :: arms => objects arm ++ objectsOfArms arms

end

theorem objectsOfFields_eq_flatMap (fs : List Field) :
    objectsOfFields fs = fs.flatMap (·.shape.objects) := by
  induction fs with
  | nil => rfl
  | cons f fs ih =>
    obtain ⟨key, s, optional⟩ := f
    rw [objectsOfFields, List.flatMap_cons, ih]

theorem objectsOfArms_eq_flatMap (as : List Shape) : objectsOfArms as = as.flatMap objects := by
  induction as with
  | nil => rfl
  | cons a as ih => rw [objectsOfArms, List.flatMap_cons, ih]

end Shape

namespace Naming

theorem getElem?_of_extension {α : Type} {l m : List α} {i : Nat} {a : α} (h : l <+: m)
    (hi : l[i]? = some a) : m[i]? = some a := by
  obtain ⟨n, rfl⟩ := h
  rwa [List.getElem?_append_left (List.getElem?_eq_some_iff.1 hi).1]

/-! ### Declarations and those under them -/

/-- Several declarations and all those under them, depth first. -/
def Declaration.withNested (ds : List Declaration) : List Declaration :=
  (listingOf none ds).map (·.2)

open Declaration (withNested)

theorem Declaration.map_snd_listingOf (parent : Option Nat) (ds : List Declaration) :
    (listingOf parent ds).map (·.2) = withNested ds := by
  induction ds with
  | nil => rfl
  | cons d ds ih =>
    obtain ⟨id, name, members, nested⟩ := d
    rw [withNested, listingOf, listingOf, List.map_append, List.map_append, ih, withNested]
    rfl

@[simp] theorem Declaration.withNested_nil : withNested [] = [] := rfl

@[simp] theorem Declaration.withNested_cons (d : Declaration) (ds : List Declaration) :
    withNested (d :: ds) = d :: (withNested d.nested ++ withNested ds) := by
  obtain ⟨id, name, members, nested⟩ := d
  rw [withNested, listingOf, listing, List.map_append, List.map_cons, map_snd_listingOf]
  rfl

@[simp] theorem Declaration.withNested_append (ds es : List Declaration) :
    withNested (ds ++ es) = withNested ds ++ withNested es := by
  induction ds with
  | nil => rfl
  | cons d ds ih => simp [ih]

theorem Graph.declarations_eq (graph : Graph) : graph.declarations = withNested graph.forest := rfl

/-! ### What types and members stand for -/

/-- The type stands for the shape, where a number stands for the object in its place. -/
inductive Denotes (objects : List (List Field)) : TypeRef → Shape → Prop
  | unknown : Denotes objects .unknown .unknown
  | primitive (kind : Primitive) : Denotes objects (.primitive kind) (.primitive kind)
  | declared {id : Nat} {fields : List Field} (place : objects[id]? = some fields) :
    Denotes objects (.declared id) (.object fields)
  | array {t : TypeRef} {s : Shape} (element : Denotes objects t s) :
    Denotes objects (.array t) (.array s)
  | nullable {t : TypeRef} {s : Shape} (inner : Denotes objects t s) :
    Denotes objects (.nullable t) (.nullable s)
  | union {ts : List TypeRef} {ss : List Shape} (arms : Forall₂ (Denotes objects) ts ss) :
    Denotes objects (.union ts) (.union ss)

/-- The member stands for the field. -/
structure Makes (objects : List (List Field)) (m : Member) (f : Field) : Prop where
  key : m.key = f.key
  optional : m.optional = f.optional
  type : Denotes objects m.type f.shape

/-- The declarations have the numbers from `start` on and stand for the objects, one for one. -/
structure Declares (objects : List (List Field)) (start : Nat) (ds : List Declaration)
    (declared : List (List Field)) : Prop where
  ids : ds.map (·.id) = List.range' start declared.length
  members : Forall₂ (fun d fields => Forall₂ (Makes objects) d.members fields) ds declared

/-- The names under way count the numbered objects, and share them in the place that they have. -/
structure Records (objects : List (List Field)) (names : Names) : Prop where
  count : names.next = objects.length
  shared : ∀ p ∈ names.shared, objects[p.2]? = some p.1

theorem Declares.nil (objects : List (List Field)) (start : Nat) : Declares objects start [] [] :=
  ⟨rfl, .nil⟩

theorem Declares.append {objects declared declared' : List (List Field)} {start : Nat}
    {ds es : List Declaration} (hd : Declares objects start ds declared)
    (he : Declares objects (start + declared.length) es declared') :
    Declares objects start (ds ++ es) (declared ++ declared') where
  ids := by
    rw [List.map_append, hd.ids, he.ids, List.length_append, ← List.range'_append_1]
  members := List.rel_append hd.members he.members

/-- A declaration and those under it. -/
theorem Declares.cons {objects declared : List (List Field)} {fields : List Field} {start : Nat}
    {d : Declaration} (hid : d.id = start) (hmembers : Forall₂ (Makes objects) d.members fields)
    (h : Declares objects (start + 1) (withNested d.nested) declared) :
    Declares objects start (withNested [d]) (fields :: declared) where
  ids := by
    rw [Declaration.withNested_cons, Declaration.withNested_nil, List.append_nil, List.map_cons,
      h.ids, hid, List.length_cons, List.range'_succ]
  members := by
    rw [Declaration.withNested_cons, Declaration.withNested_nil, List.append_nil]
    exact .cons hmembers h.members

/-! ### The law of a walk -/

/--
A walk that starts when the objects `before` have numbers and passes the objects `passed`: it
numbers some of these, all if it does not share; and among all objects that ever get a number its
result means what it should, and its declarations stand for the objects that it numbered.
-/
def Faithful {α : Type} (sharing : Bool) (before passed : List (List Field)) (o : Outcome α)
    (Means : List (List Field) → α → Prop) : Prop :=
  ∃ new : List (List Field), new.Sublist passed ∧ (sharing = false → new = passed) ∧
    Records (before ++ new) o.names ∧
    ∀ all, before ++ new <+: all →
      Means all o.result ∧ Declares all before.length (withNested o.declared) new

section Faithful

variable {α β γ : Type} {sharing : Bool} {before passed passed' : List (List Field)}
  {M : List (List Field) → α → Prop} {M' : List (List Field) → β → Prop}

theorem Faithful.pure {a : α} {names : Names} (hr : Records before names) (hm : ∀ all, M all a) :
    Faithful sharing before [] (.pure a names) M := by
  refine ⟨[], .refl _, fun _ => rfl, by rwa [List.append_nil], fun all _ => ⟨hm all, ?_⟩⟩
  exact .nil all _

theorem Faithful.map {o : Outcome α} {f : α → β} (h : Faithful sharing before passed o M)
    (hm : ∀ all a, M all a → M' all (f a)) : Faithful sharing before passed (o.map f) M' := by
  obtain ⟨new, hsub, hall, hr, hd⟩ := h
  exact ⟨new, hsub, hall, hr, fun all hpre => ⟨hm all _ (hd all hpre).1, (hd all hpre).2⟩⟩

/-- Two walks, one after the other, whose results are put together. -/
theorem Faithful.join {first : Outcome α} {rest : Outcome β} {f : α → β → γ}
    {M'' : List (List Field) → γ → Prop} (hfirst : Faithful sharing before passed first M)
    (hrest : ∀ mid, Records mid first.names → Faithful sharing mid passed' rest M')
    (hm : ∀ all a b, M all a → M' all b → M'' all (f a b)) :
    Faithful sharing before (passed ++ passed') ((rest.map (f first.result)).after first) M'' := by
  obtain ⟨new, hsub, hall, hr, hd⟩ := hfirst
  obtain ⟨new', hsub', hall', hr', hd'⟩ := hrest _ hr
  refine ⟨new ++ new', hsub.append hsub', fun h => ?_, ?_, fun all hpre => ?_⟩
  · rw [hall h, hall' h]
  · rw [← List.append_assoc]
    exact hr'
  · rw [← List.append_assoc] at hpre
    obtain ⟨hmean, hdecl⟩ := hd all ((List.prefix_append _ _).trans hpre)
    obtain ⟨hmean', hdecl'⟩ := hd' all hpre
    rw [List.length_append] at hdecl'
    refine ⟨hm all _ _ hmean hmean', ?_⟩
    show Declares all before.length (withNested (first.declared ++ rest.declared)) (new ++ new')
    rw [Declaration.withNested_append]
    exact hdecl.append hdecl'

/-- What was warned of before makes no difference. -/
theorem Faithful.after_warnings {o : Outcome α} (h : Faithful sharing before passed o M)
    (u : β) (warnings : List Warning) (names : Names) :
    Faithful sharing before passed (o.after ⟨u, [], warnings, names⟩) M :=
  h

end Faithful

theorem records_start (used : List String) : Records [] { used } :=
  ⟨rfl, fun _ hp => by cases hp⟩

theorem Records.withTypeName {objects : List (List Field)} {names : Names}
    (h : Records objects names) (place : Place) (name : String) :
    Records objects (names.withTypeName place name) := by
  cases place
  · exact h
  · exact ⟨h.count, h.shared⟩

/-- A new declaration gets the next number. -/
theorem Records.add {objects : List (List Field)} {names : Names} (h : Records objects names)
    (sharing : Bool) (fields : List Field) :
    Records (objects ++ [fields]) (names.add sharing fields) where
  count := by
    rw [List.length_append, ← h.count]
    rfl
  shared := by
    have hlast : (objects ++ [fields])[names.next]? = some fields := by
      rw [h.count, List.getElem?_concat_length]
    have hold : ∀ p ∈ names.shared, (objects ++ [fields])[p.2]? = some p.1 := fun p hp =>
      getElem?_of_extension (List.prefix_append _ _) (h.shared p hp)
    intro p hp
    cases sharing with
    | false => exact hold p hp
    | true =>
      rcases List.mem_append.1 hp with hp | hp
      · exact hold p hp
      · rw [List.mem_singleton.1 hp]
        exact hlast

/-- A number that is shared stands for an equal object. -/
theorem Records.of_sharedId? {objects : List (List Field)} {names : Names}
    (h : Records objects names) {fields : List Field} {id : Nat}
    (hid : names.sharedId? fields = some id) : objects[id]? = some fields := by
  obtain ⟨p, hp, rfl⟩ := Option.map_eq_some_iff.1 hid
  have hfields := List.find?_some hp
  rw [h.shared p (List.mem_of_find?_eq_some hp), eq_of_beq hfields]

section Walk

variable (cx : Context)

mutual

/-- **Naming a shape is faithful.** -/
theorem faithful_nameType (place : Place) (names : Names) (before : List (List Field))
    (hr : Records before names) : (s : Shape) →
    Faithful cx.shareIdentical before s.objects (cx.nameType place names s) (Denotes · · s)
  | .unknown => by
    rw [Context.nameType, Shape.objects]
    exact .pure hr fun _ => .unknown
  | .primitive k => by
    rw [Context.nameType, Shape.objects]
    exact .pure hr fun _ => .primitive k
  | .array e => by
    rw [Context.nameType, Shape.objects]
    exact (faithful_nameType place names before hr e).map fun _ _ h => .array h
  | .nullable s => by
    rw [Context.nameType, Shape.objects]
    exact (faithful_nameType place names before hr s).map fun _ _ h => .nullable h
  | .union as => by
    rw [Context.nameType, Shape.objects]
    exact (faithful_nameArms place names before hr as).map fun _ _ h => .union h
  | .object fs => by
    rw [Context.nameType, Shape.objects]
    split
    · -- an equal object has a number already
      rename_i id hid
      have hshare : cx.shareIdentical = true := by
        by_contra hno
        rw [if_neg hno] at hid
        cases hid
      rw [if_pos hshare] at hid
      have hplace := hr.of_sharedId? hid
      refine ⟨[], List.nil_sublist _, fun h => ?_, by rwa [List.append_nil], fun all hpre => ?_⟩
      · rw [hshare] at h
        cases h
      · rw [List.append_nil] at hpre
        exact ⟨.declared (getElem?_of_extension hpre hplace), .nil all _⟩
    · -- the object gets the next number before the walk goes into its fields
      obtain ⟨new, hsub, hall, hr', hd⟩ := faithful_nameFields (cx.typeName place names)
        ((names.withTypeName place (cx.typeName place names)).add cx.shareIdentical fs)
        (cx.memberNames (cx.typeName place names) (fs.map (·.key))) (before ++ [fs])
        ((hr.withTypeName place _).add _ fs) fs
      refine ⟨fs :: new, hsub.cons_cons fs, fun h => by rw [hall h], ?_, fun all hpre => ?_⟩
      · rwa [List.append_assoc] at hr'
      · have hpre' : before ++ [fs] ++ new <+: all := by
          rwa [List.append_assoc]
        obtain ⟨hmembers, hdecl⟩ := hd all hpre'
        have hplace : all[before.length]? = some fs :=
          getElem?_of_extension ((List.prefix_append _ _).trans hpre') List.getElem?_concat_length
        rw [hr.count]
        rw [List.length_append] at hdecl
        exact ⟨.declared hplace, .cons rfl hmembers hdecl⟩

theorem faithful_nameArms (place : Place) (names : Names) (before : List (List Field))
    (hr : Records before names) : (as : List Shape) →
    Faithful cx.shareIdentical before (Shape.objectsOfArms as) (cx.nameArms place names as)
      (fun all ts => Forall₂ (Denotes all) ts as)
  | [] => by
    rw [Context.nameArms, Shape.objectsOfArms]
    exact .pure hr fun _ => .nil
  | a :: as => by
    rw [Context.nameArms, Shape.objectsOfArms]
    exact (faithful_nameType place names before hr a).join
      (fun mid hmid => faithful_nameArms place _ mid hmid as) fun _ _ _ ht hts => .cons ht hts

theorem faithful_nameFields (owner : String) (names : Names) (idents : List Candidate)
    (before : List (List Field)) (hr : Records before names) : (fs : List Field) →
    Faithful cx.shareIdentical before (Shape.objectsOfFields fs)
      (cx.nameFields owner names idents fs) (fun all ms => Forall₂ (Makes all) ms fs)
  | [] => by
    rw [Context.nameFields, Shape.objectsOfFields]
    exact .pure hr fun _ => .nil
  | ⟨key, s, optional⟩ :: fs => by
    rw [Context.nameFields, Shape.objectsOfFields]
    refine Faithful.after_warnings ?_ _ _ _
    refine (faithful_nameType (.field owner key) names before hr s).join
      (fun mid hmid => faithful_nameFields owner _ idents.tail mid hmid fs) ?_
      (f := fun t ms => ⟨key, (idents.headD ⟨key, none⟩).ident, t, optional⟩ :: ms)
    exact fun _ _ _ ht hms => .cons ⟨rfl, rfl, ht⟩ hms

end

/--
**The declarations of a graph** stand for objects of the shape, all of them if nothing is shared,
and its root for the shape.
-/
theorem declares_resolve (s : Shape) (rootName : String) :
    ∃ objects : List (List Field), objects.Sublist s.objects ∧
      (cx.shareIdentical = false → objects = s.objects) ∧
      Denotes objects (cx.resolve s rootName).1.root s ∧
      Declares objects 0 (cx.resolve s rootName).1.declarations objects := by
  obtain ⟨objects, hsub, hall, -, hd⟩ :=
    faithful_nameType cx (.root (cx.rootName rootName).ident) _ [] (records_start _) s
  exact ⟨objects, hsub, hall, hd objects (List.prefix_refl _)⟩

end Walk

end Naming

end SampleTypes
