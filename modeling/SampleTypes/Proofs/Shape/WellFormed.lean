import SampleTypes.Proofs.Keyed
import SampleTypes.Shape.Basic

/-!
# Well-formed shapes

The rules that shapes made by inference obey, and the view in which such shapes are compared: a
shape is known from whether it allows null and from the arm it has in each family.

* `WellFormed` states the rules at every depth;
* `allowsNull`, `arms` and `arm?` make up the view, and `ofParts` is the way back;
* `WellFormed.ext` says that well-formed shapes with the same view are equal;
* `WellFormed.induction` proves a property of a shape from the same property of what its arms are
  made of.
-/

namespace SampleTypes

namespace Shape

/-- The shape is marked as one that may be null. -/
def isNullable : Shape → Bool
  | .nullable _ => true
  | _ => false

/-- The shape stands for values other than null, and is not marked for null itself. -/
structure Core (s : Shape) : Prop where
  known : s ≠ .unknown
  nonnull : s ≠ .null
  plain : s.isNullable = false

/-- The arms of one shape: each has a family, and their ranks go up. -/
structure Ranked (arms : List Shape) : Prop where
  hasFamily : ∀ a ∈ arms, a.family ≠ none
  increasing : arms.Pairwise (rank · < rank ·)

/-- The rules for shapes, at every depth. -/
inductive WellFormed : Shape → Prop
  | unknown : WellFormed .unknown
  | primitive (kind : Primitive) : WellFormed (.primitive kind)
  /-- The keys of an object are distinct, and null is never marked on the shape of a field. -/
  | object {fields : List Field} (distinct : (fields.map Field.key).Nodup)
      (plain : ∀ f ∈ fields, f.shape.isNullable = false)
      (parts : ∀ f ∈ fields, WellFormed f.shape) : WellFormed (.object fields)
  | array {element : Shape} (part : WellFormed element) : WellFormed (.array element)
  /-- Null is marked once, and only beside other values. -/
  | nullable {inner : Shape} (core : Core inner) (part : WellFormed inner) :
    WellFormed (.nullable inner)
  /-- A union has several arms, one for each of its families, in the order of their ranks. -/
  | union {arms : List Shape} (several : 2 ≤ arms.length) (ranked : Ranked arms)
      (parts : ∀ a ∈ arms, WellFormed a) : WellFormed (.union arms)

theorem wellFormed_object_iff {fs : List Field} :
    WellFormed (.object fs) ↔ ((fs.map Field.key).Nodup ∧ ∀ f ∈ fs, f.shape.isNullable = false) ∧
      ∀ f ∈ fs, WellFormed f.shape :=
  ⟨fun h => by cases h with | object hd hp hw => exact ⟨⟨hd, hp⟩, hw⟩,
    fun h => .object h.1.1 h.1.2 h.2⟩

theorem wellFormed_array_iff {e : Shape} : WellFormed (.array e) ↔ WellFormed e :=
  ⟨fun h => by cases h; assumption, .array⟩

theorem wellFormed_nullable_iff {s : Shape} :
    WellFormed (.nullable s) ↔ Core s ∧ WellFormed s :=
  ⟨fun h => by cases h with | nullable hc hw => exact ⟨hc, hw⟩, fun h => .nullable h.1 h.2⟩

theorem wellFormed_union_iff {as : List Shape} :
    WellFormed (.union as) ↔ (2 ≤ as.length ∧ Ranked as) ∧ ∀ a ∈ as, WellFormed a :=
  ⟨fun h => by cases h with | union hl hr hw => exact ⟨⟨hl, hr⟩, hw⟩,
    fun h => .union h.1.1 h.1.2 h.2⟩

/-! ### Deciding the rules -/

instance : DecidablePred Core := fun s =>
  decidable_of_iff (s ≠ .unknown ∧ s ≠ .null ∧ s.isNullable = false)
    ⟨fun h => ⟨h.1, h.2.1, h.2.2⟩, fun h => ⟨h.known, h.nonnull, h.plain⟩⟩

instance : DecidablePred Ranked := fun as =>
  decidable_of_iff ((∀ a ∈ as, a.family ≠ none) ∧ as.Pairwise (rank · < rank ·))
    ⟨fun h => ⟨h.1, h.2⟩, fun h => ⟨h.hasFamily, h.increasing⟩⟩

mutual

/-- Tests the rules for a shape. -/
def isWellFormed : Shape → Bool
  | .unknown => true
  | .primitive _ => true
  | .object fs =>
    decide ((fs.map Field.key).Nodup ∧ ∀ f ∈ fs, f.shape.isNullable = false) && fieldsWellFormed fs
  | .array e => isWellFormed e
  | .nullable s => decide (Core s) && isWellFormed s
  | .union as => decide (2 ≤ as.length ∧ Ranked as) && armsWellFormed as

/-- Tests the rules for the shapes of all fields. -/
def fieldsWellFormed : List Field → Bool
  | [] => true
  | ⟨_, s, _⟩ :: fs => isWellFormed s && fieldsWellFormed fs

/-- Tests the rules for all arms. -/
def armsWellFormed : List Shape → Bool
  | [] => true
  | a :: as => isWellFormed a && armsWellFormed as

end

mutual

theorem isWellFormed_iff : (s : Shape) → (isWellFormed s = true ↔ WellFormed s)
  | .unknown => by simp [isWellFormed, WellFormed.unknown]
  | .primitive k => by simp [isWellFormed, WellFormed.primitive]
  | .object fs => by
    rw [isWellFormed, Bool.and_eq_true, decide_eq_true_eq, fieldsWellFormed_iff fs,
      wellFormed_object_iff]
  | .array e => by rw [isWellFormed, isWellFormed_iff e, wellFormed_array_iff]
  | .nullable s => by
    rw [isWellFormed, Bool.and_eq_true, decide_eq_true_eq, isWellFormed_iff s,
      wellFormed_nullable_iff]
  | .union as => by
    rw [isWellFormed, Bool.and_eq_true, decide_eq_true_eq, armsWellFormed_iff as,
      wellFormed_union_iff]

theorem fieldsWellFormed_iff :
    (fs : List Field) → (fieldsWellFormed fs = true ↔ ∀ f ∈ fs, WellFormed f.shape)
  | [] => by simp [fieldsWellFormed]
  | ⟨_, s, _⟩ :: fs => by
    rw [fieldsWellFormed, Bool.and_eq_true, isWellFormed_iff s, fieldsWellFormed_iff fs,
      List.forall_mem_cons]

theorem armsWellFormed_iff :
    (as : List Shape) → (armsWellFormed as = true ↔ ∀ a ∈ as, WellFormed a)
  | [] => by simp [armsWellFormed]
  | a :: as => by
    rw [armsWellFormed, Bool.and_eq_true, isWellFormed_iff a, armsWellFormed_iff as,
      List.forall_mem_cons]

end

instance : DecidablePred WellFormed :=
  fun s => decidable_of_iff _ (isWellFormed_iff s)

/-! ### Families and ranks -/

theorem rank_eq_of_family {s : Shape} {f : Family} (h : s.family = some f) :
    s.rank = f.rank + 1 := by
  simp [rank, h]

theorem rank_lt (s : Shape) : s.rank < 6 := by
  unfold rank
  split
  · omega
  · rename_i f _
    cases f <;> decide

/-- Shapes of one family have one rank. -/
theorem family_ne_of_rank_lt {a b : Shape} (h : a.rank < b.rank) : a.family ≠ b.family := by
  intro hf
  simp [rank, hf] at h

/-- Shapes of different families differ in rank. -/
theorem rank_ne_of_family_ne {a b : Shape} (h : a.family ≠ b.family) : a.rank ≠ b.rank := by
  unfold rank
  cases ha : a.family with
  | none =>
    cases hb : b.family with
    | none => exact absurd (ha.trans hb.symm) h
    | some g => simp
  | some f =>
    cases hb : b.family with
    | none => simp
    | some g =>
      have hfg : f ≠ g := fun e => h (by rw [ha, hb, e])
      cases f <;> cases g <;> first | exact absurd rfl hfg | decide

theorem family_eq_array_iff {s : Shape} : s.family = some .array ↔ ∃ e, s = .array e := by
  cases s with
  | primitive k => cases k <;> simp [family]
  | _ => simp [family]

theorem family_eq_object_iff {s : Shape} : s.family = some .object ↔ ∃ fs, s = .object fs := by
  cases s with
  | primitive k => cases k <;> simp [family]
  | _ => simp [family]

theorem family_eq_number_iff {s : Shape} :
    s.family = some .number ↔ s = .primitive .integer ∨ s = .primitive .float := by
  cases s with
  | primitive k => cases k <;> simp [family]
  | _ => simp [family]

theorem family_eq_string_iff {s : Shape} : s.family = some .string ↔ s = .primitive .string := by
  cases s with
  | primitive k => cases k <;> simp [family]
  | _ => simp [family]

theorem family_eq_bool_iff {s : Shape} : s.family = some .bool ↔ s = .primitive .bool := by
  cases s with
  | primitive k => cases k <;> simp [family]
  | _ => simp [family]

/-! ### The parts of a shape -/

/-- Null is one of the values. -/
def allowsNull : Shape → Bool
  | .primitive .null => true
  | .nullable _ => true
  | _ => false

/-- The arms of a shape, null apart. -/
def arms : Shape → List Shape
  | .unknown => []
  | .primitive .null => []
  | .nullable inner => inner.arms
  | .union arms => arms
  | shape => [shape]

/-- The arm of a family in a list of arms. -/
def armOf? (f : Family) (arms : List Shape) : Option Shape :=
  Keyed.find? family (some f) arms

/-- The arm that a shape has in a family. -/
def arm? (s : Shape) (f : Family) : Option Shape := armOf? f s.arms

/-- The shape with the given arms that allows null or does not. -/
def ofParts (null : Bool) : List Shape → Shape
  | [] => if null then .null else .unknown
  | [arm] => if null then .nullable arm else arm
  | arms => if null then .nullable (.union arms) else .union arms

/-- The shape without the mark for null. -/
def withoutNull : Shape → Shape
  | .nullable inner => inner
  | shape => shape

@[simp] theorem allowsNull_unknown : allowsNull .unknown = false := rfl
@[simp] theorem allowsNull_null : allowsNull .null = true := rfl
@[simp] theorem allowsNull_nullable (s : Shape) : allowsNull (.nullable s) = true := rfl
@[simp] theorem allowsNull_union (as : List Shape) : allowsNull (.union as) = false := rfl
@[simp] theorem arms_unknown : arms .unknown = [] := rfl
@[simp] theorem arms_null : arms .null = [] := rfl
@[simp] theorem arms_nullable (s : Shape) : arms (.nullable s) = s.arms := rfl
@[simp] theorem arms_union (as : List Shape) : arms (.union as) = as := rfl

theorem arms_of_family {s : Shape} (h : s.family ≠ none) : s.arms = [s] := by
  cases s with
  | primitive k => cases k <;> first | rfl | exact absurd rfl h
  | array _ | object _ => rfl
  | unknown | nullable _ | union _ => exact absurd rfl h

theorem allowsNull_of_family {s : Shape} (h : s.family ≠ none) : s.allowsNull = false := by
  cases s with
  | primitive k => cases k <;> first | rfl | exact absurd rfl h
  | array _ | object _ => rfl
  | unknown | nullable _ | union _ => exact absurd rfl h

theorem core_of_family {s : Shape} (h : s.family ≠ none) : Core s where
  known := fun e => h (e ▸ rfl)
  nonnull := fun e => h (e ▸ rfl)
  plain := by cases s <;> first | rfl | exact absurd rfl h

theorem core_union (as : List Shape) : Core (.union as) := ⟨nofun, nofun, rfl⟩

/-- A core shape is a union or an arm of its own. -/
theorem Core.cases {s : Shape} (h : Core s) : s.family ≠ none ∨ ∃ as, s = .union as := by
  cases s with
  | unknown => exact absurd rfl h.known
  | primitive k => cases k <;> first | exact absurd rfl h.nonnull | exact .inl nofun
  | object | array => exact .inl nofun
  | nullable => cases h.plain
  | union as => exact .inr ⟨as, rfl⟩

theorem Core.orNull {s : Shape} (h : Core s) : s.orNull = .nullable s := by
  rcases h.cases with hf | ⟨as, rfl⟩
  · cases s with
    | primitive k => cases k <;> first | rfl | exact absurd rfl hf
    | array | object => rfl
    | _ => exact absurd rfl hf
  · rfl

theorem Core.allowsNull {s : Shape} (h : Core s) : s.allowsNull = false := by
  rcases h.cases with h | ⟨as, rfl⟩
  · exact allowsNull_of_family h
  · rfl

@[simp] theorem arms_orNull (s : Shape) : s.orNull.arms = s.arms := by
  cases s with
  | primitive k => cases k <;> rfl
  | _ => rfl

@[simp] theorem arms_withoutNull (s : Shape) : s.withoutNull.arms = s.arms := by
  cases s <;> rfl

theorem withoutNull_of_plain {s : Shape} (h : s.isNullable = false) : s.withoutNull = s := by
  cases s <;> first | rfl | cases h

/-! ### Arms by family -/

@[simp] theorem armOf?_nil (f : Family) : armOf? f [] = none := rfl

theorem armOf?_cons (f : Family) (a : Shape) (as : List Shape) :
    armOf? f (a :: as) = if a.family = some f then some a else armOf? f as :=
  Keyed.find?_cons _ _ _

theorem mem_of_armOf? {f : Family} {as : List Shape} {a : Shape} (h : armOf? f as = some a) :
    a ∈ as ∧ a.family = some f :=
  Keyed.mem_of_find? h

theorem Ranked.nil : Ranked [] := ⟨by simp, List.Pairwise.nil⟩

theorem Ranked.singleton {a : Shape} (h : a.family ≠ none) : Ranked [a] :=
  ⟨by simpa using h, List.pairwise_singleton _ _⟩

/-- No two arms share a family. -/
theorem Ranked.nodup_family {as : List Shape} (h : Ranked as) : (as.map family).Nodup :=
  List.pairwise_map.2 (h.increasing.imp family_ne_of_rank_lt)

theorem Ranked.armOf?_eq_some_iff {as : List Shape} (h : Ranked as) {f : Family} {a : Shape} :
    armOf? f as = some a ↔ a ∈ as ∧ a.family = some f :=
  Keyed.find?_eq_some_iff h.nodup_family

/-- Two lists of arms with the same arm in each family are equal. -/
theorem Ranked.ext {as bs : List Shape} (ha : Ranked as) (hb : Ranked bs)
    (h : ∀ f, armOf? f as = armOf? f bs) : as = bs := by
  have hnone : ∀ {cs : List Shape}, Ranked cs → Keyed.find? family none cs = none := fun hc =>
    Keyed.find?_eq_none_iff.2 fun hmem => by
      obtain ⟨c, hcs, hfam⟩ := List.mem_map.1 hmem
      exact hc.hasFamily c hcs hfam
  have hperm : as.Perm bs := Keyed.perm ha.nodup_family hb.nodup_family fun f? => by
    cases f? with
    | none => rw [hnone ha, hnone hb]
    | some f => exact h f
  -- two permutations of each other that are sorted by rank are equal
  refine hperm.eq_of_pairwise (fun a b _ _ hab hba => ?_) ha.increasing hb.increasing
  exact absurd (Nat.lt_trans hab hba) (Nat.lt_irrefl _)

/-! ### Well-formed shapes by their parts -/

theorem WellFormed.ranked {s : Shape} (h : WellFormed s) : Ranked s.arms := by
  induction h with
  | unknown => exact .nil
  | primitive k =>
    cases k <;> first | exact Ranked.nil | exact .singleton (by simp [family])
  | object => exact .singleton (by simp [family])
  | array => exact .singleton (by simp [family])
  | nullable _ _ ih => exact ih
  | union _ hr _ => exact hr

theorem WellFormed.of_mem_arms {s a : Shape} (h : WellFormed s) (ha : a ∈ s.arms) :
    WellFormed a := by
  induction h with
  | unknown => cases ha
  | primitive k => cases k <;> simp [arms] at ha <;> exact ha ▸ .primitive _
  | object hd hp hw => simp only [arms, List.mem_singleton] at ha; exact ha ▸ .object hd hp hw
  | array hw => simp only [arms, List.mem_singleton] at ha; exact ha ▸ .array hw
  | nullable _ _ ih => exact ih ha
  | union _ _ hw => exact hw a ha

/-- A well-formed shape is unknown, null, core, or core and marked for null. -/
theorem WellFormed.cases {s : Shape} (h : WellFormed s) :
    s = .unknown ∨ s = .null ∨ Core s ∨ ∃ t, s = .nullable t ∧ Core t ∧ WellFormed t := by
  cases h with
  | unknown => exact .inl rfl
  | primitive k =>
    cases k <;> first | exact .inr (.inl rfl) | exact .inr (.inr (.inl ⟨nofun, nofun, rfl⟩))
  | nullable hc hw => exact .inr (.inr (.inr ⟨_, rfl, hc, hw⟩))
  | _ => exact .inr (.inr (.inl ⟨nofun, nofun, rfl⟩))

theorem WellFormed.withoutNull {s : Shape} (h : WellFormed s) : WellFormed s.withoutNull := by
  rcases h.cases with rfl | rfl | hc | ⟨t, rfl, -, ht⟩
  · exact h
  · exact h
  · rwa [withoutNull_of_plain hc.plain]
  · exact ht

/-- A well-formed shape has lost its one mark for null. -/
theorem WellFormed.isNullable_withoutNull {s : Shape} (h : WellFormed s) :
    s.withoutNull.isNullable = false := by
  rcases h.cases with rfl | rfl | hc | ⟨t, rfl, hc, -⟩
  · rfl
  · rfl
  · rw [withoutNull_of_plain hc.plain, hc.plain]
  · exact hc.plain

theorem WellFormed.orNull {s : Shape} (h : WellFormed s) : WellFormed s.orNull := by
  rcases h.cases with rfl | rfl | hc | ⟨t, rfl, -, -⟩
  · exact h
  · exact h
  · rw [hc.orNull]
    exact .nullable hc h
  · exact h

/-- A core shape is put together from its arms, and with the mark for null if that is wanted. -/
theorem WellFormed.ofParts_arms_of_core {s : Shape} (h : WellFormed s) (hc : Core s) (n : Bool) :
    ofParts n s.arms = if n then .nullable s else s := by
  rcases hc.cases with hf | ⟨as, rfl⟩
  · rw [arms_of_family hf]
    rfl
  · cases h with
    | union several _ _ =>
      match as, several with
      | _ :: _ :: _, _ => rfl

/-- A well-formed shape is put together from its parts. -/
theorem WellFormed.ofParts_arms {s : Shape} (h : WellFormed s) :
    ofParts s.allowsNull s.arms = s := by
  rcases h.cases with rfl | rfl | hc | ⟨t, rfl, hc, ht⟩
  · rfl
  · rfl
  · rw [h.ofParts_arms_of_core hc, hc.allowsNull]
    rfl
  · exact ht.ofParts_arms_of_core hc true

/-- **Well-formed shapes are equal** if both or neither allow null and they have the same arms. -/
theorem WellFormed.ext {s t : Shape} (hs : WellFormed s) (ht : WellFormed t)
    (hnull : s.allowsNull = t.allowsNull) (harms : ∀ f, s.arm? f = t.arm? f) : s = t := by
  rw [← hs.ofParts_arms, ← ht.ofParts_arms, hnull, hs.ranked.ext ht.ranked harms]

/-- What is put together from arms is well formed. -/
theorem wellFormed_ofParts {as : List Shape} (hr : Ranked as) (hw : ∀ a ∈ as, WellFormed a)
    (n : Bool) : WellFormed (ofParts n as) := by
  match as with
  | [] =>
    cases n
    · exact .unknown
    · exact .primitive .null
  | [a] =>
    have hf : a.family ≠ none := hr.hasFamily a (by simp)
    have ha : WellFormed a := hw a (by simp)
    cases n
    · exact ha
    · exact .nullable (core_of_family hf) ha
  | a :: b :: as =>
    have hu : WellFormed (.union (a :: b :: as)) := .union (by simp) hr hw
    cases n
    · exact hu
    · exact .nullable (core_union _) hu

theorem allowsNull_ofParts {as : List Shape} (hr : Ranked as) (n : Bool) :
    (ofParts n as).allowsNull = n := by
  match as with
  | [] => cases n <;> rfl
  | [a] =>
    cases n
    · exact allowsNull_of_family (hr.hasFamily a (by simp))
    · rfl
  | _ :: _ :: _ => cases n <;> rfl

theorem arms_ofParts {as : List Shape} (hr : Ranked as) (n : Bool) :
    (ofParts n as).arms = as := by
  match as with
  | [] => cases n <;> rfl
  | [a] =>
    have h := arms_of_family (hr.hasFamily a (by simp))
    cases n <;> exact h
  | _ :: _ :: _ => cases n <;> rfl

theorem orNull_ofParts {as : List Shape} (hr : Ranked as) (hne : as ≠ []) :
    (ofParts false as).orNull = ofParts true as := by
  match as, hne with
  | [a], _ => exact (core_of_family (hr.hasFamily a (by simp))).orNull
  | _ :: _ :: _, _ => rfl

theorem WellFormed.orNull_eq {s : Shape} (h : WellFormed s) (hk : s ≠ .unknown) :
    s.orNull = ofParts true s.arms := by
  have hn : s.orNull.allowsNull = true := by
    cases s with
    | unknown => exact absurd rfl hk
    | primitive k => cases k <;> rfl
    | _ => rfl
  rw [← h.orNull.ofParts_arms, arms_orNull, hn]

/-- A well-formed core shape has arms. -/
theorem WellFormed.arms_ne_nil {s : Shape} (h : WellFormed s) (hc : Core s) : s.arms ≠ [] := by
  rcases hc.cases with hf | ⟨as, rfl⟩
  · simp [arms_of_family hf]
  · cases h with
    | union hl _ _ => exact fun e => by simp [arms_union] at e; simp [e] at hl

/-- The arms that the families have. -/
def ofFamilies (arm : Family → Option Shape) : List Shape :=
  [.array, .object, .number, .string, .bool].filterMap arm

section Families

variable {arm : Family → Option Shape} (h : ∀ f a, arm f = some a → a.family = some f)

include h

theorem ranked_ofFamilies : Ranked (ofFamilies arm) := by
  constructor
  · intro a ha
    obtain ⟨f, -, hf⟩ := List.mem_filterMap.1 ha
    simp [h f a hf]
  · have hlt : [Family.array, .object, .number, .string, .bool].Pairwise
        (Family.rank · < Family.rank ·) := by
      decide
    refine hlt.filterMap arm fun f g hfg a ha b hb => ?_
    rw [rank_eq_of_family (h f a ha), rank_eq_of_family (h g b hb)]
    omega

theorem armOf?_ofFamilies (f : Family) : armOf? f (ofFamilies arm) = arm f := by
  refine Option.ext fun a => ?_
  rw [(ranked_ofFamilies h).armOf?_eq_some_iff, ofFamilies, List.mem_filterMap]
  constructor
  · rintro ⟨⟨g, -, hg⟩, hf⟩
    have hgf : some g = some f := (h g a hg).symm.trans hf
    rwa [← Option.some.inj hgf]
  · exact fun hf => ⟨⟨f, by cases f <;> simp, hf⟩, h f a hf⟩

end Families

theorem family_of_arm? {s : Shape} (f : Family) (a : Shape) (h : s.arm? f = some a) :
    a.family = some f :=
  (mem_of_armOf? h).2

/-- A well-formed shape is put together from whether it allows null and its arm in each family. -/
theorem WellFormed.eq_ofParts {s : Shape} (h : WellFormed s) :
    s = ofParts s.allowsNull (ofFamilies s.arm?) := by
  conv => lhs; rw [← h.ofParts_arms]
  congr 1
  exact h.ranked.ext (ranked_ofFamilies family_of_arm?) fun f => by
    rw [armOf?_ofFamilies family_of_arm?]
    rfl

/-- A shape is marked for null where it allows null beside other values. -/
theorem WellFormed.isNullable_eq {s : Shape} (h : WellFormed s) :
    s.isNullable = (s.allowsNull && !s.arms.isEmpty) := by
  rcases h.cases with rfl | rfl | hc | ⟨t, rfl, hc, ht⟩
  · rfl
  · rfl
  · rw [hc.plain, hc.allowsNull, Bool.false_and]
  · have := ht.arms_ne_nil hc
    simp [isNullable, this]

/-! ### Induction -/

/-- A property holds of all shapes if it passes to each shape from its parts. -/
theorem induction {P : Shape → Prop} (unknown : P .unknown) (primitive : ∀ k, P (.primitive k))
    (object : ∀ fs, (∀ f ∈ fs, P f.shape) → P (.object fs)) (array : ∀ e, P e → P (.array e))
    (nullable : ∀ s, P s → P (.nullable s)) (union : ∀ as, (∀ a ∈ as, P a) → P (.union as))
    (s : Shape) : P s :=
  @Shape.rec P (fun f => P f.shape) (fun fs => ∀ f ∈ fs, P f.shape) (fun as => ∀ a ∈ as, P a)
    unknown primitive object array nullable union (fun _ _ _ h => h)
    (by simp) (fun _ _ hf hfs => List.forall_mem_cons.2 ⟨hf, hfs⟩)
    (by simp) (fun _ _ ha has => List.forall_mem_cons.2 ⟨ha, has⟩) s

theorem sizeOf_le_of_mem_arms {s a : Shape} (h : a ∈ s.arms) : sizeOf a ≤ sizeOf s := by
  fun_induction arms s with
  | case1 | case2 => cases h
  | case3 inner ih =>
    have := ih h
    simp only [nullable.sizeOf_spec]
    omega
  | case4 as =>
    have := List.sizeOf_lt_of_mem h
    simp only [union.sizeOf_spec]
    omega
  | case5 s => exact Nat.le_of_eq (congrArg sizeOf (List.mem_singleton.1 h))

theorem sizeOf_lt_of_mem_fields {f : Field} {fs : List Field} (h : f ∈ fs) :
    sizeOf f.shape < sizeOf (object fs) := by
  have hlt := List.sizeOf_lt_of_mem h
  cases f
  simp only [Field.mk.sizeOf_spec] at hlt
  simp only [object.sizeOf_spec]
  omega

/--
A property holds of all well-formed shapes if it passes to each shape from the elements and the
fields of its arms.
-/
theorem WellFormed.induction {P : Shape → Prop}
    (step : ∀ s, WellFormed s → (∀ e, .array e ∈ s.arms → P e) →
      (∀ fs, .object fs ∈ s.arms → ∀ f ∈ fs, P f.shape) → P s) :
    ∀ s, WellFormed s → P s := by
  intro s
  -- on the size, since the elements and fields of an arm may lie two constructors deep
  induction hn : sizeOf s using Nat.strongRecOn generalizing s with
  | _ n ih =>
    intro hs
    refine step s hs (fun e he => ?_) (fun fs hfs f hf => ?_)
    · have hle := sizeOf_le_of_mem_arms he
      simp only [array.sizeOf_spec] at hle
      cases hs.of_mem_arms he with
      | array hw => exact ih (sizeOf e) (by omega) e rfl hw
    · have hle := sizeOf_le_of_mem_arms hfs
      have hlt := sizeOf_lt_of_mem_fields hf
      cases hs.of_mem_arms hfs with
      | object _ _ hw => exact ih (sizeOf f.shape) (by omega) f.shape rfl (hw f hf)

end Shape

end SampleTypes
