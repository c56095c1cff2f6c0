import SampleTypes.Proofs.Settings.Values

/-!
# Settings read from an object

The reader goes through the members of an object one after the other.  `collect` is what it gathers,
without a reader, and `collect_eq_some_iff` tells it from the members as a set: their names are
distinct keys of settings, each value is one that its setting takes, and what is not given stays.
-/

namespace SampleTypes.Settings

open Json (Cursor Form Token Spells SpellsMembers Blank decodeText quoted outcome Remaining)

/-- The name of a member. -/
def nameOf (m : List Token × Form) : Option String :=
  decodeText m.1

/-- The setting that a member is for. -/
def itemOf? (m : List Token × Form) : Option Item :=
  (nameOf m).bind Item.withKey?

/-- The settings after the value of one of them, if it was not given before and takes the value. -/
def give? (seen : List Item) (s : Settings) (item : Item) (v : Form) : Option Settings :=
  if item ∈ seen then none else (item.read? v).map (item.put s)

/-- The settings after the members, one after the other; `seen` has those given before. -/
def collect : List (List Token × Form) → List Item → Settings → Option Settings
  | [], _, s => some s
  | m :: ms, seen, s =>
    (itemOf? m).bind fun item => (give? seen s item m.2).bind fun s => collect ms (item :: seen) s

/-- Reads a member after the start of its key. -/
theorem readMembers_of_key {fuel : Nat} {seen : List Item} {first : Bool} {s : Settings}
    {c c' : Cursor} (h : Json.readKeyStart first c = .ok (some c')) :
    readMembers (fuel + 1) seen first s c = (do
      let (key, c) ← atPath [.unnamed] (Json.readString c')
      match Item.withKey? key with
      | none => .error ⟨[.key key], .unknownKey key, pastKey c⟩
      | some item =>
        if seen.contains item then .error ⟨[], .repeatedKey key, pastKey c⟩
        else
          let c ← atPath [] (Json.readColon c)
          let (s, c) ← under (.key key) (readItem item s c)
          readMembers fuel (item :: seen) false s c) := by
  rw [readMembers, h]
  rfl

/-- Reads the value of a member after its key, and the members after it. -/
theorem outcome_readMembers_of_item {item : Item} {key : String} {seen : List Item} {s : Settings}
    {v : Form} {between colon value more left : List Char} {c : Cursor}
    (hc : c.rest = between ++ ':' :: (colon ++ (value ++ more))) (hbetween : Blank between)
    (hcolon : Blank colon) (hv : Spells v value) {e : Failure}
    {readMore : Settings → Cursor → SettingReader (Settings × Cursor)}
    {gather : Settings → Option Settings} (hmore : ∀ s (c : Cursor), c.rest = more →
      outcome (readMore s c) = (gather s).map (·, left)) :
    outcome (if seen.contains item then .error e
      else do
        let c ← atPath [] (Json.readColon c)
        let (s, c) ← under (.key key) (readItem item s c)
        readMore s c) = ((give? seen s item v).bind gather).map (·, left) := by
  by_cases hseen : item ∈ seen
  · rw [if_pos (List.contains_iff_mem.2 hseen), give?, if_pos hseen]
    rfl
  · rw [if_neg fun h => hseen (List.contains_iff_mem.1 h)]
    refine ((Json.reaches_readColon hc hbetween).mapError _).outcome_bind fun c hc => ?_
    have hitem : outcome (under (.key key) (readItem item s c)) =
        (give? seen s item v).map (·, more) := by
      rw [outcome_under, outcome_readItem item s hv hcolon hc, give?, if_neg hseen]
    refine (Json.outcome_bind hitem fun s c _ hc => hmore s c hc).trans ?_
    cases give? seen s item v <;> rfl

/-- The members that remain are read as `collect` gathers them. -/
theorem outcome_readMembers {ms : List (List Token × Form)} {first : Bool} {cs left : List Char}
    (h : Remaining first ms cs) {fuel : Nat} (hfuel : ms.length ≤ fuel) {seen : List Item}
    {s : Settings} {c : Cursor} (hc : c.rest = cs ++ '\x7d' :: left) :
    outcome (readMembers (fuel + 1) seen first s c) = (collect ms seen s).map (·, left) := by
  induction ms generalizing first cs fuel seen s c with
  | nil =>
    cases h with
    | close hblank =>
      obtain ⟨hclose, hbrace⟩ := @Json.readKeyStart_close first _ _ _ hc hblank
      rw [readMembers, hclose]
      change outcome (.ok (s, c.skipBlanks.advance)) = _
      rw [Json.outcome_ok, Cursor.rest_advance, hbrace]
      rfl
  | cons m ms ih =>
    obtain ⟨name, v⟩ := m
    obtain ⟨fuel, rfl⟩ := Nat.exists_eq_succ_of_ne_zero (Nat.ne_zero_of_lt hfuel)
    obtain ⟨c', hread, between, colon, value, after, hc', hbetween, hcolon, hv, hafter⟩ :=
      h.readKeyStart hc
    have hname : outcome (atPath [.unnamed] (Json.readString c')) = (decodeText name).map (·, _) :=
      (outcome_atPath _ _).trans (Json.outcome_readString hc')
    rw [readMembers_of_key hread]
    refine (Json.outcome_bind (g := fun key => ((Item.withKey? key).bind fun item =>
      (give? seen s item v).bind (collect ms (item :: seen))).map (·, left)) hname
      fun key c _ hc => ?_).trans ?_
    · dsimp only
      cases Item.withKey? key with
      | none => rfl
      | some item =>
        exact outcome_readMembers_of_item hc hbetween hcolon hv fun s c hc =>
          ih hafter (Nat.le_of_succ_le_succ hfuel) hc
    · rw [collect, itemOf?, nameOf]
      cases decodeText name <;> rfl

/-! ### What is gathered -/

theorem itemOf?_eq_some_iff {m : List Token × Form} {item : Item} :
    itemOf? m = some item ↔ nameOf m = some item.key := by
  simp only [itemOf?, Option.bind_eq_some_iff, Item.withKey?_eq_some_iff]
  exact ⟨fun ⟨_, hname, hkey⟩ => hkey ▸ hname, fun hname => ⟨_, hname, rfl⟩⟩

theorem give?_eq_some_iff {seen : List Item} {s t : Settings} {item : Item} {v : Form} :
    give? seen s item v = some t ↔
      item ∉ seen ∧ ∃ value, item.read? v = some value ∧ item.put s value = t := by
  by_cases hseen : item ∈ seen
  · simp [give?, hseen]
  · simp [give?, hseen]

theorem collect_cons_eq_some_iff {m : List Token × Form} {ms : List (List Token × Form)}
    {seen : List Item} {s t : Settings} :
    collect (m :: ms) seen s = some t ↔ ∃ item value, itemOf? m = some item ∧ item ∉ seen ∧
      item.read? m.2 = some value ∧ collect ms (item :: seen) (item.put s value) = some t := by
  simp only [collect, Option.bind_eq_some_iff, give?_eq_some_iff]
  constructor
  · rintro ⟨item, hitem, _, ⟨hseen, value, hvalue, rfl⟩, hms⟩
    exact ⟨item, value, hitem, hseen, hvalue, hms⟩
  · rintro ⟨item, value, hitem, hseen, hvalue, hms⟩
    exact ⟨item, hitem, _, ⟨hseen, value, hvalue, rfl⟩, hms⟩

/-- A member is for another setting than the one before it if no two are for the same. -/
theorem notMem_cons_of_itemOf? {m m' : List Token × Form} {ms : List (List Token × Form)}
    {seen : List Item} {item item' : Item} (hnew : itemOf? m ∉ ms.map itemOf?)
    (hitem : itemOf? m = some item) (hm' : m' ∈ ms) (hitem' : itemOf? m' = some item')
    (hseen : item' ∉ seen) : item' ∉ item :: seen := by
  intro h
  rcases List.mem_cons.1 h with rfl | h
  · exact hnew (List.mem_map.2 ⟨m', hm', hitem'.trans hitem.symm⟩)
  · exact hseen h

/--
The settings that are gathered: each member is for another setting, and that has the value of the
member; what is not given stays as it was.
-/
theorem collect_eq_some_iff {ms : List (List Token × Form)} {seen : List Item} {s t : Settings} :
    collect ms seen s = some t ↔ (ms.map itemOf?).Nodup ∧
      (∀ m ∈ ms, ∃ item, itemOf? m = some item ∧ item ∉ seen ∧
        item.read? m.2 = some (item.get t)) ∧
      ∀ item, some item ∉ ms.map itemOf? → item.get t = item.get s := by
  induction ms generalizing seen s with
  | nil =>
    simp only [collect, Option.some.injEq, List.map_nil, List.nodup_nil, List.not_mem_nil,
      false_implies, implies_true, not_false_eq_true, true_and, true_implies]
    exact ⟨fun h item => by rw [h], fun h => Item.ext_get fun item => (h item).symm⟩
  | cons m ms ih =>
    rw [collect_cons_eq_some_iff, List.map_cons, List.nodup_cons, List.forall_mem_cons]
    constructor
    · rintro ⟨item, value, hitem, hseen, hvalue, hms⟩
      obtain ⟨hnodup, hgiven, hkept⟩ := ih.1 hms
      -- A later member for the same setting would not be gathered, so the value stays.
      have hnew : some item ∉ ms.map itemOf? := by
        intro hmem
        obtain ⟨m', hm', heq⟩ := List.mem_map.1 hmem
        obtain ⟨item', hitem', hseen', -⟩ := hgiven m' hm'
        obtain rfl : item' = item := Option.some.inj (hitem'.symm.trans heq)
        exact hseen' List.mem_cons_self
      refine ⟨⟨hitem ▸ hnew, hnodup⟩, ⟨⟨item, hitem, hseen, ?_⟩, fun m' hm' => ?_⟩,
        fun other hother => ?_⟩
      · rw [hvalue, hkept item hnew, Item.get_put_self]
      · obtain ⟨item', hitem', hseen', hvalue'⟩ := hgiven m' hm'
        exact ⟨item', hitem', fun h => hseen' (List.mem_cons_of_mem item h), hvalue'⟩
      · obtain ⟨hne, hother⟩ := not_or.1 (mt List.mem_cons.2 hother)
        rw [hkept other hother]
        exact Item.get_put_of_ne (fun h => hne (by rw [hitem, h])) s value
    · rintro ⟨⟨hnew, hnodup⟩, ⟨⟨item, hitem, hseen, hvalue⟩, hgiven⟩, hkept⟩
      refine ⟨item, item.get t, hitem, hseen, hvalue, ih.2 ⟨hnodup, fun m' hm' => ?_,
        fun other hother => ?_⟩⟩
      · obtain ⟨item', hitem', hseen', hvalue'⟩ := hgiven m' hm'
        exact ⟨item', hitem', notMem_cons_of_itemOf? hnew hitem hm' hitem' hseen', hvalue'⟩
      · by_cases hother' : other = item
        · subst hother'
          rw [Item.get_put_self]
        · rw [Item.get_put_of_ne hother']
          refine hkept other fun hmem => ?_
          rcases List.mem_cons.1 hmem with heq | hmem
          · exact hother' (Option.some.inj (heq.trans hitem))
          · exact hother hmem

/-- Something is gathered if each member is for another setting, and that takes its value. -/
theorem exists_collect {ms : List (List Token × Form)} {seen : List Item} (s : Settings)
    (hnodup : (ms.map itemOf?).Nodup) (h : ∀ m ∈ ms, ∃ item, itemOf? m = some item ∧ item ∉ seen ∧
      (item.read? m.2).isSome) : ∃ t, collect ms seen s = some t := by
  induction ms generalizing seen s with
  | nil => exact ⟨s, rfl⟩
  | cons m ms ih =>
    rw [List.map_cons, List.nodup_cons] at hnodup
    rw [List.forall_mem_cons] at h
    obtain ⟨⟨item, hitem, hseen, hvalue⟩, hms⟩ := h
    obtain ⟨value, hvalue⟩ := Option.isSome_iff_exists.1 hvalue
    obtain ⟨t, ht⟩ := @ih (item :: seen) (item.put s value) hnodup.2 fun m' hm' => by
      obtain ⟨item', hitem', hseen', hvalue'⟩ := hms m' hm'
      exact ⟨item', hitem', notMem_cons_of_itemOf? hnodup.1 hitem hm' hitem' hseen', hvalue'⟩
    exact ⟨t, collect_cons_eq_some_iff.2 ⟨item, value, hitem, hseen, hvalue, ht⟩⟩

/-! ### Whole texts -/

/-- The text has an object with the members, blanks before it, and `tail` after it. -/
def HasObject (text : String) (members : List (List Token × Form)) (tail : List Char) : Prop :=
  ∃ before cs, text.toList = before ++ '\x7b' :: (cs ++ '\x7d' :: tail) ∧ Blank before ∧
    SpellsMembers members cs

variable {text : String} {members : List (List Token × Form)} {tail : List Char}

theorem outcome_readSettings (h : HasObject text members tail) :
    outcome (readSettings (Cursor.start text)) = (collect members [] {}).map (·, tail) := by
  obtain ⟨before, cs, htext, hbefore, hcs⟩ := h
  have hrest : (Cursor.start text).skipBlanks.rest = '\x7b' :: (cs ++ '\x7d' :: tail) :=
    Cursor.rest_skipBlanks htext hbefore fun ch hch => by cases hch; decide
  have hadvance : (Cursor.start text).skipBlanks.advance.rest = cs ++ '\x7d' :: tail := by
    rw [Cursor.rest_advance, hrest, List.tail_cons]
  have hfuel : members.length ≤ (cs ++ '\x7d' :: tail).length := by
    rw [List.length_append]
    exact Nat.le_trans hcs.length_le (Nat.le_add_right ..)
  simp only [readSettings, hrest, List.length_cons]
  exact outcome_readMembers hcs.remaining hfuel hadvance

theorem parse_eq_ok_iff_collect (h : HasObject text members tail) {s : Settings} :
    parse text = .ok s ↔ collect members [] {} = some s ∧ Blank tail := by
  have houtcome := outcome_readSettings h
  rw [parse]
  cases hcollect : collect members [] {} with
  | none =>
    rw [hcollect] at houtcome
    obtain ⟨e, he⟩ := Json.outcome_eq_none_iff.1 houtcome
    rw [he]
    exact iff_of_false (fun h => by cases h) (fun h => by cases h.1)
  | some t =>
    rw [hcollect] at houtcome
    obtain ⟨c, hc, rfl⟩ := Json.outcome_eq_some_iff.1 houtcome
    rw [hc, ← Json.readEnd_eq_ok_iff, Option.some.injEq]
    change (atPath [] (Json.readEnd c) >>= fun _ => .ok t).mapError Failure.toError = .ok s ↔ _
    cases Json.readEnd c with
    | error e => exact iff_of_false (fun h => by cases h) (fun h => by cases h.2)
    | ok u => exact ⟨fun h => ⟨Except.ok.inj h, rfl⟩, fun h => congrArg Except.ok h.1⟩

theorem some_mem_map_itemOf?_iff {item : Item} :
    some item ∈ members.map itemOf? ↔ some item.key ∈ members.map nameOf := by
  simp only [List.mem_map, itemOf?_eq_some_iff]

/-- Members are for different settings if their names are different keys. -/
theorem nodup_map_itemOf?_iff (h : ∀ m ∈ members, ∃ item, itemOf? m = some item) :
    (members.map itemOf?).Nodup ↔ (members.map nameOf).Nodup := by
  have hnames : members.map nameOf = (members.map itemOf?).map (Option.map Item.key) := by
    rw [List.map_map]
    refine List.map_congr_left fun m hm => ?_
    obtain ⟨item, hitem⟩ := h m hm
    rw [Function.comp_apply, hitem]
    exact itemOf?_eq_some_iff.1 hitem
  rw [hnames, List.nodup_map_iff (Option.map_injective Item.key_injective)]

/--
Settings are read from an object if its members have different names, each gives a setting the value
that it has, the others have their defaults, and only blanks follow.
-/
theorem parse_eq_ok_iff (h : HasObject text members tail) {s : Settings} :
    parse text = .ok s ↔ (members.map nameOf).Nodup ∧
      (∀ m ∈ members, ∃ item : Item, nameOf m = some item.key ∧
        item.read? m.2 = some (item.get s)) ∧
      (∀ item : Item, some item.key ∉ members.map nameOf → item.get s = item.initial) ∧
      Blank tail := by
  simp only [parse_eq_ok_iff_collect h, collect_eq_some_iff, List.not_mem_nil, not_false_eq_true,
    true_and, some_mem_map_itemOf?_iff, itemOf?_eq_some_iff, Item.get_default, and_assoc]
  refine and_congr_left fun hmembers => nodup_map_itemOf?_iff fun m hm => ?_
  obtain ⟨item, hname, -⟩ := hmembers.1 m hm
  exact ⟨item, itemOf?_eq_some_iff.2 hname⟩

/-- An object is read if its members have different names and each gives a setting a value. -/
theorem exists_parse_iff (h : HasObject text members tail) :
    (∃ s, parse text = .ok s) ↔ (members.map nameOf).Nodup ∧
      (∀ m ∈ members, ∃ item : Item, nameOf m = some item.key ∧ (item.read? m.2).isSome) ∧
      Blank tail := by
  constructor
  · rintro ⟨s, hs⟩
    obtain ⟨hnodup, hgiven, -, htail⟩ := (parse_eq_ok_iff h).1 hs
    refine ⟨hnodup, fun m hm => ?_, htail⟩
    obtain ⟨item, hname, hvalue⟩ := hgiven m hm
    exact ⟨item, hname, by rw [hvalue]; rfl⟩
  · rintro ⟨hnodup, hgiven, htail⟩
    have hitems : ∀ m ∈ members, ∃ item, itemOf? m = some item ∧ item ∉ [] ∧
        (item.read? m.2).isSome := fun m hm => by
      obtain ⟨item, hname, hvalue⟩ := hgiven m hm
      exact ⟨item, itemOf?_eq_some_iff.2 hname, List.not_mem_nil, hvalue⟩
    have hdistinct := (nodup_map_itemOf?_iff fun m hm => (hitems m hm).imp fun _ h => h.1).2 hnodup
    obtain ⟨s, hs⟩ := exists_collect {} hdistinct hitems
    exact ⟨s, (parse_eq_ok_iff_collect h).2 ⟨hs, htail⟩⟩

end SampleTypes.Settings
