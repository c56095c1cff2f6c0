import SampleTypes.Proofs.Json.Printing
import SampleTypes.Proofs.Settings.Objects

/-!
# Settings written as an object

Settings as an object with any of the members in any order, and with any blanks between its parts.
What is left out has its default; then the same settings are read back.
-/

namespace SampleTypes.Settings

open Json (Form Token Spells SpellsMember Blank quoted decodeText)

/-! ### Values -/

/-- The name that a convention is written with. -/
def conventionName : Ident.Convention → String
  | .pascal => "PascalCase"
  | .camel => "camelCase"
  | .snake => "snake_case"

/-- The name that a nested style is written with. -/
def nestedStyleName : NestedStyle → String
  | .inside => "inline"
  | .hoisted => "hoisted"

/-- The name that a kind of declaration is written with. -/
def declarationKindName : DeclarationKind → String
  | .plainClass => "class"
  | .record => "record"
  | .struct => "struct"

/-- The value of a setting in JSON. -/
def Item.json : Item → Settings → Json.Value
  | .targetLanguage, s => .string s.targetLanguage
  | .rootName, s => .string s.rootName
  | .convention, s => .string (conventionName s.convention)
  | .nestedStyle, s => .string (nestedStyleName s.nestedStyle)
  | .optionalAsNullable, s => .bool s.optionalAsNullable
  | .declarationKind, s => .string (declarationKindName s.declarationKind)
  | .shareIdentical, s => .bool s.shareIdentical

theorem exists_spells_string (text : String) :
    ∃ v : Form, Spells v (Json.print 0 (.string text)).toList ∧ v.text? = some text ∧
      v.choiceName? = some text := by
  obtain ⟨tokens, htokens, hdecode⟩ := Json.exists_tokens_printString text
  refine ⟨.string tokens, ?_, hdecode, hdecode⟩
  rw [Json.print, htokens]
  exact .string tokens

theorem exists_spells_bool (value : Bool) :
    ∃ v : Form, Spells v (Json.print 0 (.bool value)).toList ∧ v.truth? = some value := by
  cases value with
  | true => exact ⟨.bool true, .true, rfl⟩
  | false => exact ⟨.bool false, .false, rfl⟩

/-- The printed value of a setting is one that it takes, and it is the same value. -/
theorem Item.exists_spells_json (item : Item) (s : Settings) :
    ∃ v : Form, Spells v (Json.print 0 (item.json s)).toList ∧
      item.read? v = some (item.get s) := by
  cases item with
  | targetLanguage | rootName =>
    obtain ⟨v, hv, htext, -⟩ := exists_spells_string _
    exact ⟨v, hv, htext⟩
  | convention =>
    obtain ⟨v, hv, -, hname⟩ := exists_spells_string (conventionName s.convention)
    refine ⟨v, hv, ?_⟩
    rw [read?, hname, get]
    cases s.convention <;> rfl
  | nestedStyle =>
    obtain ⟨v, hv, -, hname⟩ := exists_spells_string (nestedStyleName s.nestedStyle)
    refine ⟨v, hv, ?_⟩
    rw [read?, hname, get]
    cases s.nestedStyle <;> rfl
  | declarationKind =>
    obtain ⟨v, hv, -, hname⟩ := exists_spells_string (declarationKindName s.declarationKind)
    refine ⟨v, hv, ?_⟩
    rw [read?, hname, get]
    cases s.declarationKind <;> rfl
  | optionalAsNullable | shareIdentical =>
    obtain ⟨v, hv, hvalue⟩ := exists_spells_bool _
    exact ⟨v, hv, hvalue⟩

/-! ### Objects -/

/-- Some of the settings as an object in JSON. -/
def json (items : List Item) (s : Settings) : Json.Value :=
  .object (items.map fun item => (item.key, item.json s))

/-- A setting as a member: what stands before its key and before its value can be chosen. -/
def memberText (gap colon : String) (s : Settings) (item : Item) : String :=
  gap ++ Json.printString item.key ++ ":" ++ colon ++ Json.print 0 (item.json s)

/-- Some of the settings as a text, with `closing` before the closing brace. -/
def serialized (gap colon closing : String) (items : List Item) (s : Settings) : String :=
  "\x7b" ++ ",".intercalate (items.map (memberText gap colon s)) ++ closing ++ "\x7d"

theorem Item.print_json (item : Item) (s : Settings) (level : Nat) :
    Json.print level (item.json s) = Json.print 0 (item.json s) := by
  cases item with
  | optionalAsNullable => cases h : s.optionalAsNullable <;> simp only [json, h, Json.print]
  | shareIdentical => cases h : s.shareIdentical <;> simp only [json, h, Json.print]
  | _ => rfl

theorem newline_append_intercalate {lines : List String} (h : lines ≠ []) :
    "\n" ++ ",\n".intercalate lines = ",".intercalate (lines.map ("\n" ++ ·)) := by
  induction lines with
  | nil => exact absurd rfl h
  | cons line lines ih =>
    cases lines with
    | nil => rw [List.map_singleton, String.intercalate_singleton, String.intercalate_singleton]
    | cons next lines =>
      have hsplit : ",\n" = "," ++ "\n" := by decide
      rw [String.intercalate_cons_cons, List.map_cons, List.map_cons, String.intercalate_cons_cons,
        ← List.map_cons, ← ih (List.cons_ne_nil _ _), hsplit]
      simp only [String.append_assoc]

theorem printMembers_json (items : List Item) (s : Settings) :
    (Json.printMembers 1 (items.map fun item => (item.key, item.json s))).map
      (fun line => "\n" ++ (Json.margin 1 ++ line)) = items.map (memberText "\n  " " " s) := by
  have hgap : "\n  " = "\n" ++ Json.margin 1 := by decide
  have hcolon : ": " = ":" ++ " " := by decide
  induction items with
  | nil => rfl
  | cons item items ih =>
    rw [List.map_cons, Json.printMembers, List.map_cons, ih, List.map_cons, memberText,
      item.print_json s 1, hgap, hcolon]
    simp only [String.append_assoc]

/-- Printed settings are a text of settings with each on a line of its own. -/
theorem print_json (s : Settings) {items : List Item} (h : items ≠ []) :
    Json.print 0 (json items s) = serialized "\n  " " " "\n" items s := by
  have hmargin : Json.margin 0 = "" := by decide
  have hempty : Json.printMembers 1 (items.map fun item => (item.key, item.json s)) ≠ [] := by
    cases items with
    | nil => exact absurd rfl h
    | cons item items => exact List.cons_ne_nil _ _
  have hmembers := printMembers_json items s
  rw [json, Json.print, Json.bracketed, if_neg (by rwa [List.isEmpty_iff]), hmargin,
    String.append_empty, serialized, @String.append_assoc "\x7b",
    newline_append_intercalate (mt List.map_eq_nil_iff.1 hempty), List.map_map, ← hmembers]
  rfl

/-- A member is for its setting and gives it its value. -/
theorem exists_spellsMember_memberText {gap colon : String} (hgap : Blank gap.toList)
    (hcolon : Blank colon.toList) (s : Settings) (item : Item) :
    ∃ m, SpellsMember m (memberText gap colon s item).toList ∧ nameOf m = some item.key ∧
      item.read? m.2 = some (item.get s) := by
  obtain ⟨v, hv, hread⟩ := item.exists_spells_json s
  obtain ⟨tokens, htokens, hname⟩ := Json.exists_tokens_printString item.key
  refine ⟨(tokens, v), ?_, hname, hread⟩
  have hmember := @SpellsMember.mk tokens v _ [] _ _ [] hgap (List.forall_mem_nil _) hcolon hv
    (List.forall_mem_nil _)
  have hsign : ":".toList = [':'] := by decide
  simpa only [memberText, String.toList_append, htokens, hsign, List.append_assoc,
    List.append_nil, List.cons_append, List.nil_append] using hmember

/-- A text of settings has an object in it whose members give each of them its value. -/
theorem exists_hasObject_serialized {gap colon closing : String} (hgap : Blank gap.toList)
    (hcolon : Blank colon.toList) (hclosing : Blank closing.toList) (items : List Item)
    (s : Settings) :
    ∃ members, HasObject (serialized gap colon closing items s) members [] ∧
      members.map nameOf = items.map (some ·.key) ∧
      ∀ m ∈ members, ∃ item : Item, nameOf m = some item.key ∧
        item.read? m.2 = some (item.get s) := by
  choose member hspells hname hread using exists_spellsMember_memberText hgap hcolon s
  have hmembers := (Json.spellsMembers_intercalate fun item (_ : item ∈ items) =>
    hspells item).append_blank hclosing
  refine ⟨items.map member, ⟨[], _, ?_, List.forall_mem_nil _, hmembers⟩, ?_, fun m hm => ?_⟩
  · simp only [serialized, String.toList_append, List.append_assoc]
    rfl
  · rw [List.map_map]
    exact List.map_congr_left fun item _ => hname item
  · obtain ⟨item, -, rfl⟩ := List.mem_map.1 hm
    exact ⟨item, hname item, hread item⟩

/-- Settings are read back from their text, if the others have their defaults. -/
theorem parse_serialized {gap colon closing : String} (hgap : Blank gap.toList)
    (hcolon : Blank colon.toList) (hclosing : Blank closing.toList) {items : List Item}
    (hitems : items.Nodup) {s : Settings} (hs : ∀ item, item ∉ items → item.get s = item.initial) :
    parse (serialized gap colon closing items s) = .ok s := by
  obtain ⟨members, hobject, hnames, hgiven⟩ :=
    exists_hasObject_serialized hgap hcolon hclosing items s
  refine (parse_eq_ok_iff hobject).2 ⟨?_, hgiven, fun item hitem => hs item fun hmem => ?_,
    List.forall_mem_nil _⟩
  · rw [hnames]
    exact hitems.map fun _ _ h => Item.key_injective (Option.some.inj h)
  · rw [hnames] at hitem
    exact hitem (List.mem_map_of_mem hmem)

theorem parse_print_json {items : List Item} (hitems : items.Nodup) {s : Settings}
    (hs : ∀ item, item ∉ items → item.get s = item.initial) :
    parse (Json.print 0 (json items s)) = .ok s := by
  cases items with
  | nil =>
    have hnone : Blank "".toList := by decide
    exact parse_serialized hnone hnone hnone hitems hs
  | cons item items =>
    rw [print_json s (List.cons_ne_nil item items)]
    exact parse_serialized (by decide) (by decide) (by decide) hitems hs

/-- The order of the members does not matter. -/
theorem parse_of_perm {text text' : String} {members members' : List (List Token × Form)}
    {tail tail' : List Char} (h : HasObject text members tail)
    (h' : HasObject text' members' tail') (hperm : members'.Perm members) (htail' : Blank tail')
    {s : Settings} (hs : parse text = .ok s) : parse text' = .ok s := by
  obtain ⟨hnodup, hgiven, hkept, -⟩ := (parse_eq_ok_iff h).1 hs
  have hnames := hperm.map nameOf
  exact (parse_eq_ok_iff h').2 ⟨hnames.nodup_iff.2 hnodup,
    fun m hm => hgiven m (hperm.mem_iff.1 hm),
    fun item hitem => hkept item (mt hnames.mem_iff.2 hitem), htail'⟩

/--
Settings are read from an object exactly if its members have different names, each is the key of a
setting with a value that the setting takes, and only blanks follow.  What is given is read and the
others have their defaults, in whatever order the members stand.  So settings are read back from
their text, in whatever order and without members that have their defaults.
-/
theorem parse_object_and_written :
    (∀ (text : String) (members : List (List Token × Form)) (tail : List Char),
      HasObject text members tail →
      ((∃ s, parse text = .ok s) ↔ (members.map nameOf).Nodup ∧
        (∀ m ∈ members, ∃ item : Item, nameOf m = some item.key ∧ (item.read? m.2).isSome) ∧
        Blank tail) ∧
      (∀ s, parse text = .ok s →
        (∀ m ∈ members, ∀ item : Item, nameOf m = some item.key →
          item.read? m.2 = some (item.get s)) ∧
        ∀ item : Item, some item.key ∉ members.map nameOf → item.get s = item.initial) ∧
      ∀ (text' : String) (members' : List (List Token × Form)) (tail' : List Char),
        HasObject text' members' tail' → members'.Perm members → Blank tail' →
        ∀ s, parse text = .ok s → parse text' = .ok s) ∧
    ∀ (s : Settings) (items : List Item), items.Nodup →
      (∀ item, item ∉ items → item.get s = item.initial) →
      parse (Json.print 0 (json items s)) = .ok s ∧
      ∀ gap colon closing : String, Blank gap.toList → Blank colon.toList → Blank closing.toList →
        parse (serialized gap colon closing items s) = .ok s := by
  refine ⟨fun text members tail h => ⟨exists_parse_iff h, fun s hs => ⟨?_, ?_⟩, ?_⟩, ?_⟩
  · intro m hm item hname
    obtain ⟨other, hother, hread⟩ := ((parse_eq_ok_iff h).1 hs).2.1 m hm
    obtain rfl : other = item := Item.key_injective (Option.some.inj (hother.symm.trans hname))
    exact hread
  · exact ((parse_eq_ok_iff h).1 hs).2.2.1
  · exact fun _ _ _ h' hperm htail' _ hs => parse_of_perm h h' hperm htail' hs
  · exact fun s items hitems hs => ⟨parse_print_json hitems hs,
      fun _ _ _ hgap hcolon hclosing => parse_serialized hgap hcolon hclosing hitems hs⟩

/-- Two settings from an object, in the other order, and from their text. -/
theorem parse_root_and_convention :
    let s : Settings := { rootName := "A", convention := .camel }
    let text := " \x7b\"namingConvention\": \x7b\"camel\":null\x7d, \"rootName\":\"A\"\x7d\n"
    let swapped := "\x7b\"rootName\":\"A\",\"namingConvention\":\x7b\"camel\":null\x7d\x7d"
    parse text = .ok s ∧ parse swapped = .ok s ∧
      parse (Json.print 0 (json [.convention, .rootName] s)) = .ok s ∧
      parse (serialized "" "" "" [.convention, .rootName] s) = .ok s := by
  intro s text swapped
  obtain ⟨t₁, h₁, n₁⟩ := Json.exists_tokens_printString "namingConvention"
  obtain ⟨t₂, h₂, n₂⟩ := Json.exists_tokens_printString "camel"
  obtain ⟨t₃, h₃, n₃⟩ := Json.exists_tokens_printString "rootName"
  obtain ⟨t₄, h₄, n₄⟩ := Json.exists_tokens_printString "A"
  have hnil : Blank [] := List.forall_mem_nil _
  have hspace : Blank [' '] := by decide
  have hcamel := @SpellsMember.mk t₂ .null _ _ _ _ _ hnil hnil hnil .null hnil
  have hconvention : ∀ {colon}, Blank colon → SpellsMember (t₁, .object [(t₂, .null)]) _ :=
    fun hcolon => .mk hnil hnil hcolon (.object (.last hcamel)) hnil
  have hroot : ∀ {before}, Blank before → SpellsMember (t₃, .string t₄) _ :=
    fun hbefore => .mk hbefore hnil hnil (.string t₄) hnil
  have hobject : HasObject text [(t₁, .object [(t₂, .null)]), (t₃, .string t₄)] ['\n'] :=
    ⟨[' '], _, by simp only [text, ← h₁, ← h₂, ← h₃, ← h₄]; rfl, hspace,
      .more (hconvention hspace) (.last (hroot hspace))⟩
  have hswapped : HasObject swapped [(t₃, .string t₄), (t₁, .object [(t₂, .null)])] [] :=
    ⟨[], _, by simp only [swapped, ← h₁, ← h₂, ← h₃, ← h₄]; rfl, hnil,
      .more (hroot hnil) (.last (hconvention hnil))⟩
  have hcamelRead : Item.read? .convention (.object [(t₂, .null)]) = some .camel := by
    rw [Item.read?, Form.choiceName?, n₂]
    rfl
  have hrootRead : Item.read? .rootName (.string t₄) = some "A" := n₄
  obtain ⟨hread, hvalues, hperm⟩ := parse_object_and_written.1 _ _ _ hobject
  have hnames : [(t₁, Form.object [(t₂, .null)]), (t₃, .string t₄)].map nameOf =
      [some "namingConvention", some "rootName"] := by
    rw [List.map_cons, List.map_cons, List.map_nil, nameOf, nameOf, n₁, n₃]
  obtain ⟨t, ht⟩ : ∃ t, parse text = .ok t := by
    refine hread.2 ⟨hnames ▸ by decide, ?_, by decide⟩
    simp only [List.forall_mem_cons]
    exact ⟨⟨.convention, n₁, by rw [hcamelRead]; rfl⟩, ⟨.rootName, n₃, by rw [hrootRead]; rfl⟩,
      List.forall_mem_nil _⟩
  obtain ⟨hgiven, hkept⟩ := hvalues t ht
  rw [hnames] at hkept
  have hts : t = s := Item.ext_get fun item => by
    cases item with
    | convention =>
      exact Option.some.inj ((hgiven _ List.mem_cons_self .convention n₁).symm.trans hcamelRead)
    | rootName =>
      exact Option.some.inj ((hgiven _ (List.mem_cons_of_mem _ List.mem_cons_self) .rootName
        n₃).symm.trans hrootRead)
    | _ => exact hkept _ (by decide)
  rw [hts] at ht
  obtain ⟨hprinted, hserialized⟩ := parse_object_and_written.2 s [.convention, .rootName]
    (by decide) fun item hitem => by
      cases item with
      | convention | rootName => exact absurd hitem (by decide)
      | _ => rfl
  exact ⟨ht, hperm _ _ _ hswapped (.swap ..) hnil s ht, hprinted,
    hserialized "" "" "" (by decide) (by decide) (by decide)⟩

end SampleTypes.Settings
