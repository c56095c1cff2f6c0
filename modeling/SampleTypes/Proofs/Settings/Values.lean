import SampleTypes.Settings.Reader
import SampleTypes.Proofs.Json.Reading
import SampleTypes.Proofs.Keyed

/-!
# The values of settings

Each setting has a type of values, and `Item.get` and `Item.put` are its place in the settings.
`Item.read?` tells which values of JSON it takes, without a reader, and `outcome_readItem` shows
that the reader takes these.
-/

namespace SampleTypes

/-! ### Values of JSON as values of settings -/

namespace Json.Form

/-- The text that a string has. -/
def text? : Form → Option String
  | .string tokens => decodeText tokens
  | _ => none

/-- The truth value. -/
def truth? : Form → Option Bool
  | .bool value => some value
  | _ => none

/-- The name of a choice: a string, or the only key of an object with null under it. -/
def choiceName? : Form → Option String
  | .string tokens => decodeText tokens
  | .object [(name, .null)] => decodeText name
  | _ => none

theorem choiceName?_object_eq_none {name : List Token} {v : Form} (h : v ≠ .null)
    {ms : List (List Token × Form)} : (Form.object ((name, v) :: ms)).choiceName? = none := by
  unfold choiceName?
  split
  · next heq => cases heq
  · next heq =>
    cases heq
    exact absurd rfl h
  · rfl

end Json.Form

namespace Settings

open Json (Cursor Form Token Spells SpellsMembers Blank decodeText quoted outcome
  Reaches Remaining)

/-- The choice with a name. -/
def choice? {α : Type} (choices : List (String × α)) (name : String) : Option α :=
  (choices.find? (·.1 == name)).map (·.2)

namespace Item

/-! ### Keys -/

theorem key_injective : Function.Injective key := by
  intro a b h
  have hnodup : (all.map key).Nodup := by decide
  have hmem : ∀ item, item ∈ all := fun item => by cases item <;> decide
  exact List.inj_on_of_nodup_map hnodup (hmem a) (hmem b) h

theorem withKey?_eq_some_iff {name : String} {item : Item} :
    withKey? name = some item ↔ item.key = name := by
  have hnodup : (all.map key).Nodup := by decide
  have hmem : item ∈ all := by cases item <;> decide
  exact (Keyed.find?_eq_some_iff hnodup).trans (and_iff_right hmem)

/-! ### Places in the settings -/

/-- The values that a setting can have. -/
def Value : Item → Type
  | .targetLanguage | .rootName => String
  | .convention => Ident.Convention
  | .nestedStyle => NestedStyle
  | .optionalAsNullable | .shareIdentical => Bool
  | .declarationKind => DeclarationKind

/-- The value of a setting. -/
def get : (item : Item) → Settings → item.Value
  | .targetLanguage, s => s.targetLanguage
  | .rootName, s => s.rootName
  | .convention, s => s.convention
  | .nestedStyle, s => s.nestedStyle
  | .optionalAsNullable, s => s.optionalAsNullable
  | .declarationKind, s => s.declarationKind
  | .shareIdentical, s => s.shareIdentical

/-- The value that a setting has where none is given. -/
def initial : (item : Item) → item.Value
  | .targetLanguage => "csharp"
  | .rootName => "Root"
  | .convention => Ident.Convention.pascal
  | .nestedStyle => NestedStyle.hoisted
  | .optionalAsNullable => true
  | .declarationKind => DeclarationKind.plainClass
  | .shareIdentical => false

@[simp] theorem get_default (item : Item) : item.get {} = item.initial := by
  cases item <;> rfl

/-- The settings with one of them changed. -/
def put : (item : Item) → Settings → item.Value → Settings
  | .targetLanguage, s, value => { s with targetLanguage := value }
  | .rootName, s, value => { s with rootName := value }
  | .convention, s, value => { s with convention := value }
  | .nestedStyle, s, value => { s with nestedStyle := value }
  | .optionalAsNullable, s, value => { s with optionalAsNullable := value }
  | .declarationKind, s, value => { s with declarationKind := value }
  | .shareIdentical, s, value => { s with shareIdentical := value }

@[simp] theorem get_put_self (item : Item) (s : Settings) (value : item.Value) :
    item.get (item.put s value) = value := by
  cases item <;> rfl

theorem get_put_of_ne {item other : Item} (h : other ≠ item) (s : Settings)
    (value : item.Value) : other.get (item.put s value) = other.get s := by
  cases item <;> cases other <;> first | rfl | exact absurd rfl h

/-- Settings are known by the value of each. -/
theorem ext_get {s t : Settings} (h : ∀ item : Item, item.get s = item.get t) : s = t := by
  cases s
  cases t
  exact Settings.mk.injEq .. ▸ ⟨h .targetLanguage, h .rootName, h .convention, h .nestedStyle,
    h .optionalAsNullable, h .declarationKind, h .shareIdentical⟩

/-- The value that a value of JSON is for a setting, if it has the right type. -/
def read? : (item : Item) → Form → Option item.Value
  | .targetLanguage, v => v.text?
  | .rootName, v => v.text?
  | .convention, v => v.choiceName?.bind (choice? conventionNames)
  | .nestedStyle, v => v.choiceName?.bind (choice? nestedStyleNames)
  | .optionalAsNullable, v => v.truth?
  | .declarationKind, v => v.choiceName?.bind (choice? declarationKindNames)
  | .shareIdentical, v => v.truth?

end Item

/-! ### Readers -/

theorem outcome_atPath {α : Type} (path : List Step) (r : Json.Reader (α × Cursor)) :
    outcome (atPath path r) = outcome r :=
  Json.outcome_mapError _ r

theorem outcome_under {α : Type} (step : Step) (r : SettingReader (α × Cursor)) :
    outcome (under step r) = outcome r :=
  Json.outcome_mapError _ r

theorem wrongType_eq_error {α : Type} (expected : String) (c : Cursor) :
    ∃ e, (wrongType expected c : SettingReader α) = .error e := by
  rw [wrongType]
  cases readFound c with
  | error e => exact ⟨_, rfl⟩
  | ok read => exact ⟨_, rfl⟩

theorem outcome_wrongType {α : Type} (expected : String) (c : Cursor) :
    outcome (wrongType expected c : SettingReader (α × Cursor)) = none :=
  Json.outcome_eq_none_iff.2 (wrongType_eq_error expected c)

section Values

variable {v : Form} {b cs left : List Char} {c : Cursor}

/-- A value comes next. -/
theorem rest_skipBlanks_of_spells (h : Spells v cs) (hb : Blank b)
    (hc : c.rest = b ++ (cs ++ left)) : c.skipBlanks.rest = cs ++ left := by
  obtain ⟨ch, more, rfl, hopens⟩ := h.exists_cons
  refine Cursor.rest_skipBlanks hc hb fun ch' hch' => ?_
  obtain rfl : ch = ch' := Option.some.inj hch'
  exact hopens.not_blank

theorem outcome_readText (expected : String) (h : Spells v cs) (hb : Blank b)
    (hc : c.rest = b ++ (cs ++ left)) :
    outcome (readText expected c) = v.text?.map (·, left) := by
  have hrest := rest_skipBlanks_of_spells h hb hc
  obtain ⟨ch, more, hcs, hopens⟩ := h.exists_cons
  have hhead : c.skipBlanks.rest.head? = some ch := by rw [hrest, hcs]; rfl
  rw [readText]
  by_cases hquote : ch = '"'
  · obtain ⟨-, -, -, hstring, -⟩ := hopens.kind
    obtain ⟨tokens, rfl⟩ := hstring.1 hquote
    cases h
    rw [if_pos (hhead.trans (congrArg some hquote)), outcome_atPath, Json.outcome_readString hrest]
    rfl
  · have htext : v.text? = none := by
      cases v with
      | string tokens => exact absurd hopens hquote
      | null | bool | number | array | object => rfl
    rw [if_neg (fun heq => hquote (Option.some.inj (hhead.symm.trans heq))), outcome_wrongType,
      htext]
    rfl

theorem reaches_atPath_readWord {path : List Step} {w : List Char} {ch : Char}
    (hc : c.rest = ch :: (w ++ left)) : Reaches (atPath path (Json.readWord w c.advance)) left :=
  (Json.reaches_readWord (by rw [Cursor.rest_advance, hc, List.tail_cons])).mapError _

theorem outcome_readBool (h : Spells v cs) (hb : Blank b) (hc : c.rest = b ++ (cs ++ left)) :
    outcome (readBool c) = v.truth?.map (·, left) := by
  have hrest := rest_skipBlanks_of_spells h hb hc
  cases h with
  | true =>
    simp only [readBool, hrest]
    exact (reaches_atPath_readWord hrest).outcome_bind fun c hc => by rw [← hc]; rfl
  | false =>
    simp only [readBool, hrest]
    exact (reaches_atPath_readWord hrest).outcome_bind fun c hc => by rw [← hc]; rfl
  | null | string | array | object =>
    simp only [readBool, hrest]
    exact outcome_wrongType ..
  | number h =>
    obtain ⟨ch, more, rfl, hopens⟩ := (Spells.number h).exists_cons
    obtain ⟨-, htrue, hfalse, -, -⟩ := hopens.kind
    rw [readBool]
    split
    · next heq => cases htrue.1 (List.cons.inj (hrest.symm.trans heq)).1
    · next heq => cases hfalse.1 (List.cons.inj (hrest.symm.trans heq)).1
    · exact outcome_wrongType ..

theorem reaches_readNull (h : Spells .null cs) (hb : Blank b) (hc : c.rest = b ++ (cs ++ left)) :
    Reaches (readNull c) left := by
  have hrest := rest_skipBlanks_of_spells h hb hc
  cases h
  simp only [readNull, hrest]
  exact reaches_atPath_readWord hrest

theorem readNull_eq_error (hnull : v ≠ .null) (h : Spells v cs) (hb : Blank b)
    (hc : c.rest = b ++ (cs ++ left)) : ∃ e, readNull c = .error e := by
  have hrest := rest_skipBlanks_of_spells h hb hc
  obtain ⟨ch, more, rfl, hopens⟩ := h.exists_cons
  obtain ⟨hletter, -⟩ := hopens.kind
  rw [readNull]
  split
  · next heq => exact absurd (hletter.1 (List.cons.inj (hrest.symm.trans heq)).1) hnull
  · exact wrongType_eq_error ..

section Choices

variable {α : Type} (choices : List (String × α))

theorem outcome_readChoiceName {tokens : List Token} (hc : c.rest = quoted tokens ++ left) :
    outcome (readChoiceName choices c) = ((decodeText tokens).bind fun name =>
      choices.find? (·.1 == name)).map (·, left) := by
  have htext : outcome (readText "variant identifier" c) = (decodeText tokens).map (·, left) :=
    outcome_readText _ (.string tokens) (List.forall_mem_nil _) hc
  rw [readChoiceName, Json.outcome_bind htext (g := fun name =>
    (choices.find? (·.1 == name)).map (·, left))]
  · cases decodeText tokens <;> rfl
  · intro name c _ hc
    dsimp only
    cases choices.find? (·.1 == name) with
    | none => rfl
    | some choice => rw [← hc]; rfl

/-- Reads a choice in braces: after its name stand null and the closing brace. -/
theorem outcome_readChoice_braces {name : List Token} {ms : List (List Token × Form)}
    {between colon after : List Char} (hc : c.rest =
      quoted name ++ (between ++ ':' :: (colon ++ (cs ++ (after ++ '\x7d' :: left)))))
    (hbetween : Blank between) (hcolon : Blank colon) (h : Spells v cs)
    (hafter : Remaining false ms after) :
    outcome (do
      let ((name, value), c) ← readChoiceName choices c
      let c ← atPath [] (Json.readColon c)
      let c ← under (.key name) (readNull c)
      let c := c.skipBlanks
      match c.rest with
      | [] => atPath [] (c.fail .endInObject)
      | '\x7d' :: _ => .ok (value, c.advance)
      | _ :: _ => atPath [] (c.fail .expectedValue)) =
      ((Form.object ((name, v) :: ms)).choiceName?.bind (choice? choices)).map (·, left) := by
  have hname := outcome_readChoiceName choices hc
  -- With another value or another member after it, the reader fails even if the name is a choice.
  by_cases hnull : v = .null
  · subst hnull
    cases hafter with
    | close hblank =>
      refine (Json.outcome_bind (g := fun choice => some (choice.2, left)) hname
        fun choice c _ hc => ?_).trans ?_
      · refine ((Json.reaches_readColon hc hbetween).mapError _).outcome_bind fun c hc => ?_
        refine ((reaches_readNull h hcolon hc).mapError _).outcome_bind fun c hc => ?_
        have hbrace : c.skipBlanks.rest = '\x7d' :: left :=
          Cursor.rest_skipBlanks hc hblank fun ch hch => by cases hch; decide
        simp only [hbrace, Json.outcome_ok, Cursor.rest_advance, List.tail_cons]
      · simp only [Form.choiceName?]
        cases decodeText name with
        | none => rfl
        | some name =>
          simp only [Option.bind_some, choice?]
          cases choices.find? (·.1 == name) <;> rfl
    | next hblank hms =>
      refine (Json.outcome_bind (g := fun choice => none) hname fun choice c _ hc => ?_).trans ?_
      · refine ((Json.reaches_readColon hc hbetween).mapError _).outcome_bind fun c hc => ?_
        refine ((reaches_readNull h hcolon hc).mapError _).outcome_bind fun c hc => ?_
        rw [List.append_assoc] at hc
        have hcomma : c.skipBlanks.rest = ',' :: _ :=
          Cursor.rest_skipBlanks hc hblank fun ch hch => by cases hch; decide
        simp only [hcomma]
        rfl
      · rw [Option.bind_fun_none]
        rfl
  · refine (Json.outcome_bind (g := fun choice => none) hname fun choice c _ hc => ?_).trans ?_
    · refine ((Json.reaches_readColon hc hbetween).mapError _).outcome_bind fun c hc => ?_
      obtain ⟨e, he⟩ := readNull_eq_error hnull h hcolon hc
      rw [he]
      rfl
    · rw [Option.bind_fun_none, Form.choiceName?_object_eq_none hnull]
      rfl

theorem outcome_readChoice (h : Spells v cs) (hb : Blank b) (hc : c.rest = b ++ (cs ++ left)) :
    outcome (readChoice choices c) = (v.choiceName?.bind (choice? choices)).map (·, left) := by
  have hrest := rest_skipBlanks_of_spells h hb hc
  cases h with
  | string tokens =>
    simp only [readChoice, hrest]
    refine (Json.outcome_bind_ok Prod.snd (outcome_readChoiceName choices hrest)).trans ?_
    simp only [Form.choiceName?]
    cases decodeText tokens <;> rfl
  | @object members body h =>
    have hbody : c.skipBlanks.advance.rest = body ++ '\x7d' :: left := by
      rw [Cursor.rest_advance, hrest]
      simp only [List.cons_append, List.append_assoc, List.nil_append, List.tail_cons]
    simp only [readChoice, hrest]
    cases members with
    | nil =>
      cases h with
      | none hblank =>
        rw [(Json.readKeyStart_close hbody hblank).1]
        rfl
    | cons m ms =>
      obtain ⟨name, w⟩ := m
      obtain ⟨c', hread, between, colon, value, after, hc', hbetween, hcolon, hw, hafter⟩ :=
        h.remaining.readKeyStart hbody
      rw [hread]
      exact outcome_readChoice_braces choices hc' hbetween hcolon hw hafter
  | null | true | false | array =>
    simp only [readChoice, hrest]
    rfl
  | number h =>
    obtain ⟨ch, more, rfl, hopens⟩ := (Spells.number h).exists_cons
    obtain ⟨-, -, -, hstring, hobject⟩ := hopens.kind
    rw [readChoice]
    split
    · next heq => cases hrest.symm.trans heq
    · next heq =>
      obtain ⟨tokens, htokens⟩ := hstring.1 (List.cons.inj (hrest.symm.trans heq)).1
      cases htokens
    · next heq =>
      obtain ⟨members, hmembers⟩ := hobject.1 (List.cons.inj (hrest.symm.trans heq)).1
      cases hmembers
    · rfl

end Choices

/-- The value of a setting is read as `Item.read?` tells it. -/
theorem outcome_readItem (item : Item) (s : Settings) (h : Spells v cs) (hb : Blank b)
    (hc : c.rest = b ++ (cs ++ left)) :
    outcome (readItem item s c) = ((item.read? v).map (item.put s)).map (·, left) := by
  cases item with
  | targetLanguage =>
    exact Json.outcome_bind_ok (Item.put .targetLanguage s) (outcome_readText _ h hb hc)
  | rootName =>
    exact Json.outcome_bind_ok (Item.put .rootName s) (outcome_readText _ h hb hc)
  | convention =>
    exact Json.outcome_bind_ok (Item.put .convention s) (outcome_readChoice _ h hb hc)
  | nestedStyle =>
    exact Json.outcome_bind_ok (Item.put .nestedStyle s) (outcome_readChoice _ h hb hc)
  | optionalAsNullable =>
    exact Json.outcome_bind_ok (Item.put .optionalAsNullable s) (outcome_readBool h hb hc)
  | declarationKind =>
    exact Json.outcome_bind_ok (Item.put .declarationKind s) (outcome_readChoice _ h hb hc)
  | shareIdentical =>
    exact Json.outcome_bind_ok (Item.put .shareIdentical s) (outcome_readBool h hb hc)

end Values

end Settings

end SampleTypes
