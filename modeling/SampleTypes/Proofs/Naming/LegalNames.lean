import SampleTypes.Proofs.Ident.Plain
import SampleTypes.Proofs.Naming.Declarations
import SampleTypes.Proofs.Naming.TypeNames
import SampleTypes.Proofs.Target.OwnNames

/-!
# Names that a language accepts

A name comes about by the convention, by a word that stands for an empty name, by a mark before a
digit, by the escape of a keyword, and by a number at its end.  Whatever of these applies, the name
is neither empty nor a keyword: keywords are made of letters, and an escape or a number puts a
character into the name that is none.

* `Target.Language.Legal` is what holds of every name, `Naming.legal_sanitize` and
  `Target.Language.legal_withCounter` are the ways to it;
* `Naming.forall_declared_nameType` goes through a walk: what a place gives to the names under it
  holds of all declarations;
* `Naming.legal_names_resolve` is the main result.
-/

namespace SampleTypes

/-! ### Keywords -/

namespace Target.Language

/-- The name is not empty and no keyword. -/
structure Legal (language : Language) (name : String) : Prop where
  nonempty : name ≠ ""
  notKeyword : language.escapeKeyword name = none

variable {language : Language}

theorem escapeKeyword_eq_none_iff {name : String} :
    language.escapeKeyword name = none ↔ name ∉ language.keywords := by
  simp [escapeKeyword]

theorem exists_escapeKeyword_eq {name : String} (h : name ∈ language.keywords) :
    ∃ escaped, language.escapeKeyword name = some escaped := by
  rw [← Option.ne_none_iff_exists', Ne, escapeKeyword_eq_none_iff, not_not]
  exact h

/-- Escaping a keyword makes it longer. -/
theorem length_escapeKeyword {name escaped : String}
    (h : language.escapeKeyword name = some escaped) : name.length < escaped.length := by
  rcases escapeKeyword_cases h with rfl | ⟨rfl, c, hc, -⟩
  · have hline : "_".length = 1 := by
      decide
    rw [String.length_append]
    omega
  · have hmark := List.length_pos_of_mem hc
    rw [String.length_toList] at hmark
    rw [String.length_append]
    omega

/-- Keywords are made of letters. -/
theorem isAlpha_of_mem_keywords : ∀ keyword ∈ language.keywords,
    keyword.toList.all Char.isAlpha := by
  cases language <;> decide +kernel

/-- A name is no keyword if one of its characters is no letter. -/
theorem legal_of_mem_toList {name : String} {c : Char} (hc : c ∈ name.toList)
    (hletter : c.isAlpha = false) : language.Legal name := by
  constructor
  · rintro rfl
    cases hc
  · rw [escapeKeyword_eq_none_iff]
    intro hkeyword
    have hall := List.all_eq_true.1 (isAlpha_of_mem_keywords name hkeyword) c hc
    rw [hletter] at hall
    cases hall

/-- What a keyword is escaped to is no keyword. -/
theorem legal_escapeKeyword {name escaped : String}
    (h : language.escapeKeyword name = some escaped) : language.Legal escaped := by
  rcases escapeKeyword_cases h with rfl | ⟨rfl, c, hc, hletter⟩
  · exact legal_of_mem_toList (c := '_') (by simp) (by decide)
  · refine legal_of_mem_toList ?_ hletter
    rw [String.toList_append]
    exact List.mem_append_left _ hc

/-- A name with a number at its end is no keyword. -/
theorem legal_withCounter (convention : Ident.Convention) (base : String) (n : Nat) :
    language.Legal (convention.withCounter base n) := by
  have hdigits : (toString n).toList ≠ [] := by
    rw [Nat.toString_eq_repr, Nat.toList_repr]
    exact Nat.toDigits_ne_nil
  obtain ⟨c, hc⟩ := List.exists_mem_of_ne_nil _ hdigits
  have hletter := Text.not_isAlpha_of_isDigit (Ident.isDigit_of_mem_toString n c hc)
  have hmem : c ∈ (convention.withCounter base n).toList := by
    cases convention <;>
      simp only [Ident.Convention.withCounter, String.toList_append, List.mem_append, hc, or_true]
  exact legal_of_mem_toList hmem hletter

end Target.Language

namespace Naming

open Declaration (withNested)
open Target (Language)
open Text (IsAscii)

/-! ### Names for keys -/

section Keys

variable (cx : Context)

/-- **The identifier for a key is legal**, whatever the key. -/
theorem legal_sanitize (key : String) {fallback : String} (hfallback : fallback ∈ fallbackWords) :
    cx.language.Legal (cx.sanitize key fallback).ident := by
  unfold Context.sanitize
  extract_lets applied word marked
  have hword : word ≠ "" := by
    simp only [word]
    split
    · exact (apply_ne_of_mem_fallbackWords cx.convention fallback hfallback).1
    · rename_i happlied
      rwa [String.isEmpty_iff] at happlied
  split
  · rename_i escaped he
    exact Language.legal_escapeKeyword he
  · rename_i hkeyword
    refine ⟨?_, hkeyword⟩
    simp only [marked]
    split
    · rw [Ne, String.append_eq_empty_iff, not_and]
      exact fun _ => hword
    · exact hword

/-- A legal name, and a plain one but for a mark as long as all keys are ASCII. -/
structure Proper (ascii : Prop) (name : String) : Prop where
  legal : cx.language.Legal name
  marked : ascii → cx.language.Marked name

variable {cx} {ascii : Prop}

theorem proper_sanitize {key fallback : String} (hkey : ascii → IsAscii key)
    (hfallback : fallback ∈ fallbackWords) :
    Proper cx ascii (cx.sanitize key fallback).ident :=
  ⟨legal_sanitize cx key hfallback, fun h => marked_sanitize cx (hkey h) hfallback⟩

theorem Proper.withCounter {base : String} (h : Proper cx ascii base) (n : Nat) :
    Proper cx ascii (cx.convention.withCounter base n) :=
  ⟨Language.legal_withCounter _ _ _, fun hascii => (h.marked hascii).withCounter _ n⟩

/-- The name of a declaration under a field is as proper as the name of its owner. -/
theorem proper_typeName {owner key : String} (howner : Proper cx ascii owner)
    (hkey : ascii → IsAscii key) (names : Names) :
    Proper cx ascii (cx.typeName (.field owner key) names) := by
  refine typeName_of_sanitize (fun _ n h => h.withCounter n) ?_ ?_ names
  · exact proper_sanitize hkey (by decide)
  · -- a mark before the owner's name is ASCII as well, and is no part of a word
    refine proper_sanitize (fun h => ?_) (by decide)
    have hblank : IsAscii " " := by
      decide
    exact ((howner.marked h).isAscii.append hblank).append (hkey h)

theorem proper_rootName {rootName : String} (h : ascii → IsAscii rootName) :
    Proper cx ascii (cx.rootName rootName).ident :=
  rootName_of_sanitize (P := Proper cx ascii) (fun _ n h => h.withCounter n)
    (proper_sanitize h (by decide))

theorem proper_memberNames {keys : List String} (h : ascii → ∀ key ∈ keys, IsAscii key)
    (name : String) : ∀ c ∈ cx.memberNames name keys, Proper cx ascii c.ident := by
  refine forall_mem_memberNames (fun _ n h => h.withCounter n) (fun key hkey => ?_) name
  exact proper_sanitize (fun hascii => h hascii key hkey) (by decide)

end Keys

/-! ### Through the walk -/

section Walk

variable (cx : Context) {P K : String → Prop}

mutual

/--
**What holds of the root's name, and goes from the name of an owner to the names under its fields,
holds of the names of all declarations**, where the keys are those of the shape.
-/
theorem forall_declared_nameType
    (hfield : ∀ owner key names, P owner → K key → P (cx.typeName (.field owner key) names))
    (place : Place) (hplace : ∀ names, P (cx.typeName place names)) (names : Names) :
    (s : Shape) → (∀ fields ∈ s.objects, ∀ f ∈ fields, K f.key) →
    ∀ d ∈ withNested (cx.nameType place names s).declared,
      P d.name ∧ ∀ m ∈ d.members, K m.key
  | .unknown, _ => by
    rw [Context.nameType]
    rintro d ⟨⟩
  | .primitive _, _ => by
    rw [Context.nameType]
    rintro d ⟨⟩
  | .array e, h => by
    rw [Context.nameType]
    exact forall_declared_nameType hfield place hplace names e h
  | .nullable s, h => by
    rw [Context.nameType]
    exact forall_declared_nameType hfield place hplace names s h
  | .union as, h => by
    rw [Context.nameType]
    exact forall_declared_nameArms hfield place hplace names as h
  | .object fs, h => by
    rw [Context.nameType]
    split
    · -- a shared object was declared before
      rintro d ⟨⟩
    · rw [Shape.objects, List.forall_mem_cons] at h
      simp only [Declaration.withNested_cons, Declaration.withNested_nil, List.append_nil,
        List.forall_mem_cons]
      refine ⟨⟨hplace names, fun m hm => ?_⟩, ?_⟩
      · have hkey := List.mem_map_of_mem (f := Member.key) hm
        rw [keys_nameFields] at hkey
        obtain ⟨f, hf, heq⟩ := List.mem_map.1 hkey
        exact heq ▸ h.1 f hf
      · exact forall_declared_nameFields hfield _ (hplace names) _ _ fs h.1 h.2

theorem forall_declared_nameArms
    (hfield : ∀ owner key names, P owner → K key → P (cx.typeName (.field owner key) names))
    (place : Place) (hplace : ∀ names, P (cx.typeName place names)) (names : Names) :
    (as : List Shape) → (∀ fields ∈ Shape.objectsOfArms as, ∀ f ∈ fields, K f.key) →
    ∀ d ∈ withNested (cx.nameArms place names as).declared,
      P d.name ∧ ∀ m ∈ d.members, K m.key
  | [], _ => by
    rw [Context.nameArms]
    rintro d ⟨⟩
  | a :: as, h => by
    rw [Context.nameArms]
    rw [Shape.objectsOfArms, List.forall_mem_append] at h
    simp only [Outcome.after, Outcome.map, Declaration.withNested_append, List.forall_mem_append]
    exact ⟨forall_declared_nameType hfield place hplace names a h.1,
      forall_declared_nameArms hfield place hplace _ as h.2⟩

theorem forall_declared_nameFields
    (hfield : ∀ owner key names, P owner → K key → P (cx.typeName (.field owner key) names))
    (owner : String) (howner : P owner) (names : Names) (idents : List Candidate) :
    (fs : List Field) → (∀ f ∈ fs, K f.key) →
    (∀ fields ∈ Shape.objectsOfFields fs, ∀ f ∈ fields, K f.key) →
    ∀ d ∈ withNested (cx.nameFields owner names idents fs).declared,
      P d.name ∧ ∀ m ∈ d.members, K m.key
  | [], _, _ => by
    rw [Context.nameFields]
    rintro d ⟨⟩
  | ⟨key, s, _⟩ :: fs, hkeys, h => by
    rw [Context.nameFields]
    rw [List.forall_mem_cons] at hkeys
    rw [Shape.objectsOfFields, List.forall_mem_append] at h
    simp only [Outcome.after, Outcome.map, List.nil_append, Declaration.withNested_append,
      List.forall_mem_append]
    constructor
    · refine forall_declared_nameType hfield (.field owner key) (fun names => ?_) names s h.1
      exact hfield owner key names howner hkeys.1
    · exact forall_declared_nameFields hfield owner howner _ idents.tail fs hkeys.2 h.2

end

end Walk

/-! ### The names of a graph -/

/-- The identifiers of all members. -/
def Graph.idents (graph : Graph) : List String :=
  graph.declarations.flatMap fun d => d.members.map (·.ident)

/-- The name of the root, and the names of all declarations. -/
def Graph.declaredNames (graph : Graph) : List String :=
  graph.rootName :: graph.declarations.map (·.name)

section Graph

variable (cx : Context) (s : Shape) (rootName : String)

/-- All names in a graph are proper. -/
theorem proper_resolve (ascii : Prop) (hroot : ascii → IsAscii rootName)
    (hkeys : ascii → ∀ fields ∈ s.objects, ∀ f ∈ fields, IsAscii f.key) :
    let graph := (cx.resolve s rootName).1
    ∀ name ∈ graph.idents ++ graph.declaredNames, Proper cx ascii name := by
  intro graph
  have hrootName : Proper cx ascii graph.rootName := proper_rootName hroot
  have hdeclared : ∀ d ∈ graph.declarations, Proper cx ascii d.name ∧
      ∀ m ∈ d.members, ascii → IsAscii m.key := by
    refine forall_declared_nameType cx (P := Proper cx ascii) (K := fun key => ascii → IsAscii key)
      (fun owner key names howner hkey => ?_) (.root _) (fun _ => hrootName) _ s ?_
    · exact proper_typeName howner hkey names
    · exact fun fields hfields f hf hascii => hkeys hascii fields hfields f hf
  rw [List.forall_mem_append]
  constructor
  · intro ident hident
    obtain ⟨d, hd, hident⟩ := List.mem_flatMap.1 hident
    rw [(built_of_mem_declarations cx s rootName d hd).idents] at hident
    obtain ⟨c, hc, rfl⟩ := List.mem_map.1 hident
    refine proper_memberNames (fun hascii => ?_) d.name c hc
    rw [List.forall_mem_map]
    exact fun m hm => (hdeclared d hd).2 m hm hascii
  · rw [Graph.declaredNames, List.forall_mem_cons, List.forall_mem_map]
    exact ⟨hrootName, fun d hd => (hdeclared d hd).1⟩

/-- No type name is one of the language's own. -/
theorem not_isOwn_of_mem_declaredNames : ∀ name ∈ (cx.resolve s rootName).1.declaredNames,
    name ∉ cx.language.reservedTypeNames ∧ ¬ cx.language.IsOwn name := by
  intro name hname
  -- names are legal whatever the keys are
  have hlegal := (proper_resolve cx s rootName False False.elim False.elim name
    (List.mem_append_right _ hname)).legal
  have hnames := (typeNames_resolve cx s rootName).1
  have hword : name ∉ cx.language.reservedTypeNames ∧ Text.IdentText name := by
    rcases List.mem_cons.1 hname with rfl | hname
    · exact ⟨hnames.root, identText_rootName cx rootName⟩
    · obtain ⟨d, hd, rfl⟩ := List.mem_map.1 hname
      exact ⟨hnames.notMem_reserved d hd, identText_of_mem_declarations cx s rootName d hd⟩
  refine ⟨hword.1, ?_⟩
  rintro (hkeyword | hreserved | hno)
  · exact Language.escapeKeyword_eq_none_iff.1 hlegal.notKeyword hkeyword
  · exact hword.1 hreserved
  · exact hno hword.2

/--
**No name that is given is a keyword or a name of the language's own.**  All names are legal; the
root and the declarations have no reserved name and none that is printed for a type of the language
itself; and with ASCII keys and an ASCII root name, all names are plain but for a mark.
-/
theorem legal_names_resolve :
    let graph := (cx.resolve s rootName).1
    (∀ name ∈ graph.idents ++ graph.declaredNames,
      name ≠ "" ∧ cx.language.escapeKeyword name = none) ∧
    (∀ name ∈ graph.declaredNames, name ∉ cx.language.reservedTypeNames ∧
      ∀ t : TypeRef, t.references = [] → name ∉ cx.language.typeNames graph t) ∧
    (IsAscii rootName → (∀ fields ∈ s.objects, ∀ f ∈ fields, IsAscii f.key) →
      ∀ name ∈ graph.idents ++ graph.declaredNames,
        Ident.isPlain (cx.language.withoutMark name)) := by
  intro graph
  refine ⟨fun name hname => ?_, fun name hname => ?_, fun hroot hkeys name hname => ?_⟩
  · have hlegal := (proper_resolve cx s rootName False False.elim False.elim name hname).legal
    exact ⟨hlegal.nonempty, hlegal.notKeyword⟩
  · obtain ⟨hreserved, hown⟩ := not_isOwn_of_mem_declaredNames cx s rootName name hname
    refine ⟨hreserved, fun t ht hmem => ?_⟩
    exact hown (Target.isOwn_of_mem_typeNames ht name hmem)
  · have hproper := proper_resolve cx s rootName True (fun _ => hroot) (fun _ => hkeys)
    exact ((hproper name hname).marked trivial).isPlain_withoutMark

/-- Keywords and a key that starts with a digit. -/
theorem legal_names_of_keywords :
    let shape : Shape := .object [⟨"class", .object [⟨"2nd", .primitive .integer, false⟩], false⟩]
    let graph := (Context.resolve ⟨.csharp, .camel, false⟩ shape "string").1
    graph.idents ++ graph.declaredNames = ["@class", "n2nd", "@string", "@string", "@class"] ∧
      ∀ name ∈ graph.idents ++ graph.declaredNames,
        Ident.isPlain (Language.csharp.withoutMark name) := by
  intro shape graph
  have hnames : graph.idents ++ graph.declaredNames
      = ["@class", "n2nd", "@string", "@string", "@class"] := by
    decide +kernel
  refine ⟨hnames, (legal_names_resolve ⟨.csharp, .camel, false⟩ shape "string").2.2 ?_ ?_⟩
  · decide
  · decide +kernel

end Graph

end Naming

end SampleTypes
