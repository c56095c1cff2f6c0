import SampleTypes.Proofs.Ident.Characters
import SampleTypes.Proofs.Naming.Expansion
import SampleTypes.Target.CSharp
import SampleTypes.Target.Python
import SampleTypes.Target.Rust
import SampleTypes.Target.TypeScript

/-!
# The names that types are written with

What a writer prints for a type consists of names and of signs between them.  Where the type refers
to no declaration, the names are the language's own: those of the kinds of value, of lists, of what
may be null, and of what is unknown.

* `Language.typeNames` are the names in a type, and `Language.nameParts_typeText` shows that its
  text has no others;
* `Language.IsOwn` tells a language's own names, which no declaration gets: keywords, names that are
  reserved, and paths;
* `isOwn_of_mem_typeNames` is the main result.
-/

namespace SampleTypes.Target

open Naming (Graph TypeRef)

/-! ### Names in types -/

/-- The names in a type expression. -/
def CSharp.TypeExpr.names : TypeExpr → List String
  | .name text => [text]
  | .list element => "List" :: names element
  | .nullable inner => names inner

/-- The names in a type expression. -/
def Rust.TypeExpr.names : TypeExpr → List String
  | .name text => [text]
  | .vec element => "Vec" :: names element
  | .option inner => "Option" :: names inner

mutual

/-- The names in a type hint; each part of a dotted path is one. -/
def Python.TypeHint.names : TypeHint → List String
  | .name path => path
  | .list element => "list" :: names element
  | .orNone inner => names inner ++ ["None"]
  | .union arms => namesOf arms

/-- The names in several hints. -/
def Python.TypeHint.namesOf : List TypeHint → List String
  | [] => []
  | arm :: arms => names arm ++ namesOf arms

end

mutual

/-- The names of types in a type expression. -/
def TypeScript.TypeExpr.names : TypeExpr → List String
  | .name text => [text]
  | .array element => names element
  | .orNull inner => names inner ++ ["null"]
  | .union arms => namesOf arms
  | .literal properties => propertyNames properties

/-- The names in several types. -/
def TypeScript.TypeExpr.namesOf : List TypeExpr → List String
  | [] => []
  | arm :: arms => names arm ++ namesOf arms

/-- The names in the types of properties. -/
def TypeScript.TypeExpr.propertyNames : List Property → List String
  | [] => []
  | ⟨_, _, type⟩ :: properties => names type ++ propertyNames properties

end

/-- The text of a type in a graph. -/
def Language.typeText (language : Language) (graph : Graph) (t : TypeRef) : String :=
  match language with
  | .csharp => (CSharp.TypeExpr.of graph.nameOf t).text
  | .typescript => (TypeScript.TypeExpr.of (fun id => .name (graph.nameOf id)) t).text 0
  | .python => (Python.TypeHint.of (fun id => [graph.nameOf id]) t).text
  | .rust => (Rust.TypeExpr.of graph.nameOf t).text

/-- The names that are printed for a type in a graph. -/
def Language.typeNames (language : Language) (graph : Graph) (t : TypeRef) : List String :=
  match language with
  | .csharp => (CSharp.TypeExpr.of graph.nameOf t).names
  | .typescript => (TypeScript.TypeExpr.of (fun id => .name (graph.nameOf id)) t).names
  | .python => (Python.TypeHint.of (fun id => [graph.nameOf id]) t).names
  | .rust => (Rust.TypeExpr.of graph.nameOf t).names

/-! ### Names in texts -/

/-- The character is a part of names, and of no sign between them. -/
def isNamePart (c : Char) : Bool :=
  c.isAlphanum || c == '_' || c == ':'

/-- What a text has of names. -/
def nameParts (s : String) : List Char :=
  s.toList.filter isNamePart

theorem nameParts_append (s t : String) : nameParts (s ++ t) = nameParts s ++ nameParts t := by
  rw [nameParts, String.toList_append, List.filter_append]
  rfl

theorem nameParts_intercalate {separator : String} (h : nameParts separator = [])
    (parts : List String) : nameParts (separator.intercalate parts) = parts.flatMap nameParts := by
  induction parts with
  | nil => rfl
  | cons part parts ih =>
    cases parts with
    | nil => rw [String.intercalate_singleton, List.flatMap_singleton]
    | cons next parts =>
      rw [String.intercalate_cons_cons, nameParts_append, nameParts_append, h, ih,
        List.append_nil, List.flatMap_cons (x := part)]

/-- A type of C# prints its names, and signs between them. -/
theorem CSharp.nameParts_text (t : TypeExpr) : nameParts t.text = t.names.flatMap nameParts := by
  induction t with
  | name text => rw [TypeExpr.text, TypeExpr.names, List.flatMap_singleton]
  | list element ih =>
    have hlist : nameParts "List<" = nameParts "List" ∧ nameParts ">" = [] := by
      decide
    rw [TypeExpr.text, TypeExpr.names, nameParts_append, nameParts_append, ih, hlist.1, hlist.2,
      List.append_nil, List.flatMap_cons]
  | nullable inner ih =>
    have hmark : nameParts "?" = [] := by
      decide
    rw [TypeExpr.text, TypeExpr.names, nameParts_append, ih, hmark, List.append_nil]

theorem Rust.nameParts_text (t : TypeExpr) : nameParts t.text = t.names.flatMap nameParts := by
  have hsigns : nameParts "Vec<" = nameParts "Vec" ∧ nameParts "Option<" = nameParts "Option" ∧
      nameParts ">" = [] := by
    decide
  obtain ⟨hvec, hoption, hclose⟩ := hsigns
  induction t with
  | name text => rw [TypeExpr.text, TypeExpr.names, List.flatMap_singleton]
  | vec element ih =>
    rw [TypeExpr.text, TypeExpr.names, nameParts_append, nameParts_append, ih, hvec, hclose,
      List.append_nil, List.flatMap_cons]
  | option inner ih =>
    rw [TypeExpr.text, TypeExpr.names, nameParts_append, nameParts_append, ih, hoption, hclose,
      List.append_nil, List.flatMap_cons]

mutual

theorem Python.nameParts_text : (t : TypeHint) → nameParts t.text = t.names.flatMap nameParts
  | .name path => by
    rw [TypeHint.text, TypeHint.names]
    exact nameParts_intercalate (by decide) path
  | .list element => by
    have hlist : nameParts "list[" = nameParts "list" ∧ nameParts "]" = [] := by
      decide
    rw [TypeHint.text, TypeHint.names, nameParts_append, nameParts_append, nameParts_text element,
      hlist.1, hlist.2, List.append_nil, List.flatMap_cons]
  | .orNone inner => by
    have hnone : nameParts " | None" = nameParts "None" := by
      decide
    rw [TypeHint.text, TypeHint.names, nameParts_append, nameParts_text inner, hnone,
      List.flatMap_append, List.flatMap_singleton]
  | .union arms => by
    rw [TypeHint.text, TypeHint.names, nameParts_intercalate (by decide)]
    exact nameParts_texts arms

theorem Python.nameParts_texts : (ts : List TypeHint) →
    (TypeHint.texts ts).flatMap nameParts = (TypeHint.namesOf ts).flatMap nameParts
  | [] => by rw [TypeHint.texts, TypeHint.namesOf]
  | t :: ts => by
    rw [TypeHint.texts, TypeHint.namesOf, List.flatMap_cons, List.flatMap_append, nameParts_text t,
      nameParts_texts ts]

end

mutual

theorem TypeScript.nameParts_text (level : Nat) (nameOf : Nat → String) : (t : TypeRef) →
    nameParts ((TypeExpr.of (fun id => .name (nameOf id)) t).text level)
      = (TypeExpr.of (fun id => .name (nameOf id)) t).names.flatMap nameParts
  | .unknown => by
    rw [TypeExpr.of, TypeExpr.text, TypeExpr.names, List.flatMap_singleton]
  | .primitive kind => by
    rw [TypeExpr.of, TypeExpr.text, TypeExpr.names, List.flatMap_singleton]
  | .declared id => by
    rw [TypeExpr.of, TypeExpr.text, TypeExpr.names, List.flatMap_singleton]
  | .array t => by
    have hsigns : nameParts "(" = [] ∧ nameParts ")[]" = [] ∧ nameParts "[]" = [] := by
      decide
    obtain ⟨hopen, hclose, hmark⟩ := hsigns
    rw [TypeExpr.of, TypeExpr.text, TypeExpr.names, ← nameParts_text level nameOf t]
    split
    · rw [nameParts_append, nameParts_append, hopen, hclose, List.append_nil, List.nil_append]
    · rw [nameParts_append, hmark, List.append_nil]
  | .nullable t => by
    have hnull : nameParts " | null" = nameParts "null" := by
      decide
    rw [TypeExpr.of, TypeExpr.text, TypeExpr.names, nameParts_append, nameParts_text level nameOf t,
      hnull, List.flatMap_append, List.flatMap_singleton]
  | .union ts => by
    rw [TypeExpr.of, TypeExpr.text, TypeExpr.names, nameParts_intercalate (by decide)]
    exact nameParts_texts level nameOf ts

theorem TypeScript.nameParts_texts (level : Nat) (nameOf : Nat → String) : (ts : List TypeRef) →
    (TypeExpr.texts level (TypeExpr.ofArms (fun id => .name (nameOf id)) ts)).flatMap nameParts
      = (TypeExpr.namesOf (TypeExpr.ofArms (fun id => .name (nameOf id)) ts)).flatMap nameParts
  | [] => by rw [TypeExpr.ofArms, TypeExpr.texts, TypeExpr.namesOf]
  | t :: ts => by
    rw [TypeExpr.ofArms, TypeExpr.texts, TypeExpr.namesOf, List.flatMap_cons, List.flatMap_append,
      nameParts_text level nameOf t, nameParts_texts level nameOf ts]

end

/-- **The text of a type has no names but those of the type**, in their order. -/
theorem Language.nameParts_typeText (language : Language) (graph : Graph) (t : TypeRef) :
    nameParts (language.typeText graph t) = (language.typeNames graph t).flatMap nameParts := by
  cases language with
  | csharp => exact CSharp.nameParts_text _
  | typescript => exact TypeScript.nameParts_text 0 graph.nameOf t
  | python => exact Python.nameParts_text _
  | rust => exact Rust.nameParts_text _

/-! ### A language's own names -/

/-- The name is the language's own: a keyword, a name that is reserved, or no identifier. -/
def Language.IsOwn (language : Language) (name : String) : Prop :=
  name ∈ language.keywords ∨ name ∈ language.reservedTypeNames ∨ ¬ Text.IdentText name

instance (language : Language) : DecidablePred language.IsOwn :=
  fun _ => inferInstanceAs (Decidable (_ ∨ _ ∨ _))

theorem CSharp.TypeExpr.names_orNull (t : TypeExpr) : t.orNull.names = t.names := by
  cases t <;> rfl

theorem Rust.TypeExpr.names_orAbsent {t : TypeExpr} {name : String}
    (h : name ∈ t.orAbsent.names) : name = "Option" ∨ name ∈ t.names := by
  cases t with
  | option inner => exact .inr h
  | name text => exact List.mem_cons.1 h
  | vec element => exact List.mem_cons.1 h

/-- Types that do not mention declarations are written in C# with its own names. -/
theorem CSharp.isOwn_of_mem_names {reference : Nat → String} : (t : TypeRef) →
    t.references = [] → ∀ name ∈ (TypeExpr.of reference t).names, Language.csharp.IsOwn name
  | .unknown, _ => by
    rw [TypeExpr.of]
    decide
  | .primitive kind, _ => by
    rw [TypeExpr.of]
    cases kind <;> decide
  | .array t, h => by
    rw [TypeExpr.of, TypeExpr.names, List.forall_mem_cons]
    exact ⟨by decide, isOwn_of_mem_names t h⟩
  | .nullable t, h => by
    rw [TypeExpr.of, TypeExpr.names_orNull]
    exact isOwn_of_mem_names t h
  | .union _, _ => by
    rw [TypeExpr.of]
    decide

theorem Rust.isOwn_of_mem_names {reference : Nat → String} : (t : TypeRef) →
    t.references = [] → ∀ name ∈ (TypeExpr.of reference t).names, Language.rust.IsOwn name
  | .unknown, _ => by
    rw [TypeExpr.of]
    decide
  | .primitive kind, _ => by
    rw [TypeExpr.of]
    cases kind <;> decide
  | .array t, h => by
    rw [TypeExpr.of, TypeExpr.names, List.forall_mem_cons]
    exact ⟨by decide, isOwn_of_mem_names t h⟩
  | .nullable t, h => by
    rw [TypeExpr.of]
    intro name hname
    rcases TypeExpr.names_orAbsent hname with rfl | hname
    · decide
    · exact isOwn_of_mem_names t h name hname
  | .union _, _ => by
    rw [TypeExpr.of]
    decide

mutual

theorem Python.isOwn_of_mem_names {reference : Nat → List String} : (t : TypeRef) →
    t.references = [] → ∀ name ∈ (TypeHint.of reference t).names, Language.python.IsOwn name
  | .unknown, _ => by
    rw [TypeHint.of]
    decide
  | .primitive kind, _ => by
    rw [TypeHint.of]
    cases kind <;> decide
  | .array t, h => by
    rw [TypeHint.of, TypeHint.names, List.forall_mem_cons]
    exact ⟨by decide, isOwn_of_mem_names t h⟩
  | .nullable t, h => by
    rw [TypeHint.of, TypeHint.names, List.forall_mem_append]
    exact ⟨isOwn_of_mem_names t h, by decide⟩
  | .union ts, h => by
    rw [TypeHint.of, TypeHint.names]
    exact isOwn_of_mem_namesOf ts h

theorem Python.isOwn_of_mem_namesOf {reference : Nat → List String} : (ts : List TypeRef) →
    TypeRef.referencesOf ts = [] →
    ∀ name ∈ TypeHint.namesOf (TypeHint.ofArms reference ts), Language.python.IsOwn name
  | [], _ => by
    rw [TypeHint.ofArms, TypeHint.namesOf]
    simp
  | t :: ts, h => by
    rw [TypeRef.referencesOf, List.append_eq_nil_iff] at h
    rw [TypeHint.ofArms, TypeHint.namesOf, List.forall_mem_append]
    exact ⟨isOwn_of_mem_names t h.1, isOwn_of_mem_namesOf ts h.2⟩

end

mutual

theorem TypeScript.isOwn_of_mem_names {reference : Nat → TypeExpr} : (t : TypeRef) →
    t.references = [] → ∀ name ∈ (TypeExpr.of reference t).names, Language.typescript.IsOwn name
  | .unknown, _ => by
    rw [TypeExpr.of]
    decide
  | .primitive kind, _ => by
    rw [TypeExpr.of]
    cases kind <;> decide
  | .array t, h => by
    rw [TypeExpr.of, TypeExpr.names]
    exact isOwn_of_mem_names t h
  | .nullable t, h => by
    rw [TypeExpr.of, TypeExpr.names, List.forall_mem_append]
    exact ⟨isOwn_of_mem_names t h, by decide⟩
  | .union ts, h => by
    rw [TypeExpr.of, TypeExpr.names]
    exact isOwn_of_mem_namesOf ts h

theorem TypeScript.isOwn_of_mem_namesOf {reference : Nat → TypeExpr} : (ts : List TypeRef) →
    TypeRef.referencesOf ts = [] →
    ∀ name ∈ TypeExpr.namesOf (TypeExpr.ofArms reference ts), Language.typescript.IsOwn name
  | [], _ => by
    rw [TypeExpr.ofArms, TypeExpr.namesOf]
    simp
  | t :: ts, h => by
    rw [TypeRef.referencesOf, List.append_eq_nil_iff] at h
    rw [TypeExpr.ofArms, TypeExpr.namesOf, List.forall_mem_append]
    exact ⟨isOwn_of_mem_names t h.1, isOwn_of_mem_namesOf ts h.2⟩

end

/-- **A type that refers to no declaration is written with the language's own names.** -/
theorem isOwn_of_mem_typeNames {language : Language} {graph : Graph} {t : TypeRef}
    (h : t.references = []) : ∀ name ∈ language.typeNames graph t, language.IsOwn name := by
  cases language with
  | csharp => exact CSharp.isOwn_of_mem_names t h
  | typescript => exact TypeScript.isOwn_of_mem_names t h
  | python => exact Python.isOwn_of_mem_names t h
  | rust => exact Rust.isOwn_of_mem_names t h

end SampleTypes.Target
