import SampleTypes.Proofs.Naming.Declarations
import SampleTypes.Proofs.Naming.Nesting
import SampleTypes.Proofs.Naming.TypeNames
import SampleTypes.Proofs.Shape.Soundness
import SampleTypes.Proofs.Target.Output

/-!
# Reading samples into structs

The structs that are written for samples read the samples back, all but those in which an integer
beyond the signed 64 bits stands where the shape has an integer.

* `Rust.File.meaning?` says what a name in a file stands for, `Rust.File.Reads` which values are
  read as a type;
* `Shape.overflows` finds the numbers that are too large for their place;
* `Rust.reads_iff_of_denotes` goes from a type to the shape that it stands for, part by part, and
  `Rust.reads_samples_iff` is the main result.
-/

namespace SampleTypes

open Json (Value Number)

namespace Shape

/-- The integers of 64 bits with a sign. -/
def isSigned64 (n : Int) : Bool :=
  -9223372036854775808 ≤ n && n < 9223372036854775808

mutual

/--
Somewhere in the value a number beyond the signed 64 bits stands where the shape has an integer.
What a union stands for does not count.
-/
def overflows : Shape → Value → Bool
  | .primitive .integer, .number (.integer n) => !isSigned64 n
  | .object fs, .object ms => fieldsOverflow fs ms
  | .array e, .array vs => vs.any (overflows e)
  | .nullable s, v => overflows s v
  | _, _ => false

/-- The value under the key of one of the fields overflows. -/
def fieldsOverflow : List Field → List (String × Value) → Bool
  | [], _ => false
  | ⟨key, s, _⟩ :: fs, ms => (Json.member? key ms).any (overflows s) || fieldsOverflow fs ms

end

theorem fieldsOverflow_eq_false_iff {fs : List Field} {ms : List (String × Value)} :
    fieldsOverflow fs ms = false
      ↔ ∀ f ∈ fs, ∀ v, Json.member? f.key ms = some v → overflows f.shape v = false := by
  induction fs with
  | nil => simp [fieldsOverflow]
  | cons f fs ih =>
    obtain ⟨key, s, optional⟩ := f
    rw [fieldsOverflow, Bool.or_eq_false_iff, ih, List.forall_mem_cons]
    cases Json.member? key ms <;> simp

/-- Null is no number. -/
theorem overflows_null (s : Shape) : overflows s .null = false := by
  induction s using Shape.induction with
  | nullable s ih => rw [overflows, ih]
  | primitive k => cases k <;> rfl
  | _ => rfl

end Shape

namespace Target.Rust

/-! ### What is read as a type -/

/-- What a name stands for. -/
inductive Meaning where
  | anyValue
  | bool
  | signed64
  | float64
  | string
  | vec
  | option
  | struct (s : Struct)

/-- The names that have a meaning without a declaration. -/
def standardNames : List (String × Meaning) :=
  [("serde_json::Value", .anyValue), ("bool", .bool), ("i64", .signed64), ("f64", .float64),
   ("String", .string), ("Vec", .vec), ("Option", .option)]

/-- What a name stands for in a file, where a struct hides what has its name; nothing if two do. -/
def File.meaning? (file : File) (name : String) : Option Meaning :=
  match (file.structs.map (·.name)).count name with
  | 0 => standardNames.lookup name
  | 1 => (file.structs.find? (·.name == name)).map .struct
  | _ => none

/-- The key under which a field is looked up. -/
def StructField.wireName (f : StructField) : String :=
  f.rename.getD (unescaped f.ident)

/-- The type is an optional one. -/
def TypeExpr.isOption : TypeExpr → Bool
  | .option _ => true
  | _ => false

/--
The value is read as the type.  A struct takes from an object what it finds under the names of its
fields, and only optional fields may be missing; other members are passed over.
-/
inductive File.Reads (file : File) : TypeExpr → Value → Prop
  | anyValue {name : String} (h : file.meaning? name = some .anyValue) (v : Value) :
    Reads file (.name name) v
  | bool {name : String} (h : file.meaning? name = some .bool) (b : Bool) :
    Reads file (.name name) (.bool b)
  | signed64 {name : String} (h : file.meaning? name = some .signed64) {n : Int}
    (fits : Shape.isSigned64 n) : Reads file (.name name) (.number (.integer n))
  | float64 {name : String} (h : file.meaning? name = some .float64) (n : Number) :
    Reads file (.name name) (.number n)
  | string {name : String} (h : file.meaning? name = some .string) (s : String) :
    Reads file (.name name) (.string s)
  | vec (h : file.meaning? "Vec" = some .vec) {element : TypeExpr} {vs : List Value}
    (elements : ∀ v ∈ vs, Reads file element v) : Reads file (.vec element) (.array vs)
  | absent (h : file.meaning? "Option" = some .option) (inner : TypeExpr) :
    Reads file (.option inner) .null
  | present (h : file.meaning? "Option" = some .option) {inner : TypeExpr} {v : Value}
    (value : Reads file inner v) : Reads file (.option inner) v
  | struct {name : String} {s : Struct} (h : file.meaning? name = some (.struct s))
    {ms : List (String × Value)}
    (found : ∀ f ∈ s.fields, ∀ v, Json.member? f.wireName ms = some v → Reads file f.type v)
    (missing : ∀ f ∈ s.fields, Json.member? f.wireName ms = none → f.type.isOption) :
    Reads file (.name name) (.object ms)

section Reads

variable {file : File}

/-- The names of the structs differ from each other, and from the standard ones. -/
structure File.NamesApart (file : File) : Prop where
  nodup : (file.structs.map (·.name)).Nodup
  standard : ∀ name ∈ file.structs.map (·.name), name ∉ standardNames.map (·.1)

theorem File.NamesApart.meaning?_struct (h : file.NamesApart) {s : Struct}
    (hs : s ∈ file.structs) : file.meaning? s.name = some (.struct s) := by
  have hcount := List.count_eq_one_of_mem h.nodup (List.mem_map_of_mem hs)
  have hfind := (Keyed.find?_eq_some_iff h.nodup).2 ⟨hs, rfl⟩
  rw [File.meaning?, hcount]
  exact congrArg (Option.map Meaning.struct) hfind

theorem File.NamesApart.meaning?_standard (h : file.NamesApart) {name : String} {meaning : Meaning}
    (hname : standardNames.lookup name = some meaning) : file.meaning? name = some meaning := by
  have hcount : (file.structs.map (·.name)).count name = 0 := by
    rw [List.count_eq_zero]
    intro hmem
    obtain ⟨before, after, hsplit, -⟩ := List.lookup_eq_some_iff.1 hname
    apply h.standard name hmem
    rw [hsplit, List.map_append]
    exact List.mem_append_right _ List.mem_cons_self
  rw [File.meaning?, hcount]
  exact hname

theorem reads_anyValue (h : file.NamesApart) (v : Value) :
    file.Reads (.name "serde_json::Value") v :=
  .anyValue (h.meaning?_standard rfl) v

theorem reads_option_iff (h : file.NamesApart) {t : TypeExpr} {v : Value} :
    file.Reads (.option t) v ↔ v.isNull ∨ file.Reads t v := by
  have hoption : file.meaning? "Option" = some .option := h.meaning?_standard rfl
  constructor
  · intro hv
    cases hv with
    | absent => exact .inl rfl
    | present _ hv => exact .inr hv
  · rintro (hv | hv)
    · rw [Value.isNull_iff.1 hv]
      exact .absent hoption t
    · exact .present hoption hv

theorem reads_orAbsent_iff (h : file.NamesApart) {t : TypeExpr} {v : Value} :
    file.Reads t.orAbsent v ↔ v.isNull ∨ file.Reads t v := by
  cases t with
  | option t =>
    rw [TypeExpr.orAbsent, reads_option_iff h]
    exact ⟨.inr, fun hv => hv.elim .inl id⟩
  | name | vec => exact reads_option_iff h

theorem reads_vec_iff (h : file.NamesApart) {t : TypeExpr} {vs : List Value} :
    file.Reads (.vec t) (.array vs) ↔ ∀ v ∈ vs, file.Reads t v := by
  have hvec : file.meaning? "Vec" = some .vec := h.meaning?_standard rfl
  constructor
  · intro hv
    cases hv with
    | vec _ hvs => exact hvs
  · exact .vec hvec

theorem reads_signed64_iff (h : file.NamesApart) {n : Int} :
    file.Reads (.name "i64") (.number (.integer n)) ↔ Shape.isSigned64 n := by
  have hi64 : file.meaning? "i64" = some .signed64 := h.meaning?_standard rfl
  constructor
  · intro hv
    cases hv with
    | signed64 _ hn => exact hn
    | anyValue hname | float64 hname =>
      rw [hi64] at hname
      cases hname
  · exact .signed64 hi64

/-- A kind reads what it accepts, apart from numbers that are too large. -/
theorem reads_kind_iff (h : file.NamesApart) {k : Primitive} {v : Value} (hacc : k.accepts v) :
    file.Reads (.name (kindName k)) v ↔ Shape.overflows (.primitive k) v = false := by
  cases k with
  | null => exact iff_of_true (reads_anyValue h v) rfl
  | bool =>
    cases v <;> try (cases hacc; done)
    exact iff_of_true (.bool (h.meaning?_standard rfl) _) rfl
  | integer =>
    cases v with
    | number n =>
      cases n with
      | float x => simp [Primitive.accepts, Shape.ofNumber] at hacc
      | integer n =>
        rw [Shape.overflows, Bool.not_eq_false']
        exact reads_signed64_iff h
    | _ => cases hacc
  | float =>
    cases v <;> try (cases hacc; done)
    exact iff_of_true (.float64 (h.meaning?_standard rfl) _) rfl
  | string =>
    cases v <;> try (cases hacc; done)
    exact iff_of_true (.string (h.meaning?_standard rfl) _) rfl

theorem reads_struct_iff (h : file.NamesApart) {s : Struct} (hs : s ∈ file.structs)
    {ms : List (String × Value)} :
    file.Reads (.name s.name) (.object ms) ↔ ∀ f ∈ s.fields,
      (∀ v, Json.member? f.wireName ms = some v → file.Reads f.type v) ∧
        (Json.member? f.wireName ms = none → f.type.isOption) := by
  have hmeaning := h.meaning?_struct hs
  constructor
  · intro hv f hf
    cases hv with
    | anyValue hname =>
      rw [hmeaning] at hname
      cases hname
    | struct hname hfound hmissing =>
      rw [hmeaning] at hname
      cases hname
      exact ⟨hfound f hf, hmissing f hf⟩
  · intro hv
    exact .struct hmeaning (fun f hf => (hv f hf).1) fun f hf => (hv f hf).2

end Reads

/-! ### The structs of a graph -/

/-- The field of a member is looked up under the member's key. -/
theorem wireName_of (asNullable : Bool) (reference : Nat → String) (m : Naming.Member) :
    (StructField.of asNullable reference m).wireName = m.key := by
  unfold StructField.wireName StructField.of
  simp only
  split
  · rename_i h
    exact h
  · rfl

/-- A member that is optional has an optional type. -/
theorem isOption_of (asNullable : Bool) (reference : Nat → String) {m : Naming.Member}
    (h : m.optional) : (StructField.of asNullable reference m).type.isOption := by
  simp only [StructField.of, h, if_true]
  cases TypeExpr.of reference m.type <;> rfl

section Graph

open Naming (Declares Denotes Makes)
open Shape (accepts overflows fieldAccepts)

variable {settings : Settings} {graph : Naming.Graph} {objects : List (List Field)}
  (hgraph : Declares objects 0 graph.declarations objects)
  (hnames : (File.of settings graph).NamesApart)

include hgraph hnames

omit hgraph in
/-- A field takes what is found under the key, or that nothing is, if all else does. -/
theorem takes_iff_of_makes {m : Naming.Member} {f : Field} (hm : Makes objects m f)
    {v? : Option Value} (hacc : fieldAccepts f v?)
    (ih : ∀ v, accepts f.shape v →
      ((File.of settings graph).Reads (TypeExpr.of graph.nameOf m.type) v
        ↔ overflows f.shape v = false)) :
    let field := StructField.of settings.optionalAsNullable graph.nameOf m
    ((∀ v, v? = some v → (File.of settings graph).Reads field.type v) ∧
      (v? = none → field.type.isOption)) ↔ ∀ v, v? = some v → overflows f.shape v = false := by
  intro field
  cases v? with
  | none =>
    rw [Shape.fieldAccepts_none, ← hm.optional] at hacc
    have hoption : field.type.isOption := isOption_of _ _ hacc
    simp [hoption]
  | some v =>
    suffices h : (File.of settings graph).Reads field.type v ↔ overflows f.shape v = false by
      simpa using h
    rw [Shape.fieldAccepts_some] at hacc
    cases ho : m.optional with
    | false =>
      have htype : field.type = TypeExpr.of graph.nameOf m.type := by
        simp only [field, StructField.of, ho]
        rfl
      rw [← hm.optional, ho] at hacc
      rw [htype]
      exact ih v (hacc.resolve_right (by simp))
    | true =>
      have htype : field.type = (TypeExpr.of graph.nameOf m.type).orAbsent := by
        simp only [field, StructField.of, ho]
        rfl
      rw [htype, reads_orAbsent_iff hnames]
      cases hnull : v.isNull with
      | true =>
        rw [Value.isNull_iff.1 hnull]
        exact iff_of_true (.inl rfl) (Shape.overflows_null f.shape)
      | false =>
        rw [hnull] at hacc
        simpa using ih v (hacc.resolve_right (by simp))

/-- **A type reads what its shape accepts**, apart from numbers that are too large. -/
theorem reads_iff_of_denotes (s : Shape) : ∀ (t : Naming.TypeRef) (v : Value),
    Denotes objects t s → s.accepts v →
    ((File.of settings graph).Reads (TypeExpr.of graph.nameOf t) v ↔ s.overflows v = false) := by
  induction s using Shape.induction with
  | unknown =>
    intro t v _ hacc
    cases hacc
  | primitive k =>
    rintro t v ⟨⟩ hacc
    exact reads_kind_iff hnames hacc
  | array e ih =>
    intro t v ht hacc
    cases ht with
    | @array t _ ht =>
      cases v with
      | array vs =>
        rw [Shape.accepts, List.all_eq_true] at hacc
        rw [TypeExpr.of, reads_vec_iff hnames, Shape.overflows, List.any_eq_false]
        refine forall₂_congr fun v hv => ?_
        rw [ih t v ht (hacc v hv), Bool.not_eq_true]
      | _ => simp [accepts] at hacc
  | nullable s ih =>
    intro t v ht hacc
    cases ht with
    | @nullable t _ ht =>
      rw [TypeExpr.of, reads_orAbsent_iff hnames, overflows]
      cases hnull : v.isNull with
      | true =>
        rw [Value.isNull_iff.1 hnull]
        exact iff_of_true (.inl rfl) (Shape.overflows_null s)
      | false =>
        rw [accepts, hnull, Bool.false_or] at hacc
        simpa using ih t v ht hacc
  | union as ih =>
    rintro t v ⟨⟩ hacc
    exact iff_of_true (reads_anyValue hnames v) rfl
  | object fs ih =>
    intro t v ht hacc
    cases ht with
    | @declared id _ place =>
      obtain ⟨d, hd, hmembers⟩ := exists_getElem?_of_forall₂ hgraph.members place
      have hmem := List.mem_of_getElem? hd
      have hname : graph.nameOf id = d.name := by
        rw [← hgraph.id_eq hd]
        exact hgraph.ascending.nameOf_eq hmem
      have hstruct :
          Struct.of settings.optionalAsNullable graph d ∈ (File.of settings graph).structs :=
        List.mem_map_of_mem hmem
      cases v with
      | object ms =>
        rw [accepts, Bool.and_eq_true, Shape.fieldsAccept_iff] at hacc
        rw [TypeExpr.of, hname, overflows, Shape.fieldsOverflow_eq_false_iff]
        refine (reads_struct_iff hnames hstruct).trans ?_
        rw [Struct.of, List.forall_mem_map]
        refine forall_mem_iff_of_forall₂ hmembers fun m f hf hm => ?_
        rw [wireName_of, hm.key]
        exact takes_iff_of_makes hnames hm (hacc.2 f hf) fun v => ih f hf m.type v hm.type
      | _ => simp [accepts] at hacc

end Graph

/-! ### Samples -/

/-- No declaration has the name of a standard type, as far as one can be an identifier. -/
theorem notMem_standardNames {settings : Settings} (s : Shape) :
    ∀ d ∈ (settings.graph .rust s).declarations, d.name ∉ standardNames.map (·.1) := by
  intro d hd hmem
  have hreserved := (Naming.typeNames_resolve (settings.naming .rust) s settings.rootName).1
    |>.notMem_reserved d hd
  have hident :=
    Naming.identText_of_mem_declarations (settings.naming .rust) s settings.rootName d hd
  have hcases : ∀ name ∈ standardNames.map (·.1),
      ¬ Text.IdentText name ∨ name ∈ Language.rust.reservedTypeNames := by
    decide +kernel
  rcases hcases d.name hmem with hno | hyes
  · exact hno hident
  · exact hreserved hyes

theorem namesApart_of_object (settings : Settings) (fields : List Field) :
    (File.of settings (settings.graph .rust (.object fields))).NamesApart := by
  have hnames : (File.of settings (settings.graph .rust (.object fields))).structs.map (·.name)
      = (settings.graph .rust (.object fields)).declarations.map (·.name) := by
    rw [File.of, List.map_map]
    rfl
  obtain ⟨htype, hforest⟩ :=
    Naming.typeNames_resolve (settings.naming .rust) (.object fields) settings.rootName
  constructor
  · rw [hnames]
    exact htype.nodup_iff.2 hforest
  · rw [hnames, List.forall_mem_map]
    exact notMem_standardNames (.object fields)

/-- The struct of the root reads what the shape accepts, apart from numbers that are too large. -/
theorem reads_root_iff (settings : Settings) (fields : List Field) :
    let graph := settings.graph .rust (.object fields)
    (∃ s, (File.of settings graph).meaning? graph.rootName = some (.struct s)) ∧
      ∀ v, Shape.accepts (.object fields) v →
        ((File.of settings graph).Reads (.name graph.rootName) v
          ↔ Shape.overflows (.object fields) v = false) := by
  intro graph
  have hnames := namesApart_of_object settings fields
  obtain ⟨objects, -, -, hroot, hgraph⟩ :=
    Naming.declares_resolve (settings.naming .rust) (.object fields) settings.rootName
  obtain ⟨hzero, hname⟩ :=
    Naming.resolve_object (settings.naming .rust) fields settings.rootName
  have htype : TypeExpr.of graph.nameOf graph.root = .name graph.rootName := by
    show TypeExpr.of _ (Naming.Context.resolve _ _ _).1.root = _
    rw [hzero]
    exact congrArg TypeExpr.name hname
  constructor
  · rw [hzero] at hroot
    cases hroot with
    | declared place =>
      obtain ⟨d, hd, -⟩ := exists_getElem?_of_forall₂ hgraph.members place
      have hmem := List.mem_of_getElem? hd
      have hroot : graph.rootName = d.name := by
        refine hname.symm.trans ?_
        rw [← hgraph.id_eq hd]
        exact hgraph.ascending.nameOf_eq hmem
      rw [hroot]
      exact ⟨_, hnames.meaning?_struct (List.mem_map_of_mem hmem)⟩
  · intro v hacc
    rw [← htype]
    exact reads_iff_of_denotes hgraph hnames _ _ v hroot hacc

/--
**The structs read their samples.**  For samples whose shape is an object, the struct of the root's
name reads each of them, unless an integer beyond the signed 64 bits stands in it where the shape
has an integer.
-/
theorem reads_samples_iff (settings : Settings) (h : settings.check = .ok .rust)
    (samples : List Value) (hkeys : ∀ v ∈ samples, v.DistinctKeys) (fields : List Field)
    (hshape : Shape.ofSamples samples = .object fields) :
    let graph := settings.graph .rust (Shape.ofSamples samples)
    (∃ warnings, settings.convert samples = .ok ⟨(File.of settings graph).text, warnings⟩) ∧
      (∃ s, (File.of settings graph).meaning? graph.rootName = some (.struct s)) ∧
      ∀ v ∈ samples, ((File.of settings graph).Reads (.name graph.rootName) v
        ↔ (Shape.ofSamples samples).overflows v = false) := by
  intro graph
  have haccepts : ∀ v ∈ samples, (Shape.ofSamples samples).accepts v :=
    Shape.accepts_foldl_observe_of_mem .unknown hkeys fun v hv => Shape.accepts_ofValue (hkeys v hv)
  have hroot := reads_root_iff settings fields
  rw [← hshape] at hroot
  exact ⟨Settings.convertShape_of_check h _, hroot.1, fun v hv => hroot.2 v (haccepts v hv)⟩

/-- Samples with optional and nested parts, and the largest integer there is room for. -/
theorem reads_samples_with_largest_integer :
    let settings : Settings := { targetLanguage := "rs", convention := .snake }
    let first : Value := .object [("maxValue", .number (.integer 9223372036854775807)),
      ("type", .array [.null, .object [("a", .string "x")]])]
    let second : Value := .object [("maxValue", .null), ("type", .array [])]
    let graph := settings.graph .rust (Shape.ofSamples [first, second])
    (File.of settings graph).Reads (.name graph.rootName) first := by
  intro settings first second graph
  have hcheck : settings.check = .ok .rust := by
    decide +kernel
  have hshape : Shape.ofSamples [first, second] =
      .object [⟨"maxValue", .primitive .integer, true⟩,
        ⟨"type", .array (.nullable (.object [⟨"a", .primitive .string, false⟩])), false⟩] := by
    cbv
  have hreads := (reads_samples_iff settings hcheck [first, second] (by decide) _ hshape).2.2
  refine (hreads first List.mem_cons_self).2 ?_
  rw [hshape]
  decide

/-- An integer beyond the signed 64 bits is not read into the field that is written for it. -/
theorem not_reads_sample_with_larger_integer :
    let settings : Settings := { targetLanguage := "rust" }
    let sample : Value := .object [("a", .number (.integer 9223372036854775808))]
    let graph := settings.graph .rust (Shape.ofSamples [sample])
    settings.check = .ok .rust ∧ sample.DistinctKeys ∧
      Shape.ofSamples [sample] = .object [⟨"a", .primitive .integer, false⟩] ∧
      ¬ (File.of settings graph).Reads (.name graph.rootName) sample := by
  intro settings sample graph
  have hshape : Shape.ofSamples [sample] = .object [⟨"a", .primitive .integer, false⟩] := by
    cbv
  refine ⟨by decide +kernel, by decide, hshape, ?_⟩
  have hroot := (reads_root_iff settings [⟨"a", .primitive .integer, false⟩]).2 sample (by decide)
  show ¬ (File.of settings (settings.graph .rust (Shape.ofSamples [sample]))).Reads
    (.name (settings.graph .rust (Shape.ofSamples [sample])).rootName) sample
  rw [hshape, hroot]
  decide

end Target.Rust

end SampleTypes
