import SampleTypes.Proofs.Target.JsonNames
import SampleTypes.Proofs.Target.Lines
import SampleTypes.Proofs.Target.RootAlias

/-!
# Directives of C#

A C# file has a directive for lists just if the type of a member or the comment for the root has a
list in it, and one for attributes just if a member has an attribute.

* `anyPropertyOf_iff_of_listed`: what nested declarations use is what their members use, one
  declaration after the other;
* `noLineOpens_text` goes through a declaration and those inside it: no line begins as a directive,
  so that `File.hasLine_text_iff` leaves the directives themselves;
* `importsMatch` is the main result.
-/

namespace SampleTypes.Target.CSharp

open Naming (Declaration Graph Member TypeRef)
open Text (IdentText)

/-! ### What is used -/

/-- A property of listed declarations is one of a declaration that is listed. -/
theorem anyPropertyOf_iff_of_listed {p : Property → Bool} {depth : Nat}
    {ds : List TypeDeclaration} {entries : List (Nat × TypeDeclaration)}
    (h : Listed (·.nested) depth ds entries) :
    TypeDeclaration.anyPropertyOf p ds ↔ ∃ e ∈ entries, ∃ q ∈ e.2.properties, p q := by
  induction h with
  | nil => simp [TypeDeclaration.anyPropertyOf]
  | @cons depth d ds deeper rest _ _ ihBelow ihAfter =>
    obtain ⟨name, properties, nested⟩ := d
    rw [TypeDeclaration.anyPropertyOf, TypeDeclaration.anyProperty, Bool.or_eq_true,
      Bool.or_eq_true, ihBelow, ihAfter, List.any_eq_true, List.exists_mem_cons_iff]
    simp only [List.mem_append, or_and_right, exists_or, or_assoc]

theorem lt_notMem_text {t : TypeExpr} (hnames : ∀ name ∈ t.names, IdentText name)
    (h : t.usesList = false) : '<' ∉ t.text.toList := by
  induction t with
  | name text =>
    rw [TypeExpr.names, List.forall_mem_singleton] at hnames
    exact notMem_of_identText hnames (by decide)
  | list element => cases h
  | nullable inner ih =>
    rw [TypeExpr.text, String.toList_append, List.mem_append, not_or]
    exact ⟨ih hnames h, by decide⟩

/-- A list is used where the text has one. -/
theorem infix_list_iff {t : TypeExpr} (hnames : ∀ name ∈ t.names, IdentText name) :
    "List<".toList <:+: t.text.toList ↔ t.usesList := by
  constructor
  · intro h
    by_contra hnone
    exact lt_notMem_text hnames (Bool.eq_false_of_not_eq_true hnone) (h.subset (by decide))
  · intro h
    induction t with
    | name text => cases h
    | list element _ =>
      exact toList_infix_left (toList_infix_left (List.infix_refl _) _) _
    | nullable inner ih => exact toList_infix_left (ih hnames h) _

/-- The text of a member has the attribute just if it has a name in it. -/
theorem infix_attribute_iff {p : Property} (hnames : ∀ name ∈ p.type.names, IdentText name)
    (hident : IdentText p.ident) (kind : DeclarationKind) (level : Nat) :
    (attributeOpening kind).toList <:+: (p.text kind level).toList ↔ p.jsonName.isSome := by
  cases hname : p.jsonName with
  | some key =>
    obtain ⟨rest, htext⟩ := Property.text_of_some hname kind level
    rw [htext]
    exact iff_of_true (toList_infix_right (toList_prefix_append _ _).isInfix _) rfl
  | none =>
    refine iff_of_false (fun h => ?_) (by simp)
    have hopening : '[' ∈ (attributeOpening kind).toList := by
      cases kind <;> decide
    have hindent : '[' ∉ (indent level 4).toList := by
      rw [indent, String.toList_ofList]
      exact fun hmem => absurd (List.eq_of_mem_replicate hmem) (by decide)
    have hown : '[' ∉ (modifier kind).toList ∧ '[' ∉ (accessors kind).toList := by
      cases kind <;> decide
    have htype : '[' ∉ p.type.text.toList := TypeExpr.notMem_text hnames (by decide) (by decide)
    have hchars : '[' ∉ p.ident.toList := notMem_of_identText hident (by decide)
    have hmem := h.subset hopening
    rw [Property.text_of_none hname] at hmem
    simp only [String.toList_append, List.mem_append] at hmem
    rcases hmem with ((((hmem | hmem) | hmem) | hmem) | hmem) | hmem
    · exact hindent hmem
    · exact hown.1 hmem
    · exact htype hmem
    · exact absurd hmem (by decide)
    · exact hchars hmem
    · exact hown.2 hmem

/-! ### Lines -/

theorem newline_notMem_literalChar (c : Char) : '\n' ∉ literalChar c := by
  have hlow : ∀ n < 0xA0, '\n' ∉ literalChar (Char.ofNat n) := by
    decide +kernel
  rcases Nat.lt_or_ge c.toNat 0xA0 with h | h
  · have hc := hlow c.toNat h
    rwa [Char.ofNat_toNat] at hc
  · rw [literalChar_of_le h, List.mem_singleton]
    rintro rfl
    exact absurd h (by decide)

/-- A string literal stands on one line. -/
theorem newline_notMem_stringLiteral (s : String) : '\n' ∉ (stringLiteral s).toList := by
  rw [stringLiteral, String.toList_ofList]
  simp only [List.mem_append, List.mem_cons, List.mem_flatMap, not_or, not_exists, not_and]
  exact ⟨⟨by decide, fun c _ => newline_notMem_literalChar c⟩, by decide, by simp⟩

/-- The member is written in lines that are indented. -/
theorem Property.noLineOpens_text {p : Property} (hnames : ∀ name ∈ p.type.names, IdentText name)
    (hident : IdentText p.ident) (kind : DeclarationKind) (level : Nat) :
    NoLineOpens 'u' (p.text kind (level + 1)) := by
  have htype : '\n' ∉ p.type.text.toList := TypeExpr.notMem_text hnames (by decide) (by decide)
  have hchars : '\n' ∉ p.ident.toList := notMem_of_identText hident (by decide)
  have hblank : 'u' ≠ ' ' := by
    decide
  cases hname : p.jsonName with
  | none =>
    have hown : '\n' ∉ (modifier kind).toList ∧ '\n' ∉ (accessors kind).toList := by
      cases kind <;> decide
    rw [Property.text_of_none hname]
    simp only [String.append_assoc]
    apply noLineOpens_indent_append hblank
    simp only [String.toList_append, List.mem_append, not_or]
    exact ⟨hown.1, htype, by decide, hchars, hown.2⟩
  | some key =>
    have hkey := newline_notMem_stringLiteral key
    have hparameter : NoLineOpens 'u' (p.parameterText (level + 1)) := by
      rw [Property.parameterText_of_some hname]
      apply noLineOpens_indent_append hblank
      simp only [String.toList_append, List.mem_append, not_or]
      exact ⟨by decide, hkey, by decide, ⟨⟨by decide, htype⟩, by decide⟩, hchars⟩
    have hmember : NoLineOpens 'u' (p.memberText (level + 1)) := by
      have hlines : p.memberText (level + 1)
          = indent (level + 1) 4 ++ ("[JsonPropertyName(" ++ (stringLiteral key ++ ")]")) ++ "\n"
            ++ (indent (level + 1) 4 ++ ("public " ++ p.type.text ++ " " ++ p.ident
              ++ " \x7b get; set; \x7d")) := by
        rw [Property.memberText_of_some hname]
        simp only [String.append_assoc]
      rw [hlines]
      refine ((noLineOpens_indent_append hblank level ?_).append (by decide)).append
        (noLineOpens_indent_append hblank level ?_)
      · simp only [String.toList_append, List.mem_append, not_or]
        exact ⟨by decide, hkey, by decide⟩
      · simp only [String.toList_append, List.mem_append, not_or]
        exact ⟨⟨⟨⟨by decide, htype⟩, by decide⟩, hchars⟩, by decide⟩
    cases kind with
    | record => exact hparameter
    | plainClass | struct => exact hmember

/-- The names in a declaration, but for those inside it, may stand in identifiers. -/
structure TypeDeclaration.Named (d : TypeDeclaration) : Prop where
  name : IdentText d.name
  types : ∀ p ∈ d.properties, ∀ name ∈ p.type.names, IdentText name
  idents : ∀ p ∈ d.properties, IdentText p.ident

/-- **No line of a declaration begins as a directive**, if none of those inside it does. -/
theorem noLineOpens_text {d : TypeDeclaration} (h : d.Named) (kind : DeclarationKind)
    (level : Nat) (hinside : ∀ c ∈ d.nested, NoLineOpens 'u' (c.text kind (level + 1))) :
    NoLineOpens 'u' (d.text kind level) := by
  have hname : '\n' ∉ d.name.toList := notMem_of_identText h.name (by decide)
  have hpad : NoLineOpens 'u' (indent level 4) := noLineOpens_indent (by decide) level 4
  have hinside : ∀ part ∈ d.nested.map (TypeDeclaration.text kind (level + 1)),
      NoLineOpens 'u' part := List.forall_mem_map.2 hinside
  have hproperty : ∀ p ∈ d.properties, NoLineOpens 'u' (p.text kind (level + 1)) :=
    fun p hp => p.noLineOpens_text (h.types p hp) (h.idents p hp) kind level
  rw [text_eq]
  split
  · rename_i hrecord
    subst hrecord
    have hparameters : ∀ part ∈ d.properties.map (Property.parameterText (level + 1)),
        NoLineOpens 'u' part := List.forall_mem_map.2 hproperty
    have hopening : NoLineOpens 'u' (indent level 4 ++ "public record" ++ " ") :=
      (hpad.append (by decide)).append (by decide)
    have hrecord : "public record " = "public record" ++ " " := rfl
    unfold recordText
    dsimp only
    rw [hrecord, ← String.append_assoc]
    refine ((((hopening.append_blank hname).append (by decide)).append ?_).append
      (by decide)).append ?_
    · split
      · decide
      · exact (((by decide : NoLineOpens 'u' "\n").append
          (noLineOpens_intercalate (by decide) hparameters)).append (by decide)).append hpad
    · split
      · decide
      · exact (((((by decide : NoLineOpens 'u' "\n").append hpad).append (by decide)).append
          (noLineOpens_intercalate (by decide) hinside)).append (by decide)).append hpad |>.append
          (by decide)
  · rename_i hkind
    have hmembers : ∀ part ∈ d.properties.map (Property.memberText (level + 1)),
        NoLineOpens 'u' part := by
      rw [List.forall_mem_map]
      intro p hp
      have hmember := hproperty p hp
      cases kind with
      | record => exact absurd rfl hkind
      | plainClass | struct => exact hmember
    have hword : NoLineOpens 'u' (keyword kind) := by
      cases kind <;> decide
    have hopening : NoLineOpens 'u' (indent level 4 ++ "public " ++ keyword kind ++ " ") :=
      ((hpad.append (by decide)).append hword).append (by decide)
    have hend : ∀ b : Bool, NoLineOpens 'u' (if b then "" else "\n") := by
      decide
    unfold classText
    dsimp only
    refine (((((hopening.append_blank hname).append (by decide)).append hpad).append
      (by decide)).append (noLineOpens_intercalate (by decide) ?_)).append (hend _) |>.append hpad
      |>.append (by decide)
    rw [List.forall_mem_append]
    refine ⟨hinside, ?_⟩
    split
    · rintro part ⟨⟩
    · rw [List.forall_mem_singleton]
      exact noLineOpens_intercalate (by decide) hmembers

/-! ### Directives -/

theorem mem_usings_iff {file : File} {line : String} :
    line ∈ file.usings ↔ (line = "using System.Collections.Generic;" ∧ file.usesLists) ∨
      (line = "using System.Text.Json.Serialization;" ∧ file.usesAttributes) := by
  rw [File.usings, List.mem_append]
  cases file.usesLists <;> cases file.usesAttributes <;> simp

/-- **The lines of a file** are its directives, the lines of its declarations, and its comment. -/
theorem File.hasLine_text_iff (file : File) {line : String} (hne : line ≠ "") :
    HasLine file.text line ↔ line ∈ file.usings ∨
      (∃ d ∈ file.declarations, HasLine (d.text file.kind 0) line) ∨
        ∃ c ∈ file.rootComment, HasLine ("// " ++ c.1 ++ ": " ++ c.2.text) line := by
  have husings : ∀ u ∈ file.usings, HasLine u line ↔ line = u := by
    intro u hu
    apply hasLine_iff_eq
    rcases mem_usings_iff.1 hu with ⟨rfl, -⟩ | ⟨rfl, -⟩ <;> decide
  have hdirectives : (∃ part ∈ (if file.usings.isEmpty then []
      else ["\n".intercalate file.usings]), HasLine part line) ↔ line ∈ file.usings := by
    split
    · rename_i hempty
      rw [List.isEmpty_iff.1 hempty]
      simp
    · simp only [List.mem_singleton, exists_eq_left]
      rw [hasLine_intercalate_iff hne hasLine_append_newline_iff]
      constructor
      · rintro ⟨u, hu, hlines⟩
        rwa [(husings u hu).1 hlines]
      · exact fun hmem => ⟨line, hmem, (husings line hmem).2 rfl⟩
  rw [File.text]
  dsimp only
  rw [hasLine_append_end_iff hne, hasLine_intercalate_iff hne (hasLine_append_blank_line_iff hne),
    texts_eq_map]
  simp only [List.mem_append, or_and_right, exists_or, or_assoc]
  rw [hdirectives]
  simp

/-! ### Graphs -/

theorem eq_of_mem_rootComment {settings : Settings} {graph : Graph} {c : String × TypeExpr}
    (h : c ∈ (File.of settings graph).rootComment) :
    c = (graph.rootName, TypeExpr.of graph.nameOf graph.root) := by
  have hcomment : (File.of settings graph).rootComment = if graph.needsAlias then
      some (graph.rootName, TypeExpr.of graph.nameOf graph.root) else none := rfl
  rw [hcomment] at h
  split at h
  · exact (Option.some.inj h).symm
  · cases h

section Graph

variable {settings : Settings} {graph : Graph} {block : Declaration → TypeDeclaration}
  (hblocks : Blocks (form settings.declarationKind) settings graph (settings.topLevel graph)
    (File.of settings graph).declarations (File.of settings graph).text block)
  (hproperties : ∀ d ∈ graph.declarations,
    (block d).properties = d.members.map (Property.of (settings.header graph)))

include hblocks hproperties

/-- What the declarations of a file use is what the members of the graph do. -/
theorem anyPropertyOf_iff (p : Property → Bool) :
    TypeDeclaration.anyPropertyOf p (File.of settings graph).declarations ↔
      ∃ d ∈ graph.declarations, ∃ m ∈ d.members, p (Property.of (settings.header graph) m) := by
  obtain ⟨entries, hlisted, hperm⟩ := hblocks.once
  rw [anyPropertyOf_iff_of_listed hlisted]
  constructor
  · rintro ⟨e, he, q, hq, hp⟩
    obtain ⟨d, hd, rfl⟩ := List.mem_map.1 (hperm.subset he)
    rw [hproperties d hd] at hq
    obtain ⟨m, hm, rfl⟩ := List.mem_map.1 hq
    exact ⟨d, hd, m, hm, hp⟩
  · rintro ⟨d, hd, m, hm, hp⟩
    refine ⟨_, hperm.symm.subset (List.mem_map_of_mem hd), _, ?_, hp⟩
    rw [hproperties d hd]
    exact List.mem_map_of_mem hm

variable (hheader : ∀ id, IdentText (settings.header graph id))
  (hidents : ∀ d ∈ graph.declarations, ∀ m ∈ d.members, IdentText m.ident)

include hheader hidents

/-- No line of a declaration of the graph begins as a directive. -/
theorem noLineOpens_declarations : ∀ d ∈ (File.of settings graph).declarations,
    NoLineOpens 'u' (d.text settings.declarationKind 0) := by
  obtain ⟨entries, hlisted, hperm⟩ := hblocks.once
  refine hlisted.forall_of_step (Q := TypeDeclaration.Named)
    (P := fun level d => NoLineOpens 'u' (d.text settings.declarationKind level))
    (fun level d hd hinside => noLineOpens_text hd settings.declarationKind level hinside) ?_
  intro e he
  obtain ⟨d, hd, rfl⟩ := List.mem_map.1 (hperm.subset he)
  have hname : (block d).name = settings.header graph d.id := hblocks.name d hd
  constructor
  · rw [hname]
    exact hheader d.id
  · rw [hproperties d hd, List.forall_mem_map]
    intro m _
    rw [Property.names_type]
    exact identText_of_mem_names hheader m.type
  · rw [hproperties d hd, List.forall_mem_map]
    exact hidents d hd

/-- A line with the letter of the directives is one of them. -/
theorem hasLine_directive_iff (hroot : IdentText graph.rootName)
    (hnames : ∀ id, IdentText (graph.nameOf id)) {line : String}
    (hline : line.toList.head? = some 'u') :
    HasLine (File.of settings graph).text line ↔ line ∈ (File.of settings graph).usings := by
  have hne : line ≠ "" := by
    rintro rfl
    cases hline
  rw [File.hasLine_text_iff _ hne, or_iff_left]
  rintro (⟨d, hd, hlines⟩ | ⟨c, hc, hlines⟩)
  · exact (noLineOpens_declarations hblocks hproperties hheader hidents d hd).not_hasLine hline
      hlines
  · have hcomment : c = (graph.rootName, TypeExpr.of graph.nameOf graph.root) := by
      exact eq_of_mem_rootComment hc
    have hopens : NoLineOpens 'u' ("// " ++ c.1 ++ ": " ++ c.2.text) := by
      have hroot : '\n' ∉ graph.rootName.toList := notMem_of_identText hroot (by decide)
      have htype : '\n' ∉ (TypeExpr.of graph.nameOf graph.root).text.toList :=
        TypeExpr.notMem_text (identText_of_mem_names hnames graph.root) (by decide) (by decide)
      subst hcomment
      refine noLineOpens_of_notMem ?_ ?_
      · simp only [String.toList_append, List.mem_append, not_or]
        exact ⟨⟨⟨by decide, hroot⟩, by decide⟩, htype⟩
      · simp
    exact hopens.not_hasLine hline hlines

end Graph

/-- The directives of a text are those for what the members and the comment use. -/
structure ImportsMatch (settings : Settings) (graph : Graph) (text : String) : Prop where
  lists : HasLine text "using System.Collections.Generic;" ↔
    (∃ d ∈ graph.declarations, ∃ m ∈ d.members,
      "List<".toList <:+: (Property.of (settings.header graph) m).type.text.toList) ∨
    ∃ comment ∈ Language.csharp.alias? settings graph, "List<".toList <:+: comment.toList
  attributes : HasLine text "using System.Text.Json.Serialization;" ↔
    ∃ d ∈ graph.declarations, ∃ m ∈ d.members,
      (attributeOpening settings.declarationKind).toList <:+:
        ((Property.of (settings.header graph) m).text settings.declarationKind
          ((settings.around graph d.id).length + 1)).toList

/-- A comment has a list in it just if its type does. -/
theorem exists_comment_iff {settings : Settings} {graph : Graph} (hroot : IdentText graph.rootName)
    (hnames : ∀ id, IdentText (graph.nameOf id)) :
    (∃ comment ∈ Language.csharp.alias? settings graph,
      "List<".toList <:+: comment.toList) ↔
        (File.of settings graph).rootComment.any (·.2.usesList) := by
  have htype := identText_of_mem_names hnames graph.root
  have htext : Language.csharp.aliasText graph.rootName (TypeExpr.of graph.nameOf graph.root).text
      = "// " ++ graph.rootName ++ ": " ++ (TypeExpr.of graph.nameOf graph.root).text := rfl
  have hcomment : "List<".toList <:+: (Language.csharp.aliasText graph.rootName
      (TypeExpr.of graph.nameOf graph.root).text).toList ↔
        (TypeExpr.of graph.nameOf graph.root).usesList := by
    rw [htext]
    constructor
    · intro h
      by_contra hnone
      have hlt := h.subset (show '<' ∈ "List<".toList by decide)
      simp only [String.toList_append, List.mem_append] at hlt
      rcases hlt with ((hlt | hlt) | hlt) | hlt
      · exact absurd hlt (by decide)
      · exact notMem_of_identText hroot (by decide) hlt
      · exact absurd hlt (by decide)
      · exact lt_notMem_text htype (Bool.eq_false_of_not_eq_true hnone) hlt
    · exact fun h => toList_infix_right ((infix_list_iff htype).2 h) _
  rw [Option.any_eq_true]
  constructor
  · rintro ⟨comment, hmem, hlist⟩
    obtain ⟨c, hc, rfl⟩ := Option.map_eq_some_iff.1 hmem
    refine ⟨c, hc, ?_⟩
    rw [eq_of_mem_rootComment hc] at hlist ⊢
    exact hcomment.1 hlist
  · rintro ⟨c, hc, hlist⟩
    refine ⟨_, Option.map_eq_some_iff.2 ⟨c, hc, rfl⟩, ?_⟩
    rw [eq_of_mem_rootComment hc] at hlist ⊢
    exact hcomment.2 hlist

/-- **The directives are those for what is used.** -/
theorem importsMatch {settings : Settings} {graph : Graph} {block : Declaration → TypeDeclaration}
    (hblocks : Blocks (form settings.declarationKind) settings graph (settings.topLevel graph)
      (File.of settings graph).declarations (File.of settings graph).text block)
    (hproperties : ∀ d ∈ graph.declarations,
      (block d).properties = d.members.map (Property.of (settings.header graph)))
    (hheader : ∀ id, IdentText (settings.header graph id))
    (hidents : ∀ d ∈ graph.declarations, ∀ m ∈ d.members, IdentText m.ident)
    (hroot : IdentText graph.rootName) (hnames : ∀ id, IdentText (graph.nameOf id)) :
    ImportsMatch settings graph (File.of settings graph).text := by
  have hdirective : ∀ line : String, line.toList.head? = some 'u' →
      (HasLine (File.of settings graph).text line ↔ line ∈ (File.of settings graph).usings) :=
    fun _ => hasLine_directive_iff hblocks hproperties hheader hidents hroot hnames
  have hmember : ∀ m, ∀ name ∈ (Property.of (settings.header graph) m).type.names,
      IdentText name := by
    intro m
    rw [Property.names_type]
    exact identText_of_mem_names hheader m.type
  constructor
  · have huses : (File.of settings graph).usesLists ↔
        (∃ d ∈ graph.declarations, ∃ m ∈ d.members,
          (Property.of (settings.header graph) m).type.usesList) ∨
        (File.of settings graph).rootComment.any (·.2.usesList) := by
      rw [File.usesLists, Bool.or_eq_true, anyPropertyOf_iff hblocks hproperties]
    rw [hdirective _ (by decide), mem_usings_iff, exists_comment_iff hroot hnames]
    simp only [infix_list_iff (hmember _)]
    rw [← huses]
    simp
  · have huses : (File.of settings graph).usesAttributes ↔ ∃ d ∈ graph.declarations,
        ∃ m ∈ d.members, (Property.of (settings.header graph) m).jsonName.isSome := by
      rw [File.usesAttributes, anyPropertyOf_iff hblocks hproperties]
    rw [hdirective _ (by decide), mem_usings_iff, huses]
    simp only [String.reduceEq, false_and, false_or, true_and]
    refine exists_congr fun d => and_congr_right fun hd => exists_congr fun m =>
      and_congr_right fun hm => ?_
    exact (infix_attribute_iff (hmember m) (hidents d hd m hm) _ _).symm

end SampleTypes.Target.CSharp
