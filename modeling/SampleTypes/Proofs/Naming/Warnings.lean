import SampleTypes.Proofs.Naming.LegalNames
import SampleTypes.Proofs.Naming.Visits

/-!
# Complete and exact warnings

The warnings of a walk can be told from the graph that it yields: they are those of the members, in
the order in which the walk meets them, and a member has one just if its identifier is not what the
convention alone makes of its key, or does not tell it from the others.

* `Context.objections` lists what is wrong with a key, `Context.collides` compares the identifier
  that it wants with the others of a declaration, and `Context.reason?` weighs the two;
* `Assigned` is what a member gets, and why (`assigned_memberNames`);
* `warnings_nameType` follows the walk, and `warnings_resolve` is the main result.
-/

namespace SampleTypes.Naming

open Declaration (interleave)
open List (Forall₂)
open Target (Language)

/-! ### Reasons -/

/-- The identifier that a field with the key wants. -/
def Context.candidate (cx : Context) (key : String) : String :=
  (cx.sanitize key "field").ident

/-- The identifier for a key before keywords are escaped. -/
def Context.unescaped (cx : Context) (key : String) : String :=
  let applied := cx.convention.apply key
  let word := if applied.isEmpty then cx.convention.apply "field" else applied
  if startsNumeric word then cx.convention.digitMark ++ word else word

/-- What keeps the key from being an identifier as the convention makes it. -/
def Context.objections (cx : Context) (key : String) : List Reason :=
  (if Ident.isPlain key then [] else [.illegalCharacters])
    ++ (if cx.convention.apply key = "" then [.empty] else [])
    ++ (if startsNumeric (cx.convention.apply key) then [.leadingDigit] else [])
    ++ (if cx.unescaped key ∈ cx.language.keywords then [.keyword] else [])

/--
Another member of the declaration wants the same identifier, or it is the name of the declaration
and may not be.
-/
def Context.collides (cx : Context) (d : Declaration) (key : String) : Bool :=
  1 < (d.members.map fun m => cx.candidate m.key).count (cx.candidate key)
    || (!cx.language.memberMayShareTypeName && d.name == cx.candidate key)

/-- Why a warning goes with a key in a declaration: of several objections the last one counts. -/
def Context.reason? (cx : Context) (d : Declaration) (key : String) : Option Reason :=
  if cx.collides d key then some .collision else (cx.objections key).getLast?

/-- The warning that goes with a member of a declaration. -/
def Context.warning? (cx : Context) (visit : Declaration × Member) : Option Warning :=
  (cx.reason? visit.1 visit.2.key).map (Warning.mk visit.2.key visit.2.ident)

/-! ### Objections -/

section Keys

variable (cx : Context) (key : String)

/-- The word that stands for an empty name starts with no digit. -/
theorem startsNumeric_word : startsNumeric
    (if (cx.convention.apply key).isEmpty then cx.convention.apply "field"
      else cx.convention.apply key) = startsNumeric (cx.convention.apply key) := by
  split
  · rename_i hempty
    rw [String.isEmpty_iff.1 hempty]
    cases cx.convention <;> decide +kernel
  · rfl

theorem sanitize_of_escape {escaped : String}
    (h : cx.language.escapeKeyword (cx.unescaped key) = some escaped) :
    cx.sanitize key "field" = ⟨escaped, some .keyword⟩ := by
  simp only [Context.unescaped] at h
  simp only [Context.sanitize, h]

theorem sanitize_of_notMem_keywords (h : cx.unescaped key ∉ cx.language.keywords) :
    cx.sanitize key "field" =
      ⟨cx.unescaped key,
        if startsNumeric (cx.convention.apply key) then some .leadingDigit
        else if (cx.convention.apply key).isEmpty then some .empty
        else if !Ident.isPlain key then some .illegalCharacters
        else none⟩ := by
  have hescape := Language.escapeKeyword_eq_none_iff.2 h
  simp only [Context.unescaped] at hescape
  simp only [Context.sanitize, hescape]
  simp only [Context.unescaped, startsNumeric_word]

/-- Of what there is against a key, the last counts. -/
theorem reason_sanitize : (cx.sanitize key "field").reason = (cx.objections key).getLast? := by
  rw [Context.objections]
  by_cases hkeyword : cx.unescaped key ∈ cx.language.keywords
  · obtain ⟨escaped, hescape⟩ := Language.exists_escapeKeyword_eq hkeyword
    rw [sanitize_of_escape cx key hescape, if_pos hkeyword, List.getLast?_concat]
  · rw [sanitize_of_notMem_keywords cx key hkeyword, if_neg hkeyword, List.append_nil]
    split_ifs <;> simp_all

/-- Escaping makes an identifier longer, and nothing else changes it. -/
theorem length_unescaped_le : (cx.unescaped key).length ≤ (cx.candidate key).length ∧
    (cx.unescaped key ∈ cx.language.keywords →
      (cx.unescaped key).length < (cx.candidate key).length) := by
  by_cases hkeyword : cx.unescaped key ∈ cx.language.keywords
  · obtain ⟨escaped, hescape⟩ := Language.exists_escapeKeyword_eq hkeyword
    have hlt := Language.length_escapeKeyword hescape
    rw [Context.candidate, sanitize_of_escape cx key hescape]
    exact ⟨hlt.le, fun _ => hlt⟩
  · rw [Context.candidate, sanitize_of_notMem_keywords cx key hkeyword]
    exact ⟨Nat.le_refl _, fun h => absurd h hkeyword⟩

theorem unescaped_of_apply_ne (h : cx.convention.apply key ≠ "") : cx.unescaped key =
    if startsNumeric (cx.convention.apply key) then
      cx.convention.digitMark ++ cx.convention.apply key
    else cx.convention.apply key := by
  have hempty : ¬ (cx.convention.apply key).isEmpty := by
    rwa [String.isEmpty_iff]
  simp only [Context.unescaped, if_neg hempty]

/-- There is nothing against a key that is plain and taken over as the convention makes it. -/
theorem objections_eq_nil_iff : cx.objections key = [] ↔
    Ident.isPlain key ∧ cx.candidate key = cx.convention.apply key := by
  have hnil : cx.objections key = [] ↔ Ident.isPlain key ∧ cx.convention.apply key ≠ "" ∧
      ¬ startsNumeric (cx.convention.apply key) ∧ cx.unescaped key ∉ cx.language.keywords := by
    simp [Context.objections]
  rw [hnil]
  refine and_congr_right fun _ => ⟨?_, fun hident => ?_⟩
  · rintro ⟨hne, hdigit, hkeyword⟩
    rw [Context.candidate, sanitize_of_notMem_keywords cx key hkeyword,
      unescaped_of_apply_ne cx key hne, if_neg hdigit]
  · have hne : cx.convention.apply key ≠ "" := by
      rw [← hident]
      exact (legal_sanitize cx key (by decide)).nonempty
    have hunescaped := unescaped_of_apply_ne cx key hne
    obtain ⟨hle, hlt⟩ := length_unescaped_le cx key
    rw [hident] at hle hlt
    -- a mark and an escape would each make the identifier longer than it is
    have hdigit : ¬ startsNumeric (cx.convention.apply key) := by
      intro hdigit
      have hmark : 0 < cx.convention.digitMark.length := by
        cases cx.convention <;> decide
      rw [hunescaped, if_pos hdigit, String.length_append] at hle
      omega
    rw [hunescaped, if_neg hdigit] at hlt
    refine ⟨hne, hdigit, fun hkeyword => ?_⟩
    rw [hunescaped, if_neg hdigit] at hkeyword
    exact absurd (hlt hkeyword) (Nat.lt_irrefl _)

end Keys

/-! ### The members of one declaration -/

/-- What a member gets for its key in a declaration, and why it is warned of. -/
structure Assigned (cx : Context) (d : Declaration) (c : Candidate) (key : String) : Prop where
  reason : c.reason = cx.reason? d key
  ident : cx.collides d key = false → c.ident = cx.candidate key

/-- An identifier that is not wanted twice, and is not the owner's name, is handed out as it is. -/
theorem forall₂_assignNames {convention : Ident.Convention} {wanted : List String}
    {owner : Option String} {claims : Claims} {cs : List Candidate}
    (hwanted : ∀ x, (cs.map (·.ident)).count x ≤ wanted.count x)
    (hclaimed : ∀ x ∈ claims.claimed, owner = some x ∨
      (cs.map (·.ident)).count x < wanted.count x) :
    Forall₂ (fun c' c => c'.reason
          = (if 1 < wanted.count c.ident || owner == some c.ident then some .collision
            else c.reason) ∧
        ((1 < wanted.count c.ident || owner == some c.ident) = false → c'.ident = c.ident))
      (assignNames convention wanted owner claims cs) cs := by
  have hrest : ∀ (c : Candidate) (cs : List Candidate) (x : String),
      (cs.map (·.ident)).count x ≤ ((c :: cs).map (·.ident)).count x :=
    fun c cs x => (List.sublist_cons_self _ _).count_le x
  fun_induction assignNames convention wanted owner claims cs with
  | case1 => exact .nil
  | case2 claims c cs collides reason hclaim ident ih =>
    have hrest := hrest c cs
    refine .cons ⟨rfl, fun hno => ?_⟩ (ih (fun x => ?_) fun x hx => ?_)
    · -- what is claimed is wanted by an earlier member as well
      rw [Bool.or_eq_false_iff, decide_eq_false_iff_not, beq_eq_false_iff_ne] at hno
      rcases hclaimed c.ident (List.contains_iff_mem.1 hclaim) with howner | hlt
      · exact absurd howner hno.2
      · rw [List.map_cons, List.count_cons_self] at hlt
        omega
    · exact (hrest x).trans (hwanted x)
    · exact (hclaimed x hx).imp_right (hrest x).trans_lt
  | case3 claims c cs collides reason hfree ih =>
    have hrest := hrest c cs
    refine .cons ⟨rfl, fun _ => rfl⟩ (ih (fun x => ?_) fun x hx => ?_)
    · exact (hrest x).trans (hwanted x)
    · rcases List.mem_cons.1 hx with rfl | hx
      · have hle := hwanted c.ident
        rw [List.map_cons, List.count_cons_self] at hle
        exact .inr hle
      · exact (hclaimed x hx).imp_right (hrest x).trans_lt

variable {cx : Context}

/-- **The members of a declaration are named by what their keys want**, and warned of likewise. -/
theorem assigned_memberNames {d : Declaration} {fs : List Field}
    (h : d.members.map (·.key) = fs.map (·.key)) :
    Forall₂ (fun c f => Assigned cx d c f.key) (cx.memberNames d.name (fs.map (·.key))) fs := by
  rw [← List.forall₂_map_right_iff (f := Field.key)]
  unfold Context.memberNames
  extract_lets candidates wanted owner
  have hwanted : wanted = d.members.map fun m => cx.candidate m.key := by
    simp only [wanted, candidates]
    rw [← h, List.map_map, List.map_map]
    rfl
  have howner : ∀ key, (1 < wanted.count (cx.candidate key) || owner == some (cx.candidate key))
      = cx.collides d key := by
    intro key
    rw [Context.collides, hwanted]
    simp only [owner]
    cases cx.language.memberMayShareTypeName with
    | true => rfl
    | false => simp
  refine (List.forall₂_map_right_iff.1 (forall₂_assignNames ?_ ?_)).imp ?_
  · exact fun _ => Nat.le_refl _
  · exact fun x hx => .inl (Option.mem_toList.1 hx)
  · rintro c key ⟨hreason, hident⟩
    have hcollides := howner key
    rw [Context.candidate] at hcollides
    rw [hcollides] at hreason hident
    rw [reason_sanitize] at hreason
    exact ⟨hreason, hident⟩

/-- What holds of the candidates for fields holds of the members that are made with them. -/
theorem exists_candidate_of_mem_nameFields {R : Candidate → String → Prop} {owner : String}
    {names : Names} {idents : List Candidate} {fs : List Field}
    (h : Forall₂ (fun c f => R c f.key) idents fs) :
    ∀ m ∈ (cx.nameFields owner names idents fs).result, ∃ c, m.ident = c.ident ∧ R c m.key := by
  induction h generalizing names with
  | nil =>
    rw [Context.nameFields]
    rintro m ⟨⟩
  | @cons c f idents fs hc _ ih =>
    obtain ⟨key, s, optional⟩ := f
    rw [Context.nameFields]
    simp only [Outcome.after, Outcome.map, List.headD_cons, List.tail_cons, List.forall_mem_cons]
    exact ⟨⟨c, rfl, hc⟩, ih⟩

theorem Built.exists_assigned {place : Place} {d : Declaration} (h : Built cx place d) :
    ∀ m ∈ d.members, ∃ c, m.ident = c.ident ∧ Assigned cx d c m.key := by
  obtain ⟨hin, before, after, id, fields⟩ := h
  exact exists_candidate_of_mem_nameFields (R := Assigned cx _)
    (assigned_memberNames (keys_nameFields cx _ _ _ fields))

/-- The warning for a member comes first. -/
theorem filterMap_warning?_cons {d : Declaration} {m : Member} {c : Candidate}
    (hident : m.ident = c.ident) (hc : Assigned cx d c m.key)
    (rest : List (Declaration × Member)) : ((d, m) :: rest).filterMap cx.warning?
      = c.reason.toList.map (Warning.mk m.key c.ident) ++ rest.filterMap cx.warning? := by
  rw [List.filterMap_cons, Context.warning?, ← hc.reason, hident]
  cases c.reason with
  | none => rfl
  | some reason => rfl

variable (cx) in
/-- A member has a reason to be warned of just if its key or its identifier is not as it should. -/
theorem isSome_reason?_iff (d : Declaration) (key : String) : (cx.reason? d key).isSome ↔
    ¬ Ident.isPlain key ∨ cx.candidate key ≠ cx.convention.apply key ∨ cx.collides d key := by
  unfold Context.reason?
  have hnil := objections_eq_nil_iff cx key
  cases cx.collides d key with
  | true => simp
  | false =>
    simp only [Bool.false_eq_true, if_false, or_false]
    rw [← not_and_or, ← hnil, List.getLast?_isSome]

/-! ### The warnings of a walk -/

section Walk

variable (cx)

mutual

/-- **The warnings of a walk are those of what it declares**, in the order of the walk. -/
theorem warnings_nameType (place : Place) (names : Names) (before : List (List Field))
    (hr : Records before names) : (s : Shape) → (cx.nameType place names s).warnings
      = ((cx.nameType place names s).declared.flatMap Declaration.visits).filterMap cx.warning?
  | .unknown => by
    rw [Context.nameType]
    rfl
  | .primitive _ => by
    rw [Context.nameType]
    rfl
  | .array e => by
    rw [Context.nameType]
    exact warnings_nameType place names before hr e
  | .nullable s => by
    rw [Context.nameType]
    exact warnings_nameType place names before hr s
  | .union as => by
    rw [Context.nameType]
    exact warnings_nameArms place names before hr as
  | .object fs => by
    rw [Context.nameType]
    split
    · -- a shared object was warned of where it was declared
      rfl
    · simp only [List.flatMap_singleton]
      rw [Declaration.visits_eq]
      apply warnings_nameFields _ _ _ _ (before ++ [fs]) ((hr.withTypeName place _).add _ fs)
      apply assigned_memberNames
      exact keys_nameFields cx _ _ _ fs

theorem warnings_nameArms (place : Place) (names : Names) (before : List (List Field))
    (hr : Records before names) : (as : List Shape) → (cx.nameArms place names as).warnings
      = ((cx.nameArms place names as).declared.flatMap Declaration.visits).filterMap cx.warning?
  | [] => by
    rw [Context.nameArms]
    rfl
  | a :: as => by
    obtain ⟨new, -, -, hr', -⟩ := faithful_nameType cx place names before hr a
    rw [Context.nameArms]
    simp only [Outcome.after, Outcome.map, List.flatMap_append, List.filterMap_append]
    rw [warnings_nameType place names before hr a, warnings_nameArms place _ _ hr' as]

theorem warnings_nameFields (d : Declaration) (owner : String) (names : Names)
    (idents : List Candidate) (before : List (List Field)) (hr : Records before names) :
    (fs : List Field) → Forall₂ (fun c f => Assigned cx d c f.key) idents fs →
    (cx.nameFields owner names idents fs).warnings
      = (interleave d ((cx.nameFields owner names idents fs).declared.map fun c =>
          (c.id, c.visits)) (cx.nameFields owner names idents fs).result).filterMap cx.warning?
  | [], _ => by
    rw [Context.nameFields]
    rfl
  | ⟨key, s, optional⟩ :: fs, h => by
    obtain ⟨c, cs, hc, hcs, rfl⟩ := List.forall₂_cons_right_iff.1 h
    obtain ⟨new, -, -, hr', -⟩ := faithful_nameType cx (.field owner key) names before hr s
    rw [Context.nameFields]
    simp only [Outcome.after, Outcome.map, List.headD_cons, List.tail_cons, List.nil_append,
      List.map_append]
    -- the numbers of a field's own declarations are in its type, later fields have larger ones
    rw [Declaration.interleave_cons]
    · rw [filterMap_warning?_cons rfl hc, List.filterMap_append, List.flatMap_map,
        warnings_nameType (.field owner key) names before hr s,
        warnings_nameFields d owner _ cs _ hr' fs hcs]
    · rw [List.forall_mem_map]
      exact mem_references_nameType cx _ names s
    · rw [List.forall_mem_map]
      intro e he
      exact notMem_references_of_mem_nameFields cx hr s owner cs fs he

end

/--
**The warnings are complete and exact.**  After at most one for the root's name they are those of
the members, in the order of a walk that meets every member of every declaration once.  A member has
one just if its key is no plain identifier, if it wants another than the convention makes of the
key, or if it collides; the warning names the key and the identifier that it has, and without one
the identifier is what the convention makes of the key.
-/
theorem warnings_resolve (s : Shape) (rootName : String) :
    let graph := (cx.resolve s rootName).1
    ((cx.resolve s rootName).2 =
      (cx.rootName rootName).reason.toList.map (Warning.mk rootName graph.rootName)
        ++ graph.visits.filterMap cx.warning?) ∧
    graph.visits.Perm (graph.declarations.flatMap fun d => d.members.map (d, ·)) ∧
    (∀ (d : Declaration) (key : String), (cx.reason? d key).isSome ↔
      ¬ Ident.isPlain key ∨ cx.candidate key ≠ cx.convention.apply key ∨ cx.collides d key) ∧
    ∀ d ∈ graph.declarations, ∀ m ∈ d.members, cx.reason? d m.key = none →
      m.ident = cx.convention.apply m.key := by
  intro graph
  refine ⟨?_, visits_perm_resolve cx s rootName, isSome_reason?_iff cx, fun d hd m hm hnone => ?_⟩
  · exact congrArg (_ ++ ·) (warnings_nameType cx (.root _) _ [] (records_start _) s)
  · have hsome := (isSome_reason?_iff cx d m.key).not
    rw [hnone, not_or, not_or, not_not, not_not] at hsome
    obtain ⟨-, hident, hcollides⟩ := hsome.1 (by decide)
    have hbuilt := built_of_mem_declarations cx s rootName d hd
    obtain ⟨c, hc, hassigned⟩ := hbuilt.exists_assigned m hm
    rw [hc, hassigned.ident (Bool.eq_false_iff.2 hcollides), hident]

/-- Two keys that want one identifier, a key below the first, and one that wants the class name. -/
theorem warnings_of_colliding_keys :
    let cx : Context := ⟨.csharp, .pascal, false⟩
    let shape : Shape := .object [⟨"x y", .object [⟨"1", .primitive .integer, false⟩], false⟩,
      ⟨"xY", .primitive .bool, false⟩, ⟨"root", .primitive .string, false⟩]
    (cx.resolve shape "Root").1.visits.map (·.2.ident) = ["XY", "N1", "XY2", "Root2"] ∧
      (cx.resolve shape "Root").2 = [⟨"x y", "XY", .collision⟩, ⟨"1", "N1", .leadingDigit⟩,
        ⟨"xY", "XY2", .collision⟩, ⟨"root", "Root2", .collision⟩] := by
  intro cx shape
  have hwarnings := (warnings_resolve cx shape "Root").1
  refine ⟨by decide +kernel, hwarnings.trans ?_⟩
  decide +kernel

end Walk

end SampleTypes.Naming
