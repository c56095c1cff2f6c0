import SampleTypes.Proofs.Naming.Sharing
import SampleTypes.Proofs.Naming.Warnings

/-!
# The identifiers of members

The members of a declaration are named one after the other.  Which identifier a member gets depends
on what all members want and on what the ones before it got; what the ones after it get has no say.

* `Claims.Turn` tells what a member gets: what it wants if nobody before it wanted the same, else
  the first number that is free;
* `Claims.Run` is the run through the members of a declaration: `run_assignNames`;
* `Context.Distinguishes` says what holds of a declaration, and `distinguishes_resolve` is the main
  result.
-/

namespace SampleTypes.Naming

open Ident (Convention)
open Target (Language)

/-! ### Members in turn -/

/-- A member's turn: it keeps what it wants if that is not claimed, else it gets a number. -/
inductive Claims.Turn (convention : Convention) (claims : Claims) (wanted : String) :
    String → Claims → Prop
  | keeps (h : wanted ∉ claims.claimed) :
    Turn convention claims wanted wanted { claims with claimed := wanted :: claims.claimed }
  | numbered (n : Nat) (h : wanted ∈ claims.claimed)
    (number : Numbers claims.taken.toFinset (convention.withCounter wanted) n) :
    Turn convention claims wanted (convention.withCounter wanted n)
      { claims with taken := convention.withCounter wanted n :: claims.taken }

/-- Members have their turns one after the other. -/
inductive Claims.Run (convention : Convention) : Claims → List String → List String → Prop
  | nil (claims : Claims) : Run convention claims [] []
  | cons {claims claims' : Claims} {wanted given : String} {wanteds givens : List String}
    (turn : claims.Turn convention wanted given claims')
    (more : Run convention claims' wanteds givens) :
    Run convention claims (wanted :: wanteds) (given :: givens)

/-- **The members are named in turn**, whatever is taken and claimed before. -/
theorem run_assignNames (convention : Convention) (wanted : List String) (owner : Option String)
    (claims : Claims) (cs : List Candidate) : claims.Run convention (cs.map (·.ident))
      ((assignNames convention wanted owner claims cs).map (·.ident)) := by
  fun_induction assignNames convention wanted owner claims cs with
  | case1 claims => exact .nil claims
  | case2 claims c cs collides reason hclaimed ident ih =>
    obtain ⟨n, hnumber, heq⟩ :=
      exists_numbers_freshName claims.taken (convention.withCounter_injective c.ident)
    have hident : ident = convention.withCounter c.ident n := heq
    rw [hident] at ih ⊢
    exact .cons (.numbered n (List.contains_iff_mem.1 hclaimed) hnumber) ih
  | case3 claims c cs collides reason hfree ih =>
    exact .cons (.keeps (mt List.contains_iff_mem.2 hfree)) ih

section Turn

variable {convention : Convention} {claims claims' : Claims} {wanted given x : String}

/-- What a member wants is claimed after its turn. -/
theorem Claims.Turn.mem_claimed_iff (h : claims.Turn convention wanted given claims') :
    x ∈ claims'.claimed ↔ x = wanted ∨ x ∈ claims.claimed := by
  cases h with
  | keeps _ => exact List.mem_cons
  | numbered _ hwanted _ => exact (or_iff_right_of_imp (· ▸ hwanted)).symm

/-- What a member has is taken after its turn. -/
theorem Claims.Turn.mem_taken_iff (h : claims.Turn convention wanted given claims')
    (hwanted : wanted ∈ claims.taken) : x ∈ claims'.taken ↔ x = given ∨ x ∈ claims.taken := by
  cases h with
  | keeps _ => exact (or_iff_right_of_imp (· ▸ hwanted)).symm
  | numbered _ _ _ => exact List.mem_cons

end Turn

/-- The identifiers that the members of a declaration want. -/
def Context.candidates (cx : Context) (members : List Member) : List String :=
  members.map (cx.candidate ·.key)

theorem Context.mem_candidates (cx : Context) {members : List Member} {m : Member}
    (h : m ∈ members) : cx.candidate m.key ∈ cx.candidates members :=
  List.mem_map_of_mem h

/--
**A member's turn comes after those before it**: claimed is then what they want, and taken what they
have, where every wanted identifier is taken from the start.
-/
theorem Claims.Run.exists_turn {cx : Context} {claims : Claims} {members before after : List Member}
    {m : Member} (h : claims.Run cx.convention (cx.candidates members) (members.map (·.ident)))
    (htaken : ∀ m' ∈ members, cx.candidate m'.key ∈ claims.taken)
    (hsplit : members = before ++ m :: after) :
    ∃ now later : Claims, now.Turn cx.convention (cx.candidate m.key) m.ident later ∧
      (∀ x, x ∈ now.claimed ↔ x ∈ cx.candidates before ∨ x ∈ claims.claimed) ∧
      ∀ x, x ∈ now.taken ↔ x ∈ before.map (·.ident) ∨ x ∈ claims.taken := by
  subst hsplit
  induction before generalizing claims with
  | nil =>
    cases h with
    | cons turn more => exact ⟨_, _, turn, by simp [Context.candidates], by simp⟩
  | cons m' before ih =>
    cases h with
    | cons turn more =>
      rw [List.cons_append, List.forall_mem_cons] at htaken
      have htaken' := fun x => turn.mem_taken_iff (x := x) htaken.1
      obtain ⟨now, later, hturn, hclaimed, hnow⟩ :=
        ih more fun m'' hm'' => (htaken' _).2 (.inr (htaken.2 m'' hm''))
      refine ⟨now, later, hturn, fun x => ?_, fun x => ?_⟩
      · rw [hclaimed, turn.mem_claimed_iff, or_left_comm]
        simp [Context.candidates, or_assoc]
      · rw [hnow, htaken', or_left_comm]
        simp [or_assoc]

/-! ### The members of a declaration -/

/-- The name is not for members of the declaration: in C# none is called like its class. -/
def Context.Reserves (cx : Context) (d : Declaration) (name : String) : Prop :=
  cx.language = .csharp ∧ name = d.name

/-- The members of a declaration can be told apart, and have what they want where they can. -/
structure Context.Distinguishes (cx : Context) (d : Declaration) : Prop where
  nodup : (d.members.map (·.ident)).Nodup
  owner : ∀ m ∈ d.members, ¬ cx.Reserves d m.ident
  /-- The first of those that want the same identifier gets it. -/
  first : ∀ before m after, d.members = before ++ m :: after →
    cx.candidate m.key ∉ cx.candidates before → ¬ cx.Reserves d (cx.candidate m.key) →
      m.ident = cx.candidate m.key
  /-- The others get the first number that makes an identifier that nobody wants or has. -/
  others : ∀ before m after, d.members = before ++ m :: after →
    cx.candidate m.key ∈ cx.candidates before ∨ cx.Reserves d (cx.candidate m.key) →
      ∃ n, 2 ≤ n ∧ m.ident = cx.convention.withCounter (cx.candidate m.key) n ∧
        m.ident ∉ cx.candidates d.members ∧
        ∀ k, 2 ≤ k → k < n →
          cx.convention.withCounter (cx.candidate m.key) k ∈ before.map (·.ident) ∨
          cx.convention.withCounter (cx.candidate m.key) k ∈ cx.candidates d.members ∨
          cx.Reserves d (cx.convention.withCounter (cx.candidate m.key) k)
  /-- Who shares its wish with nobody gets it. -/
  alone : ∀ m ∈ d.members, (cx.candidates d.members).count (cx.candidate m.key) = 1 →
    ¬ cx.Reserves d (cx.candidate m.key) → m.ident = cx.candidate m.key

/-- The claims on identifiers before any member has one. -/
def Context.claims (cx : Context) (d : Declaration) : Claims :=
  let owner := if cx.language.memberMayShareTypeName then none else some d.name
  ⟨cx.candidates d.members ++ owner.toList, owner.toList⟩

section Declaration

variable {cx : Context} {d : Declaration} {before after : List Member} {m : Member}

theorem Context.mem_claims_claimed {x : String} :
    x ∈ (cx.claims d).claimed ↔ cx.Reserves d x := by
  rw [Context.claims, Context.Reserves]
  cases cx.language <;> simp [Language.memberMayShareTypeName]

theorem Context.mem_claims_taken {x : String} :
    x ∈ (cx.claims d).taken ↔ x ∈ cx.candidates d.members ∨ cx.Reserves d x := by
  rw [← mem_claims_claimed]
  exact List.mem_append

/-- In a declaration no name is claimed but its own, and what any member wants is taken. -/
theorem Built.run {place : Place} (h : Built cx place d) :
    (cx.claims d).Run cx.convention (cx.candidates d.members) (d.members.map (·.ident)) := by
  rw [h.idents, Context.memberNames]
  have hcandidates : cx.candidates d.members
      = ((d.members.map (·.key)).map fun key => cx.sanitize key "field").map (·.ident) := by
    rw [List.map_map, List.map_map]
    rfl
  rw [Context.claims, hcandidates]
  exact run_assignNames _ _ _ _ _

/-- When a member's turn comes, the members before it have had theirs. -/
theorem Built.exists_turn {place : Place} (h : Built cx place d)
    (hsplit : d.members = before ++ m :: after) :
    ∃ now later : Claims, now.Turn cx.convention (cx.candidate m.key) m.ident later ∧
      (∀ x, x ∈ now.claimed ↔ x ∈ cx.candidates before ∨ cx.Reserves d x) ∧
      ∀ x, x ∈ now.taken ↔
        x ∈ before.map (·.ident) ∨ x ∈ cx.candidates d.members ∨ cx.Reserves d x := by
  obtain ⟨now, later, hturn, hclaimed, htaken⟩ := h.run.exists_turn
    (fun m' hm' => Context.mem_claims_taken.2 (.inl (cx.mem_candidates hm'))) hsplit
  refine ⟨now, later, hturn, fun x => ?_, fun x => ?_⟩
  · rw [hclaimed, Context.mem_claims_claimed]
  · rw [htaken, Context.mem_claims_taken]

/-- A member has what it wants, or what nobody wants. -/
theorem Built.ident_eq_or {place : Place} (h : Built cx place d) (hm : m ∈ d.members) :
    m.ident = cx.candidate m.key ∨ m.ident ∉ cx.candidates d.members := by
  obtain ⟨before, after, hsplit⟩ := List.append_of_mem hm
  obtain ⟨now, later, hturn, -, htaken⟩ := h.exists_turn hsplit
  generalize m.ident = given at hturn ⊢
  cases hturn with
  | keeps => exact .inl rfl
  | numbered n _ number =>
    have hfree := number.notMem
    rw [List.mem_toFinset, htaken, not_or, not_or] at hfree
    exact .inr hfree.2.1

/-- A member does not have what an earlier one has. -/
theorem Built.ident_notMem {place : Place} (h : Built cx place d)
    (hsplit : d.members = before ++ m :: after) : m.ident ∉ before.map (·.ident) := by
  obtain ⟨now, later, hturn, hclaimed, htaken⟩ := h.exists_turn hsplit
  generalize hgiven : m.ident = given at hturn ⊢
  cases hturn with
  | keeps hfree =>
    rw [hclaimed, not_or] at hfree
    intro hmem
    obtain ⟨m', hm', hident⟩ := List.mem_map.1 hmem
    have hm : m ∈ d.members := by
      rw [hsplit]
      exact List.mem_append_right _ List.mem_cons_self
    have hd : m' ∈ d.members := by
      rw [hsplit]
      exact List.mem_append_left _ hm'
    -- the earlier one wants the same, or has what nobody wants
    rcases h.ident_eq_or hd with heq | hnone
    · have hwanted := cx.mem_candidates hm'
      rw [← heq, hident] at hwanted
      exact hfree.1 hwanted
    · rw [hident] at hnone
      exact hnone (cx.mem_candidates hm)
  | numbered n _ number =>
    have hfree := number.notMem
    rw [List.mem_toFinset, htaken, not_or] at hfree
    exact hfree.1

/-- The first member that wants an identifier gets it. -/
theorem Built.ident_of_first {place : Place} (h : Built cx place d)
    (hsplit : d.members = before ++ m :: after) (hnew : cx.candidate m.key ∉ cx.candidates before)
    (hreserved : ¬ cx.Reserves d (cx.candidate m.key)) : m.ident = cx.candidate m.key := by
  obtain ⟨now, later, hturn, hclaimed, -⟩ := h.exists_turn hsplit
  generalize m.ident = given at hturn ⊢
  cases hturn with
  | keeps => rfl
  | numbered n hold =>
    rw [hclaimed] at hold
    exact absurd hold (not_or.2 ⟨hnew, hreserved⟩)

/-- **The members of every declaration that the walk makes can be told apart.** -/
theorem Built.distinguishes {place : Place} (h : Built cx place d) : cx.Distinguishes d where
  nodup := nodup_map_of_split fun _ _ _ => h.ident_notMem
  owner := by
    rintro m hm ⟨hlanguage, hname⟩
    refine h.name_notMem_idents ?_ (hname ▸ List.mem_map_of_mem hm)
    rw [hlanguage]
    rfl
  first := fun _ _ _ => h.ident_of_first
  others := by
    intro before m after hsplit hold
    obtain ⟨now, later, hturn, hclaimed, htaken⟩ := h.exists_turn hsplit
    generalize m.ident = given at hturn ⊢
    cases hturn with
    | keeps hfree =>
      rw [hclaimed] at hfree
      exact absurd hold hfree
    | numbered n _ number =>
      have hfree := number.notMem
      rw [List.mem_toFinset, htaken, not_or, not_or] at hfree
      refine ⟨n, number.two_le, rfl, hfree.2.1, fun k hk hlt => (htaken _).1 ?_⟩
      exact List.mem_toFinset.1 (number.mem_of_lt hk hlt)
  alone := by
    intro m hm hcount hreserved
    obtain ⟨before, after, hsplit⟩ := List.append_of_mem hm
    have hnew : cx.candidate m.key ∉ cx.candidates before := by
      rw [hsplit, Context.candidates, List.map_append, List.map_cons, List.count_append,
        List.count_cons_self] at hcount
      exact List.count_eq_zero.1 (by rw [Context.candidates]; omega)
    exact h.ident_of_first hsplit hnew hreserved

end Declaration

/--
**The members of a declaration have different identifiers**, and every object has a declaration.
-/
theorem distinguishes_resolve (cx : Context) (s : Shape) (rootName : String) :
    (∀ fields ∈ s.objects, ∃ d ∈ (cx.resolve s rootName).1.declarations,
      d.members.map (·.key) = fields.map (·.key)) ∧
    ∀ d ∈ (cx.resolve s rootName).1.declarations, cx.Distinguishes d :=
  ⟨fun _ => exists_declaration_of_mem_objects cx s rootName,
    fun d hd => (built_of_mem_declarations cx s rootName d hd).distinguishes⟩

/-- Four keys that want two identifiers, and one that spells a number that another would get. -/
example :
    let cx : Context := ⟨.csharp, .pascal, false⟩
    let shape : Shape := .object (["value", "Value", "root", "Value2", "VALUE"].map fun key =>
      ⟨key, .primitive .integer, false⟩)
    (cx.resolve shape "Root").1.declarations.map (fun d => d.members.map (·.ident))
      = [["Value", "Value3", "Root2", "Value2", "Value4"]] := by
  decide +kernel

end SampleTypes.Naming
