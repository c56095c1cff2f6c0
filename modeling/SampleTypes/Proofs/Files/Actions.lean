import SampleTypes.Files.Tree
import Mathlib.Data.List.Forall2

/-!
# Actions on a world

What an action on a tree of files does, told by what it finds there and what it leaves.

* `World.Looks`, `World.Keeps`: the world, or all its files, are as before;
* `World.Gives`: an action that may fail gives a result; `gives_bind_iff`: one step after another.
-/

namespace SampleTypes.Files

namespace Tree

/-- The text of the file that a path leads to. -/
def textAt (tree : Tree) (path : String) : Except OsError String :=
  match tree.find path with
  | .ok (.file text) => .ok text
  | .ok (.directory _) => .error .isDirectory
  | .error e => .error e

/-- The names in the directory that a path leads to. -/
def namesAt (tree : Tree) (path : String) : Except OsError (List String) :=
  match tree.find path with
  | .ok (.file _) => .error .notDirectory
  | .ok (.directory entries) => .ok (entries.map (·.1))
  | .error e => .error e

/-- What a path leads to, if anything. -/
def kindAt? (tree : Tree) (path : String) : Option Kind :=
  match tree.find path with
  | .ok (.file _) => some .file
  | .ok (.directory _) => some .directory
  | .error _ => none

theorem textAt_eq_ok_iff {tree : Tree} {path text : String} :
    tree.textAt path = .ok text ↔ tree.find path = .ok (.file text) := by
  unfold textAt
  split <;> simp_all

end Tree

namespace World

variable {ε α β : Type}

/-! ### Looking -/

theorem readFile_view_eq_iff {path text : String} {world after : World} :
    view.readFile path world = (.ok text, after) ↔
      world.textAt path = .ok text ∧ after = world := by
  show ((world.textAt path, world) : Except OsError String × World) = (.ok text, after) ↔ _
  simp [eq_comm]

theorem readStdin_view_eq_iff {text : String} {world after : World} :
    view.readStdin world = (text, after) ↔
      text = world.stdin ∧ after = { world with stdin := "" } := by
  show ((world.stdin, { world with stdin := "" }) : String × World) = (text, after) ↔ _
  simp [eq_comm]

theorem writeFile_host_eq_iff {path text : String} {world after : World} :
    host.writeFile path text world = (.ok (), after) ↔
      ∃ root, world.write path text = .ok root ∧ after = { world with root } := by
  have hchange : host.writeFile path text world =
      change (fun tree => tree.write path text) world := rfl
  cases hwrite : world.write path text with
  | ok root =>
    have hok : host.writeFile path text world = (.ok (), { world with root }) := by
      rw [hchange]
      simp only [change, hwrite]
    rw [hok]
    constructor
    · intro h
      exact ⟨root, rfl, (Prod.mk.inj h).2.symm⟩
    · rintro ⟨_, hroot, rfl⟩
      cases hroot
      rfl
  | error e =>
    have herror : host.writeFile path text world = (.error e, world) := by
      rw [hchange]
      simp only [change, hwrite]
    rw [herror]
    refine iff_of_false (fun h => ?_) (by simp)
    cases h

theorem bind_apply (x : StateM World α) (f : α → StateM World β) (world : World) :
    @Eq (β × World) ((x >>= f) world) (f (x world).1 (x world).2) := rfl

/-- The world is left as it is. -/
def Looks (x : StateM World α) : Prop :=
  ∀ world, (x world).2 = world

/-- All files are left as they are. -/
def Keeps (x : StateM World α) : Prop :=
  ∀ world, (x world).2.toTree = world.toTree

theorem Looks.keeps {x : StateM World α} (h : Looks x) : Keeps x :=
  fun world => congrArg toTree (h world)

theorem Looks.pure (a : α) : Looks (pure a : StateM World α) :=
  fun _ => rfl

theorem Looks.bind {x : StateM World α} {f : α → StateM World β} (hx : Looks x)
    (hf : ∀ a, Looks (f a)) : Looks (x >>= f) := by
  intro world
  rw [bind_apply, hf, hx]

theorem Looks.mapM {f : α → StateM World β} (xs : List α) (h : ∀ x, Looks (f x)) :
    Looks (xs.mapM f) := by
  induction xs with
  | nil => exact .pure []
  | cons x xs ih =>
    rw [List.mapM_cons]
    exact (h x).bind fun _ => ih.bind fun _ => .pure _

theorem Keeps.bind {x : StateM World α} {f : α → StateM World β} (hx : Keeps x)
    (hf : ∀ a, Keeps (f a)) : Keeps (x >>= f) := by
  intro world
  rw [bind_apply, hf, hx]

/-! ### Results -/

/-- An action that may fail gives a result, and leaves a world. -/
def Gives (x : ExceptT ε (StateM World) α) (world : World) (a : α) (after : World) : Prop :=
  @Eq (Except ε α × World) (x.run world) (.ok a, after)

theorem run_bind (x : ExceptT ε (StateM World) α) (f : α → ExceptT ε (StateM World) β)
    (world : World) :
    (x >>= f).run world =
      match x.run world with
      | (.ok a, between) => (f a).run between
      | (.error e, between) => (.error e, between) := by
  show (ExceptT.bindCont f (x.run world).1) (x.run world).2 = _
  rcases x.run world with ⟨_ | a, between⟩ <;> rfl

/-- An action whose failures are told otherwise does what it does. -/
theorem run_mapError {δ : Type} (y : StateM World (Except δ α)) (g : δ → ε) (world : World) :
    @Eq (Except ε α × World)
      ((ExceptT.mk do return (← y).mapError g : ExceptT ε (StateM World) α).run world)
      ((y world).1.mapError g, (y world).2) := rfl

variable {x : ExceptT ε (StateM World) α} {f : α → ExceptT ε (StateM World) β}
  {world after : World}

/-- Actions that leave the world as it is come to what their results come to. -/
theorem run_bind_eq {r : Except ε α} {g : α → Except ε β}
    (hx : @Eq (Except ε α × World) (x.run world) (r, world))
    (hf : ∀ a, @Eq (Except ε β × World) ((f a).run world) (g a, world)) :
    @Eq (Except ε β × World) ((x >>= f).run world) (r >>= g, world) := by
  rw [run_bind, hx]
  cases r with
  | error e => rfl
  | ok a => exact hf a

@[simp] theorem gives_pure_iff {a b : α} :
    Gives (pure a : ExceptT ε (StateM World) α) world b after ↔ b = a ∧ after = world := by
  show ((Except.ok a, world) : Except ε α × World) = (.ok b, after) ↔ _
  simp [eq_comm]

@[simp] theorem not_gives_throw {e : ε} {a : α} :
    ¬ Gives (throw e : ExceptT ε (StateM World) α) world a after := by
  show ¬ ((Except.error e, world) : Except ε α × World) = (.ok a, after)
  simp

/-- One action after another: the second starts where the first ends. -/
theorem gives_bind_iff {b : β} :
    Gives (x >>= f) world b after ↔
      ∃ a between, Gives x world a between ∧ Gives (f a) between b after := by
  unfold Gives
  rw [run_bind]
  rcases x.run world with ⟨_ | a, between⟩ <;> simp

/-- An action that cannot fail. -/
@[simp] theorem gives_lift_iff {y : StateM World α} {a : α} :
    Gives (liftM y : ExceptT ε (StateM World) α) world a after ↔ y world = (a, after) := by
  show ((Except.ok (y world).1, (y world).2) : Except ε α × World) = (.ok a, after) ↔
    @Eq (α × World) (y world) (a, after)
  rcases y world with ⟨b, between⟩
  simp

/-- A result that does not depend on the world. -/
@[simp] theorem gives_except_iff {y : Except ε α} {a : α} :
    Gives (liftM y : ExceptT ε (StateM World) α) world a after ↔ y = .ok a ∧ after = world := by
  show ((y, world) : Except ε α × World) = (.ok a, after) ↔ _
  simp [eq_comm]

/-- An action whose failures are told otherwise. -/
@[simp] theorem gives_mapError_iff {δ : Type} {y : StateM World (Except δ α)} {g : δ → ε} {a : α} :
    Gives (ExceptT.mk do return (← y).mapError g) world a after ↔ y world = (.ok a, after) := by
  show ((((y world).1.mapError g), (y world).2) : Except ε α × World) = (.ok a, after) ↔
    @Eq (Except δ α × World) (y world) (.ok a, after)
  rcases y world with ⟨_ | b, between⟩ <;> simp [Except.mapError]

theorem gives_mapM_nil_iff {bs : List β} :
    Gives (([] : List α).mapM f) world bs after ↔ bs = [] ∧ after = world := by
  simp

theorem gives_mapM_cons_iff {a : α} {as : List α} {bs : List β} :
    Gives ((a :: as).mapM f) world bs after ↔
      ∃ b more between, bs = b :: more ∧ Gives (f a) world b between ∧
        Gives (as.mapM f) between more after := by
  simp only [List.mapM_cons, gives_bind_iff, gives_pure_iff]
  constructor
  · rintro ⟨b, between, hb, more, _, hmore, rfl, rfl⟩
    exact ⟨b, more, between, rfl, hb, hmore⟩
  · rintro ⟨b, more, between, rfl, hb, hmore⟩
    exact ⟨b, between, hb, more, after, hmore, rfl, rfl⟩

/-- Actions that only look give their results one by one. -/
theorem gives_mapM_iff (hf : ∀ a, Looks (f a).run) {as : List α} {bs : List β} :
    Gives (as.mapM f) world bs after ↔
      after = world ∧ List.Forall₂ (fun a b => Gives (f a) world b world) as bs := by
  have hsame : ∀ {a b between}, Gives (f a) world b between → between = world := by
    intro a b between h
    have := hf a world
    rwa [h] at this
  induction as generalizing bs with
  | nil => simp [and_comm]
  | cons a as ih =>
    rw [gives_mapM_cons_iff]
    constructor
    · rintro ⟨b, more, between, rfl, hb, hmore⟩
      obtain rfl := hsame hb
      obtain ⟨rfl, hmore⟩ := ih.1 hmore
      exact ⟨rfl, .cons hb hmore⟩
    · rintro ⟨rfl, h⟩
      cases h with
      | @cons _ b _ more hb hmore => exact ⟨b, more, after, rfl, hb, ih.2 ⟨rfl, hmore⟩⟩

theorem Keeps.run_bind (hx : Keeps x.run) (hf : ∀ a, Keeps (f a).run) :
    Keeps (x >>= f).run := by
  intro world
  have hx := hx world
  rw [World.run_bind]
  rcases h : x.run world with ⟨_ | a, between⟩ <;> rw [h] at hx
  · exact hx
  · exact (hf a between).trans hx

theorem Looks.run_bind (hx : Looks x.run) (hf : ∀ a, Looks (f a).run) :
    Looks (x >>= f).run := by
  intro world
  have hx := hx world
  rw [World.run_bind]
  rcases h : x.run world with ⟨_ | a, between⟩ <;> rw [h] at hx
  · exact hx
  · exact (hf a between).trans hx

theorem Keeps.run_mapM (as : List α) (hf : ∀ a, Keeps (f a).run) : Keeps (as.mapM f).run := by
  induction as with
  | nil => exact fun _ => rfl
  | cons a as ih =>
    rw [List.mapM_cons]
    exact (hf a).run_bind fun _ => ih.run_bind fun _ _ => rfl

theorem Looks.run_mapM (as : List α) (hf : ∀ a, Looks (f a).run) : Looks (as.mapM f).run := by
  induction as with
  | nil => exact fun _ => rfl
  | cons a as ih =>
    rw [List.mapM_cons]
    exact (hf a).run_bind fun _ => ih.run_bind fun _ _ => rfl

end World

end SampleTypes.Files
