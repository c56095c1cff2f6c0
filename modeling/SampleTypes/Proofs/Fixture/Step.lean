import SampleTypes.Fixture.Run
import SampleTypes.Proofs.Files.Actions
import SampleTypes.Proofs.Target.Output

/-!
# One fixture

What is done for one fixture, told by the files: the output, which the sample and the settings alone
decide, and the verdict on it.

* `conversionIn`: the conversion for a fixture; `run_convert`: it is what is worked out;
* `run_compare`: the verdict, and what becomes of the expected text.
-/

namespace SampleTypes.Fixture

open Files (Entry Host Tree View World)

/-! ### Output -/

/-- The settings of a fixture, by the files. -/
def settingsIn (tree : Tree) (directory : String) (c : Case) : Except CaseError Settings :=
  match tree.kindAt? (c.settingsPath directory) with
  | none => .ok { targetLanguage := c.language }
  | some _ => do
    let text ← (tree.textAt (c.settingsPath directory)).mapError .settingsUnreadable
    let settings ← (Settings.parse text).mapError CaseError.settings
    .ok { settings with targetLanguage := c.language }

/-- The conversion for a fixture, by the files. -/
def conversionIn (tree : Tree) (directory : String) (c : Case) : Except CaseError Conversion := do
  let path := c.samplePath directory
  let text ← (tree.textAt path).mapError (.sampleUnreadable path)
  let sample ← (Json.parse text).mapError (CaseError.sampleInvalid path)
  let settings ← settingsIn tree directory c
  (settings.convert [sample]).mapError CaseError.settings

theorem run_settings (directory : String) (c : Case) (world : World) :
    (settings World.view directory c).run world = (settingsIn world.toTree directory c, world) := by
  have hkind : (liftM (World.view.kind? (c.settingsPath directory)) :
      ExceptT CaseError (StateM World) (Option Files.Kind)).run world =
        (.ok (world.kindAt? (c.settingsPath directory)), world) := rfl
  unfold settings settingsIn
  rw [World.run_bind, hkind]
  dsimp only
  cases world.kindAt? (c.settingsPath directory) with
  | none => rfl
  | some _ => exact World.run_bind_eq rfl fun _ => World.run_bind_eq rfl fun _ => rfl

theorem run_convert (directory : String) (c : Case) (world : World) :
    (convert World.view directory c).run world = (conversionIn world.toTree directory c, world) :=
  World.run_bind_eq rfl fun _ => World.run_bind_eq rfl fun _ =>
    World.run_bind_eq (run_settings directory c world) fun _ => rfl

/-- The output for a fixture depends on two files only. -/
theorem conversionIn_congr {tree tree' : Tree} {directory : String} {c : Case}
    (hsample : tree'.textAt (c.samplePath directory) = tree.textAt (c.samplePath directory))
    (hkind : tree'.kindAt? (c.settingsPath directory) = tree.kindAt? (c.settingsPath directory))
    (hsettings : tree'.textAt (c.settingsPath directory) = tree.textAt (c.settingsPath directory)) :
    conversionIn tree' directory c = conversionIn tree directory c := by
  simp only [conversionIn, settingsIn, hsample, hkind, hsettings]

/-- One fixture with one member, whatever is expected for it. -/
theorem conversionIn_one_member (expected : String) :
    conversionIn
      { root := .directory
          [("s.json", .file "\x7b\"a\":1\x7d"), ("s.ts.expected", .file expected)] }
      "." ⟨"s", "ts"⟩ = .ok ⟨"export interface Root \x7b\n  A: number;\n\x7d\n", []⟩ := by
  generalize htree : Tree.mk (.directory [("s.json", .file "\x7b\"a\":1\x7d"),
    ("s.ts.expected", .file expected)]) [] = tree
  have hsample : tree.textAt (Case.samplePath "." ⟨"s", "ts"⟩) = .ok "\x7b\"a\":1\x7d" := by
    rw [← htree]
    rfl
  have hsettings : settingsIn tree "." ⟨"s", "ts"⟩ = .ok { targetLanguage := "ts" } := by
    rw [← htree]
    rfl
  obtain ⟨sample, hparse, hwritten⟩ := Settings.convert_one_member
  simp only [conversionIn, hsample, hparse, hsettings, hwritten, Except.mapError, bind, Except.bind]

/-! ### Verdict -/

theorem run_compare (host : Host (StateM World)) (hview : host.toView = World.view)
    (request : Request) (c : Case) (output : String) (world : World) :
    (compare host request c output).run world =
      match world.textAt (c.expectedPath request.directory) with
      | .error cause =>
        (.error (.expectedUnreadable (c.expectedPath request.directory) cause), world)
      | .ok expected =>
        if output = expected then (.ok .passed, world)
        else if request.bless then
          (((host.writeFile (c.expectedPath request.directory) output world).1.mapError
            RunError.notBlessed).map fun _ => .blessed,
            (host.writeFile (c.expectedPath request.directory) output world).2)
        else (.ok (.failed (Difference.ofTexts? expected output)), world) := by
  generalize hpath : c.expectedPath request.directory = path
  have hread : host.readFile path world = (world.textAt path, world) := by
    rw [hview]
    rfl
  unfold compare
  dsimp only
  rw [hpath, World.run_bind, World.run_mapError, hread]
  cases world.textAt path with
  | error cause => rfl
  | ok expected =>
    show (if output = expected then (pure .passed : ExceptT RunError (StateM World) Verdict)
      else _).run world = _
    dsimp only
    split
    · rfl
    · split
      · rw [World.run_bind, World.run_mapError]
        cases (host.writeFile path output world).1 <;> rfl
      · rfl

/-! ### Step -/

/-- What is done for a fixture: conversion, then comparison. -/
theorem runCase_eq (host : Host (StateM World)) (hview : host.toView = World.view)
    (request : Request) (t : Tally) (c : Case) (world : World) :
    runCase host request t c world =
      match conversionIn world.toTree request.directory c with
      | .error cause => ((t, some (.fixture c.label cause)), world)
      | .ok conversion =>
        match (compare host request c conversion.output).run world with
        | (.error cause, after) => ((t.add (warningLines conversion), some cause), after)
        | (.ok verdict, after) =>
          (((t.add (warningLines conversion)).count c verdict, none), after) := by
  have hconvert : (convert host.toView request.directory c).run world =
      (conversionIn world.toTree request.directory c, world) := by
    rw [hview]
    exact run_convert request.directory c world
  unfold runCase
  rw [World.bind_apply, hconvert]
  cases conversionIn world.toTree request.directory c with
  | error cause => rfl
  | ok conversion =>
    dsimp only
    rw [World.bind_apply]
    rcases (compare host request c conversion.output).run world with ⟨_ | _, after⟩ <;> rfl

/-- A run goes on with the next fixture unless it was broken off. -/
theorem runCases_cons_eq (host : Host (StateM World)) (request : Request) (t : Tally) (c : Case)
    (cases : List Case) (world : World) :
    runCases host request t (c :: cases) world =
      match runCase host request t c world with
      | ((t, some cause), after) => ((t, some cause), after)
      | ((t, none), after) => runCases host request t cases after := by
  rw [runCases, World.bind_apply]
  rcases runCase host request t c world with ⟨⟨t, _ | cause⟩, after⟩ <;> rfl

/-- A run is over the selected fixtures of the directory. -/
theorem run_eq (host : Host (StateM World)) (hview : host.toView = World.view) (request : Request)
    (world : World) :
    request.run host world =
      match world.namesAt request.directory with
      | .error cause => (brokenOff {} (.notListed request.directory cause), world)
      | .ok names =>
        let cases := Case.select request.filter (Case.ofNames names)
        match runCases host request {} cases world with
        | ((t, some cause), after) => (brokenOff t cause, after)
        | ((t, none), after) => (finished cases.length t, after) := by
  have hlist : host.listDirectory request.directory world =
      (world.namesAt request.directory, world) := by
    rw [hview]
    rfl
  rw [Request.run, World.bind_apply, hlist]
  cases world.namesAt request.directory with
  | error cause => rfl
  | ok names =>
    dsimp only
    rw [World.bind_apply]
    generalize Case.select request.filter (Case.ofNames names) = cases
    rcases runCases host request {} cases world with ⟨⟨t, _ | cause⟩, after⟩ <;> rfl

end SampleTypes.Fixture
