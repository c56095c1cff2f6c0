import SampleTypes.CommandLine.Run
import SampleTypes.Proofs.CommandLine.Flags
import SampleTypes.Proofs.Files.Writing
import SampleTypes.Proofs.Samples.Loading
import SampleTypes.Proofs.Target.Output

/-!
# Delivery

A command is asked to deliver a text: declarations, or a shape.  Which text that is, if any, is said
here of the files as they are, and how the command ends is said by that text.

* `ConvertRequest.Delivers`, `GraphRequest.Delivers`: the text that is asked for;
* `EndsWith`: how a command ends that has such a text to deliver, or none; `run_endsWith`: every
  command line ends so.
-/

namespace SampleTypes.CommandLine

open Files (Tree World)
open Files.World (Gives Keeps gives_bind_iff)

/-! ### What is asked for -/

/-- The settings of a request: those of its file if it names one, with its own in their place. -/
def ConvertRequest.Configures (r : ConvertRequest) (tree : Tree) (settings : Settings) : Prop :=
  ∃ given, settings = r.overrides.applyTo given ∧
    match r.settingsFile with
    | none => given = {}
    | some path => ∃ text, tree.textAt path = .ok text ∧ Settings.parse text = .ok given

/-- The conversion that is asked for: of all selected samples, by the settings. -/
def ConvertRequest.Converts (engine : Filter.Engine) (r : ConvertRequest) (world : World)
    (c : Conversion) : Prop :=
  ∃ settings samples, r.Configures world.toTree settings ∧
    r.selection.Selects engine world samples ∧ settings.convert samples = .ok c

/-- The declarations that are asked for; none if a warning is an error and there is one. -/
def ConvertRequest.Delivers (engine : Filter.Engine) (r : ConvertRequest) (world : World)
    (text : String) : Prop :=
  ∃ c, r.Converts engine world c ∧ (r.denyWarnings → c.warnings = []) ∧ c.output = text

/-- The shape that is asked for. -/
def GraphRequest.Delivers (engine : Filter.Engine) (r : GraphRequest) (world : World)
    (text : String) : Prop :=
  ∃ samples, r.selection.Selects engine world samples ∧ graphText samples = text

/-! ### Working out -/

variable {engine : Filter.Engine}

theorem gives_settings_iff {r : ConvertRequest} {world after : World} {settings : Settings} :
    Gives (r.settings World.view) world settings after ↔
      r.Configures world.toTree settings ∧ after = world := by
  unfold ConvertRequest.settings ConvertRequest.Configures
  cases r.settingsFile with
  | none => simp
  | some path =>
    simp only [gives_bind_iff, World.gives_mapError_iff, World.gives_except_iff,
      World.gives_pure_iff, World.readFile_view_eq_iff, except_mapError_eq_ok_iff]
    constructor
    · rintro ⟨text, _, ⟨htext, rfl⟩, given, _, ⟨hgiven, rfl⟩, rfl, rfl⟩
      exact ⟨⟨given, rfl, text, htext, hgiven⟩, rfl⟩
    · rintro ⟨⟨given, rfl, text, htext, hgiven⟩, rfl⟩
      exact ⟨text, _, ⟨htext, rfl⟩, given, _, ⟨hgiven, rfl⟩, rfl, rfl⟩

theorem gives_loadSamples_iff {selection : Selection} {world after : World}
    {samples : List Json.Value} :
    Gives (loadSamples engine World.view selection) world samples after ↔
      Gives (selection.load engine World.view) world samples after :=
  World.gives_mapError_iff

theorem exists_gives_conversion_iff {r : ConvertRequest} {world : World} {c : Conversion} :
    (∃ after, Gives (r.conversion engine World.view) world c after) ↔
      r.Converts engine world c := by
  have hcheck : ∀ {settings : Settings} {samples : List Json.Value},
      settings.convert samples = .ok c → ∃ language, settings.check = .ok language := by
    intro settings samples h
    obtain ⟨language, hlanguage, -⟩ := except_bind_eq_ok_iff.1 h
    exact ⟨language, hlanguage⟩
  unfold ConvertRequest.conversion ConvertRequest.Converts
  simp only [gives_bind_iff, gives_settings_iff, gives_loadSamples_iff, World.gives_except_iff,
    except_mapError_eq_ok_iff, ← Selection.exists_gives_load_iff]
  constructor
  · rintro ⟨_, settings, _, ⟨hsettings, rfl⟩, _, _, ⟨-, rfl⟩, samples, _, hload, hc, rfl⟩
    exact ⟨settings, samples, hsettings, ⟨_, hload⟩, hc⟩
  · rintro ⟨settings, samples, hsettings, ⟨after, hload⟩, hc⟩
    obtain ⟨language, hlanguage⟩ := hcheck hc
    exact ⟨after, settings, _, ⟨hsettings, rfl⟩, language, _, ⟨hlanguage, rfl⟩, samples, after,
      hload, hc, rfl⟩

theorem keeps_conversion {r : ConvertRequest} : Keeps (r.conversion engine World.view).run := by
  unfold ConvertRequest.conversion
  refine Keeps.run_bind ?_ fun settings => Keeps.run_bind (fun _ => rfl) fun _ =>
    Keeps.run_bind ?_ fun samples => fun _ => rfl
  · unfold ConvertRequest.settings
    split
    · exact fun _ => rfl
    · exact Keeps.run_bind (fun _ => rfl) fun _ => Keeps.run_bind (fun _ => rfl) fun _ _ => rfl
  · exact fun world => r.selection.keeps_load world

/-- A request for declarations is worked out to those that are asked for. -/
theorem ConvertRequest.text_draft_eq_ok_iff {r : ConvertRequest} {world : World} {text : String} :
    (r.draft engine World.view world).1.text = .ok text ↔ r.Delivers engine world text := by
  unfold ConvertRequest.draft Delivers
  simp only [← exists_gives_conversion_iff, Gives]
  rw [World.bind_apply]
  rcases (r.conversion engine World.view).run world with ⟨cause | c, after⟩
  · show Except.error cause = Except.ok text ↔ _
    simp
  · show (r.review c).text = .ok text ↔ _
    rw [ConvertRequest.review]
    by_cases hdenied : r.denyWarnings ∧ c.warnings ≠ []
    · rw [if_pos hdenied]
      simpa using fun h => absurd (h hdenied.1) hdenied.2
    · rw [if_neg hdenied]
      have hallowed : r.denyWarnings → c.warnings = [] := by simpa using hdenied
      simpa using fun _ => hallowed

theorem ConvertRequest.keeps_draft (engine : Filter.Engine) (r : ConvertRequest) :
    Keeps (r.draft engine World.view) :=
  keeps_conversion.bind fun result => by cases result <;> exact fun _ => rfl

/-- A request for a shape is worked out to the one that is asked for. -/
theorem GraphRequest.text_draft_eq_ok_iff {r : GraphRequest} {world : World} {text : String} :
    (r.draft engine World.view world).1.text = .ok text ↔ r.Delivers engine world text := by
  unfold GraphRequest.draft Delivers
  have hload : ∀ samples, r.selection.Selects engine world samples ↔
      ∃ after, Gives (loadSamples engine World.view r.selection) world samples after := by
    simp only [← Selection.exists_gives_load_iff, gives_loadSamples_iff, implies_true]
  simp only [hload, Gives]
  rw [World.bind_apply]
  rcases (loadSamples engine World.view r.selection).run world with ⟨cause | samples, after⟩
  · show Except.error cause = Except.ok text ↔ _
    simp
  · show Except.ok (graphText samples) = Except.ok text ↔ _
    simp

theorem GraphRequest.keeps_draft (engine : Filter.Engine) (r : GraphRequest) :
    Keeps (r.draft engine World.view) :=
  Keeps.bind (fun world => r.selection.keeps_load world) fun _ _ => rfl

/-! ### Delivering -/

/-- A file that was written out has the text that was to be written. -/
theorem textAt_writeOut {path text : String} {world after : World}
    (h : Gives (writeOut World.host path text) world () after) :
    after.textAt path = .ok text := by
  have hwritten : ∀ between : World, World.host.writeFile path text between = (.ok (), after) →
      after.textAt path = .ok text := by
    intro between hwrite
    obtain ⟨root, hroot, rfl⟩ := World.writeFile_host_eq_iff.1 hwrite
    exact Files.Tree.textAt_write hroot
  unfold writeOut at h
  split at h
  · obtain ⟨_, between, -, hwrite⟩ := gives_bind_iff.1 h
    exact hwritten between (World.gives_mapError_iff.1 hwrite)
  · exact hwritten world (World.gives_mapError_iff.1 h)

/--
How a command ends that is to deliver a text.  If there is none, it fails and leaves nothing behind;
otherwise the text goes to standard output, or else to a file.
-/
structure EndsWith (delivers : String → Prop) (out : Option String) (world : World)
    (outcome : Outcome) (after : World) : Prop where
  failed : (∀ text, ¬ delivers text) →
    outcome.exit.code = 1 ∧ outcome.stdout = "" ∧ after.toTree = world.toTree
  printed : ∀ text, delivers text → out = none →
    outcome.exit.code = 0 ∧ outcome.stdout = text ∧ after.toTree = world.toTree
  written : ∀ text path, delivers text → out = some path →
    outcome.stdout = "" ∧ ∃ between result, between.toTree = world.toTree ∧
      @Eq (Except CommandError Unit × World) ((writeOut World.host path text).run between)
        (result, after) ∧
      match result with
      | .ok () => outcome.exit.code = 0 ∧ after.textAt path = .ok text
      | .error _ => outcome.exit.code = 1

/-- Commands that are to deliver the same text print the same. -/
theorem EndsWith.stdout_eq {delivers : String → Prop} {out : Option String}
    {world after after' : World} {outcome outcome' : Outcome}
    (h : EndsWith delivers out world outcome after)
    (h' : EndsWith delivers out world outcome' after') : outcome.stdout = outcome'.stdout := by
  by_cases hnone : ∀ text, ¬ delivers text
  · rw [(h.failed hnone).2.1, (h'.failed hnone).2.1]
  · obtain ⟨text, htext⟩ := not_forall_not.1 hnone
    cases hout : out with
    | none => rw [(h.printed text htext hout).2.1, (h'.printed text htext hout).2.1]
    | some path => rw [(h.written text path htext hout).1, (h'.written text path htext hout).1]

/-- A draft that changes nothing is delivered as its text. -/
theorem endsWith_deliver {x : StateM World Draft} (hx : Keeps x) (out : Option String)
    (world : World) :
    EndsWith (fun text => (x world).1.text = .ok text) out world
      ((x >>= fun d => d.deliver World.host out) world).1
      ((x >>= fun d => d.deliver World.host out) world).2 := by
  have hkeeps := hx world
  rw [World.bind_apply]
  rcases hdraft : x world with ⟨⟨warnings, cause | text⟩, between⟩ <;> rw [hdraft] at hkeeps
  · exact ⟨fun _ => ⟨rfl, rfl, hkeeps⟩, fun text h => by simp at h, fun text path h => by simp at h⟩
  · cases out with
    | none =>
      refine ⟨fun h => absurd rfl (h text), fun other h _ => ?_, fun other path _ h => by simp at h⟩
      exact ⟨rfl, Except.ok.inj h, hkeeps⟩
    | some path =>
      refine ⟨fun h => absurd rfl (h text), fun other _ h => by simp at h,
        fun other place h hplace => ?_⟩
      obtain rfl := Except.ok.inj h
      obtain rfl := Option.some.inj hplace
      have hdeliver : (⟨warnings, .ok text⟩ : Draft).deliver World.host (some path) between =
          match (writeOut World.host path text).run between with
          | (.ok (), after) => ({ stderr := warningText warnings }, after)
          | (.error cause, after) => (CommandLine.failed warnings cause, after) := by
        unfold Draft.deliver
        dsimp only
        rw [World.bind_apply]
        rcases (writeOut World.host path text).run between with ⟨_ | _, after⟩ <;> rfl
      dsimp only
      rw [hdeliver]
      cases hwrite : (writeOut World.host path text).run between with
      | mk result after =>
        refine ⟨?_, between, result, hkeeps, ?_, ?_⟩
        · cases result <;> rfl
        · cases result <;> exact hwrite
        · cases result with
          | ok _ => exact ⟨rfl, textAt_writeOut hwrite⟩
          | error cause => rfl

/-- A request for declarations ends with those that are asked for. -/
theorem endsWith_convert (engine : Filter.Engine) (r : ConvertRequest) (world : World) :
    EndsWith (r.Delivers engine world) r.out world
      ((Command.convert r).run engine World.host world).1
      ((Command.convert r).run engine World.host world).2 := by
  have hends := endsWith_deliver (r.keeps_draft engine) r.out world
  simp only [r.text_draft_eq_ok_iff] at hends
  exact hends

/-- A request for a shape ends with the one that is asked for. -/
theorem endsWith_graph (engine : Filter.Engine) (r : GraphRequest) (world : World) :
    EndsWith (r.Delivers engine world) r.out world
      ((Command.graph r).run engine World.host world).1
      ((Command.graph r).run engine World.host world).2 := by
  have hends := endsWith_deliver (r.keeps_draft engine) r.out world
  simp only [r.text_draft_eq_ok_iff] at hends
  exact hends

end SampleTypes.CommandLine
