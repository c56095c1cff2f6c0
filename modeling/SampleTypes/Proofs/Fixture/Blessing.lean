import SampleTypes.Proofs.Files.Writing
import SampleTypes.Proofs.Fixture.Names
import SampleTypes.Proofs.Fixture.Step

/-!
# Blessing

A run that makes outputs the expected texts writes the files with those texts that were others, and
no file besides.  After it all fixtures that it was run for pass, so that a second such run finds
nothing to write.

* `Passes`, `Stale`: a fixture with the expected output, or with another;
* `blesses_runCase`: what is done for one fixture; `blesses_runCases`: what is done for several;
* `World.writingOnly`: files of which only some can be written;
* `Blessed`: what there is after a run; `blessed_of_run`: it is there after each that succeeds.
-/

namespace SampleTypes

open Files (Entry Host Tree World)

/-- The operations on a tree of which only the files at some paths can be written. -/
def Files.World.writingOnly (allowed : List String) : Host (StateM World) :=
  { World.host with
    writeFile path text := fun world =>
      if path ∈ allowed then World.host.writeFile path text world
      else (.error .notFound, world) }

namespace Fixture

open Files (IsName)
open Files.Tree (LeadsTo SameBut)

/-! ### Fixtures -/

/-- A fixture whose output is the expected text. -/
def Passes (tree : Tree) (directory : String) (c : Case) (conversion : Conversion) : Prop :=
  conversionIn tree directory c = .ok conversion ∧
    tree.textAt (c.expectedPath directory) = .ok conversion.output

/-- A fixture whose expected text is not its output. -/
def Stale (tree : Tree) (directory : String) (c : Case) : Prop :=
  ∃ conversion expected, conversionIn tree directory c = .ok conversion ∧
    tree.textAt (c.expectedPath directory) = .ok expected ∧ conversion.output ≠ expected

theorem Passes.not_stale {tree : Tree} {directory : String} {c : Case} {conversion : Conversion}
    (h : Passes tree directory c conversion) : ¬ Stale tree directory c := by
  rintro ⟨other, expected, hother, hexpected, hne⟩
  obtain rfl := Except.ok.inj (h.1.symm.trans hother)
  exact hne (Except.ok.inj (h.2.symm.trans hexpected))

/-- A path leads to a directory. -/
def DirectoryAt (tree : Tree) (path : String) (way : List String) : Prop :=
  tree.LeadsTo path way ∧ ∃ entries, tree.root.follow way = .ok (.directory entries)

variable {tree tree' : Tree} {directory : String} {way : List String}
  {written : List String → Prop}

theorem DirectoryAt.of_sameBut (h : DirectoryAt tree directory way)
    (hsame : SameBut written tree tree') : DirectoryAt tree' directory way := by
  obtain ⟨hleads, entries, hway⟩ := h
  refine ⟨hsame.leadsTo hleads, ?_⟩
  have hlike := hsame.like way
  rw [hway] at hlike
  generalize tree'.root.follow way = found at hlike
  cases hlike with
  | directory _ => exact ⟨_, rfl⟩

/-- The text of a file is what its directory has under its name. -/
theorem DirectoryAt.textAt_join_eq_ok_iff (h : DirectoryAt tree directory way) {name text : String}
    (hname : IsName name) : tree.textAt (Files.join directory name) = .ok text ↔
      tree.root.follow (way ++ [name]) = .ok (.file text) := by
  obtain ⟨hleads, entries, hway⟩ := h
  rw [Tree.textAt_eq_ok_iff, hleads.find_join hway hname]

/-- A file that was not written has the text that it had. -/
theorem DirectoryAt.textAt_join_eq (h : DirectoryAt tree directory way)
    (hsame : SameBut written tree tree') {name : String} (hname : IsName name)
    (hnot : ¬ written (way ++ [name])) :
    tree'.textAt (Files.join directory name) = tree.textAt (Files.join directory name) := by
  obtain ⟨hleads', entries', hway'⟩ := h.of_sameBut hsame
  obtain ⟨hleads, entries, hway⟩ := h
  have hlike := hsame.like (way ++ [name])
  unfold Tree.textAt
  rw [hleads.find_join hway hname, hleads'.find_join hway' hname]
  generalize tree.root.follow (way ++ [name]) = found,
    tree'.root.follow (way ++ [name]) = found' at hlike ⊢
  cases hlike with
  | error e => rfl
  | directory _ => rfl
  | file htext => rw [htext.resolve_right hnot]

/-- Only files with expected texts are written. -/
def OnlyExpected (way : List String) (written : List String → Prop) : Prop :=
  ∀ place, written place → ∃ c : Case, place = way ++ [c.fileName]

theorem OnlyExpected.not_written (h : OnlyExpected way written) (start : String) :
    ¬ written (way ++ [start ++ ".json"]) := by
  intro hwritten
  obtain ⟨c, hc⟩ := h _ hwritten
  simp only [List.append_cancel_left_eq, List.cons.injEq, and_true] at hc
  exact Case.fileName_ne_append_json c start hc.symm

variable {c : Case}

theorem DirectoryAt.sample_eq (h : DirectoryAt tree directory way)
    (hsame : SameBut written tree tree') (honly : OnlyExpected way written) (hc : c.Proper) :
    tree'.textAt (c.samplePath directory) = tree.textAt (c.samplePath directory) :=
  h.textAt_join_eq hsame hc.isName_sample (honly.not_written c.name)

theorem DirectoryAt.settings_eq (h : DirectoryAt tree directory way)
    (hsame : SameBut written tree tree') (honly : OnlyExpected way written) (hc : c.Proper) :
    tree'.textAt (c.settingsPath directory) = tree.textAt (c.settingsPath directory) := by
  refine h.textAt_join_eq hsame hc.isName_settings ?_
  have hending : c.name ++ ".config.json" = (c.name ++ ".config") ++ ".json" := by
    rw [String.append_assoc]
    rfl
  rw [hending]
  exact honly.not_written _

/-- Outputs do not depend on expected texts. -/
theorem DirectoryAt.conversionIn_eq (h : DirectoryAt tree directory way)
    (hsame : SameBut written tree tree') (honly : OnlyExpected way written) (hc : c.Proper) :
    conversionIn tree' directory c = conversionIn tree directory c :=
  conversionIn_congr (h.sample_eq hsame honly hc) (hsame.kindAt?_eq _)
    (h.settings_eq hsame honly hc)

theorem Passes.of_sameBut {conversion : Conversion} (hpasses : Passes tree directory c conversion)
    (h : DirectoryAt tree directory way) (hsame : SameBut written tree tree')
    (honly : OnlyExpected way written) (hc : c.Proper)
    (hnot : ¬ written (way ++ [c.fileName])) : Passes tree' directory c conversion :=
  ⟨(h.conversionIn_eq hsame honly hc).trans hpasses.1,
    (h.textAt_join_eq hsame hc.isName_fileName hnot).trans hpasses.2⟩

/-! ### One fixture after the other -/

/--
What was done for fixtures whose outputs became the expected texts: they pass, and nothing else is
different than before.
-/
structure Blesses (way : List String) (directory : String) (cases : List Case)
    (world after : World) : Prop where
  same : SameBut (fun place => ∃ c ∈ cases, Stale world.toTree directory c ∧
    place = way ++ [c.fileName]) world.toTree after.toTree
  passes : ∃ conversions, List.Forall₂ (Passes after.toTree directory) cases conversions

variable {request : Request} {t t' : Tally} {world after : World} {allowed : List String}

/-- A fixture writes nothing but its expected text, if that is another. -/
theorem runCase_writingOnly (t : Tally) (hallowed : Stale world.toTree request.directory c →
    c.expectedPath request.directory ∈ allowed) :
    runCase (World.writingOnly allowed) request t c world =
      runCase World.host request t c world := by
  rw [runCase_eq World.host rfl, runCase_eq (World.writingOnly allowed) rfl]
  cases hconversion : conversionIn world.toTree request.directory c with
  | error cause => rfl
  | ok conversion =>
    dsimp only
    rw [run_compare World.host rfl, run_compare (World.writingOnly allowed) rfl]
    cases hexpected : world.textAt (c.expectedPath request.directory) with
    | error cause => rfl
    | ok expected =>
      dsimp only
      by_cases heq : conversion.output = expected
      · rw [if_pos heq, if_pos heq]
      · have hmem := hallowed ⟨conversion, expected, hconversion, hexpected, heq⟩
        have hwrite : (World.writingOnly allowed).writeFile (c.expectedPath request.directory)
            conversion.output world = World.host.writeFile (c.expectedPath request.directory)
              conversion.output world := if_pos hmem
        rw [hwrite]

/-- A fixture passes once its output is the expected text. -/
theorem passes_put (h : DirectoryAt tree directory way) (hc : c.Proper) {expected : String}
    (hold : tree.root.follow (way ++ [c.fileName]) = .ok (.file expected)) {conversion : Conversion}
    (hconversion : conversionIn tree directory c = .ok conversion) :
    Passes { tree with root := tree.root.put (way ++ [c.fileName]) (.file conversion.output) }
      directory c conversion := by
  have hsame := Tree.sameBut_put hold conversion.output
  have honly : OnlyExpected way (· = way ++ [c.fileName]) := fun _ hplace => ⟨c, hplace⟩
  refine ⟨(h.conversionIn_eq hsame honly hc).trans hconversion, ?_⟩
  refine ((h.of_sameBut hsame).textAt_join_eq_ok_iff hc.isName_fileName).2 ?_
  obtain ⟨-, entries, hway⟩ := h
  exact Entry.follow_put_self hway _ _

/-- An expected text is written in its place. -/
theorem DirectoryAt.writeFile_eq (h : DirectoryAt world.toTree directory way) (hc : c.Proper)
    {expected : String} (hold : world.root.follow (way ++ [c.fileName]) = .ok (.file expected))
    (output : String) : World.host.writeFile (c.expectedPath directory) output world =
      (.ok (), { world with root := world.root.put (way ++ [c.fileName]) (.file output) }) := by
  obtain ⟨hleads, entries, hway⟩ := h
  exact World.writeFile_host_eq_iff.2 ⟨_, hleads.write_join hway hc.isName_fileName hold _, rfl⟩

/-- One fixture whose output becomes the expected text. -/
theorem blesses_runCase (hbless : request.bless = true)
    (h : DirectoryAt world.toTree request.directory way) (hc : c.Proper)
    (hrun : runCase World.host request t c world = ((t', none), after)) :
    Blesses way request.directory [c] world after := by
  rw [runCase_eq World.host rfl] at hrun
  cases hconversion : conversionIn world.toTree request.directory c with
  | error cause =>
    rw [hconversion] at hrun
    cases hrun
  | ok conversion =>
    rw [hconversion] at hrun
    dsimp only at hrun
    rw [run_compare World.host rfl] at hrun
    cases hexpected : world.textAt (c.expectedPath request.directory) with
    | error cause =>
      rw [hexpected] at hrun
      cases hrun
    | ok expected =>
      rw [hexpected] at hrun
      dsimp only at hrun
      by_cases heq : conversion.output = expected
      · rw [if_pos heq] at hrun
        obtain ⟨-, rfl⟩ := Prod.mk.inj hrun
        exact ⟨.refl _ _, [conversion], .cons ⟨hconversion, heq ▸ hexpected⟩ .nil⟩
      · have hold := (h.textAt_join_eq_ok_iff hc.isName_fileName).1 hexpected
        rw [if_neg heq, if_pos hbless, h.writeFile_eq hc hold] at hrun
        obtain ⟨-, rfl⟩ := Prod.mk.inj hrun
        have hstale : Stale world.toTree request.directory c :=
          ⟨conversion, expected, hconversion, hexpected, heq⟩
        refine ⟨?_, [conversion], .cons (passes_put h hc hold hconversion) .nil⟩
        refine (Tree.sameBut_put hold conversion.output).mono ?_
        exact fun place hplace => ⟨c, List.mem_singleton_self c, hstale, hplace⟩

variable {cases : List Case}

theorem Blesses.onlyExpected (_ : Blesses way directory cases world after) :
    OnlyExpected way fun place => ∃ c ∈ cases, Stale world.toTree directory c ∧
      place = way ++ [c.fileName] :=
  fun _ ⟨c, _, _, hplace⟩ => ⟨c, hplace⟩

theorem not_written_of_not_stale (way : List String) (hcases : ∀ c ∈ cases, c.Proper)
    (hc : c.Proper) (hnot : ¬ (c ∈ cases ∧ Stale tree directory c)) :
    ¬ ∃ c' ∈ cases, Stale tree directory c' ∧ way ++ [c.fileName] = way ++ [c'.fileName] := by
  rintro ⟨c', hmem, hstale, hplace⟩
  have heq : c.fileName = c'.fileName := by simpa using hplace
  obtain rfl := Case.eq_of_fileName_eq hc (hcases c' hmem) heq
  exact hnot ⟨hmem, hstale⟩

/-- No fixture is stale that was not so before. -/
theorem Blesses.stale_of_stale (hblesses : Blesses way directory cases world after)
    (h : DirectoryAt world.toTree directory way) (hcases : ∀ c ∈ cases, c.Proper) (hc : c.Proper)
    (hstale : Stale after.toTree directory c) : Stale world.toTree directory c := by
  by_contra hnot
  obtain ⟨conversion, expected, hconversion, hexpected, hne⟩ := hstale
  have hwritten := not_written_of_not_stale way hcases hc fun hc => hnot hc.2
  refine hnot ⟨conversion, expected, ?_, ?_, hne⟩
  · rwa [h.conversionIn_eq hblesses.same hblesses.onlyExpected hc] at hconversion
  · exact (h.textAt_join_eq hblesses.same hc.isName_fileName hwritten).symm.trans hexpected

theorem Blesses.cons {between : World} (hfirst : Blesses way directory [c] world between)
    (hmore : Blesses way directory cases between after) (h : DirectoryAt world.toTree directory way)
    (hc : c.Proper) (hcases : ∀ c ∈ cases, c.Proper) :
    Blesses way directory (c :: cases) world after := by
  have hsingle : ∀ c' ∈ [c], c'.Proper := by simpa using hc
  have hbetween := h.of_sameBut hfirst.same
  obtain ⟨conversions, hpasses⟩ := hmore.passes
  obtain ⟨_, hfirstPasses⟩ := hfirst.passes
  refine ⟨?_, ?_⟩
  · refine (hfirst.same.mono ?_).trans (hmore.same.mono ?_)
    · rintro place ⟨c', hmem, hstale, hplace⟩
      exact ⟨c', List.mem_cons.2 (.inl (List.mem_singleton.1 hmem)), hstale, hplace⟩
    · rintro place ⟨c', hmem, hstale, hplace⟩
      exact ⟨c', List.mem_cons_of_mem c hmem,
        hfirst.stale_of_stale h hsingle (hcases c' hmem) hstale, hplace⟩
  · cases hfirstPasses with
    | @cons _ conversion _ _ hpassed _ =>
      -- What the other fixtures write leaves this one as it is, since it is not stale any more.
      have hnot := not_written_of_not_stale way hcases hc
        fun hstale => hpassed.not_stale hstale.2
      exact ⟨conversion :: conversions,
        .cons (hpassed.of_sameBut hbetween hmore.same hmore.onlyExpected hc hnot) hpasses⟩

/-- All fixtures, one after the other. -/
theorem blesses_runCases (hbless : request.bless = true)
    (h : DirectoryAt world.toTree request.directory way) (hcases : ∀ c ∈ cases, c.Proper)
    (hrun : runCases World.host request t cases world = ((t', none), after)) :
    Blesses way request.directory cases world after ∧
      ∀ allowed : List String, (∀ c ∈ cases, Stale world.toTree request.directory c →
        c.expectedPath request.directory ∈ allowed) →
          runCases (World.writingOnly allowed) request t cases world = ((t', none), after) := by
  induction cases generalizing t world with
  | nil =>
    cases hrun
    exact ⟨⟨.refl _ _, [], .nil⟩, fun _ _ => rfl⟩
  | cons c cases ih =>
    rw [List.forall_mem_cons] at hcases
    rw [runCases_cons_eq] at hrun
    rcases hstep : runCase World.host request t c world with ⟨⟨next, _ | cause⟩, between⟩
    · rw [hstep] at hrun
      have hfirst := blesses_runCase hbless h hcases.1 hstep
      obtain ⟨hmore, hlimited⟩ := ih (h.of_sameBut hfirst.same) hcases.2 hrun
      refine ⟨hfirst.cons hmore h hcases.1 hcases.2, fun allowed hallowed => ?_⟩
      rw [List.forall_mem_cons] at hallowed
      rw [runCases_cons_eq, runCase_writingOnly t hallowed.1, hstep]
      refine hlimited allowed fun c' hmem hstale => hallowed.2 c' hmem ?_
      exact hfirst.stale_of_stale h (by simpa using hcases.1) (hcases.2 c' hmem) hstale
    · rw [hstep] at hrun
      cases hrun

/-! ### Runs -/

/-- The report on fixtures that pass. -/
def passedLines (cases : List Case) (conversions : List Conversion) : List String :=
  (List.zipWith (fun c conversion => warningLines conversion ++ ["ok " ++ c.label]) cases
    conversions).flatten

/-- Fixtures that pass leave all files as they are, whatever can be written. -/
theorem runCases_of_passes (host : Host (StateM World)) (hview : host.toView = World.view)
    {conversions : List Conversion}
    (h : List.Forall₂ (Passes world.toTree request.directory) cases conversions) (t : Tally) :
    runCases host request t cases world =
      ((t.add (passedLines cases conversions), none), world) := by
  induction h generalizing t with
  | nil =>
    show ((t, none), world) = ((t.add [], none), world)
    simp [Tally.add]
  | @cons c conversion cases conversions hpasses _ ih =>
    have hstep : runCase host request t c world =
        ((t.add (warningLines conversion ++ ["ok " ++ c.label]), none), world) := by
      rw [runCase_eq host hview, hpasses.1]
      dsimp only
      rw [run_compare host hview, hpasses.2]
      dsimp only
      rw [if_pos rfl]
      simp [Tally.count, Tally.add, Verdict.report]
    rw [runCases_cons_eq, hstep]
    dsimp only
    rw [ih]
    simp [Tally.add, passedLines]

/-- A run over fixtures that all pass says so. -/
theorem run_of_passes (request : Request) (host : Host (StateM World))
    (hview : host.toView = World.view) {names : List String}
    (hnames : world.namesAt request.directory = .ok names)
    {conversions : List Conversion}
    (h : List.Forall₂ (Passes world.toTree request.directory)
      (Case.select request.filter (Case.ofNames names)) conversions) :
    request.run host world =
      ({ stdout := CommandLine.unlines <|
          passedLines (Case.select request.filter (Case.ofNames names)) conversions ++
            [toString (Case.select request.filter (Case.ofNames names)).length ++
              " fixtures, 0 failed"] }, world) := by
  rw [run_eq host hview, hnames]
  dsimp only
  rw [runCases_of_passes host hview h]
  have hcount : ∀ number : String,
      number ++ " fixtures, " ++ toString 0 ++ " failed" = number ++ " fixtures, 0 failed" := by
    intro number
    rw [String.append_assoc, String.append_assoc]
    rfl
  simp only [finished, Tally.add, List.nil_append, hcount]
  rfl

theorem exists_runCases_of_run {host : Host (StateM World)} (hview : host.toView = World.view)
    {outcome : CommandLine.Outcome} (hrun : request.run host world = (outcome, after))
    (hexit : outcome.exit.code = 0) :
    ∃ names t, world.namesAt request.directory = .ok names ∧
      runCases host request {} (Case.select request.filter (Case.ofNames names)) world =
        ((t, none), after) ∧
      outcome = finished (Case.select request.filter (Case.ofNames names)).length t := by
  rw [run_eq host hview] at hrun
  cases hnames : world.namesAt request.directory with
  | error cause =>
    rw [hnames] at hrun
    cases hrun
    simp [brokenOff, CommandLine.Exit.code] at hexit
  | ok names =>
    rw [hnames] at hrun
    dsimp only at hrun
    rcases hcases : runCases host request {} (Case.select request.filter (Case.ofNames names))
      world with ⟨⟨t, _ | cause⟩, between⟩
    · rw [hcases] at hrun
      cases hrun
      exact ⟨names, t, rfl, hcases, rfl⟩
    · rw [hcases] at hrun
      cases hrun
      simp [brokenOff, CommandLine.Exit.code] at hexit

/-- A fixture ends as before if its output and its expected text are as before. -/
theorem runCase_congr (request : Request) (hbless : request.bless = false)
    (hconversion : conversionIn after.toTree request.directory c =
      conversionIn world.toTree request.directory c)
    (htext : after.textAt (c.expectedPath request.directory) =
      world.textAt (c.expectedPath request.directory)) (t : Tally) :
    (runCase World.host request t c after).1 = (runCase World.host request t c world).1 := by
  have hbless : ¬ request.bless := by simp [hbless]
  rw [runCase_eq World.host rfl, runCase_eq World.host rfl, hconversion]
  cases conversionIn world.toTree request.directory c with
  | error cause => rfl
  | ok conversion =>
    dsimp only
    rw [run_compare World.host rfl, run_compare World.host rfl, htext]
    cases world.textAt (c.expectedPath request.directory) with
    | error cause => rfl
    | ok expected =>
      dsimp only
      rw [if_neg hbless, if_neg hbless]
      by_cases heq : conversion.output = expected
      · rw [if_pos heq, if_pos heq]
      · rw [if_neg heq, if_neg heq]

/--
What there is after a run that made outputs the expected texts: `found` are the fixtures of the
directory, and `cases` those that the run was for.
-/
structure Blessed (request : Request) (found cases : List Case) (world : World)
    (outcome : CommandLine.Outcome) (after : World) : Prop where
  /-- Each fixture passes, and a further run of either kind says so and changes nothing. -/
  passing : ∃ conversions,
    List.Forall₂ (Passes after.toTree request.directory) cases conversions ∧
    ∀ bless, ({ request with bless } : Request).run World.host after =
      ({ stdout := CommandLine.unlines <| passedLines cases conversions ++
          [toString cases.length ++ " fixtures, 0 failed"] }, after)
  /-- A further run does not even try to write. -/
  idle : request.run (World.writingOnly []) after = request.run World.host after
  /-- The run wrote only expected texts of its fixtures, where they were not the output. -/
  writes : ∀ allowed : List String,
    (∀ c ∈ cases, Stale world.toTree request.directory c →
      c.expectedPath request.directory ∈ allowed) →
    request.run (World.writingOnly allowed) world = (outcome, after)
  /-- Whatever is somewhere else is as before. -/
  unchanged : ∀ path, after.namesAt path = world.namesAt path ∧
    after.kindAt? path = world.kindAt? path ∧
    (after.textAt path = world.textAt path ∨
      ∃ c ∈ cases, Stale world.toTree request.directory c ∧
        ∃ way, world.LeadsTo path way ∧
          world.LeadsTo (c.expectedPath request.directory) way)
  /-- Samples and settings are as before. -/
  inputs : ∀ c ∈ found,
    after.textAt (c.samplePath request.directory) =
      world.textAt (c.samplePath request.directory) ∧
    after.textAt (c.settingsPath request.directory) =
      world.textAt (c.settingsPath request.directory)
  /-- All other fixtures end as before. -/
  others : ∀ c ∈ found, ¬ (c ∈ cases ∧ Stale world.toTree request.directory c) → ∀ t,
    (runCase World.host { request with bless := false } t c after).1 =
      (runCase World.host { request with bless := false } t c world).1

theorem Stale.leadsTo (h : DirectoryAt tree directory way) (hc : c.Proper)
    (hstale : Stale tree directory c) :
    tree.LeadsTo (c.expectedPath directory) (way ++ [c.fileName]) := by
  obtain ⟨conversion, expected, -, hexpected, -⟩ := hstale
  have hfile := (h.textAt_join_eq_ok_iff hc.isName_fileName).1 hexpected
  obtain ⟨hleads, entries, hway⟩ := h
  exact hleads.join hway hc.isName_fileName hfile

/-- A run in a directory. -/
theorem Blesses.blessed {names : List String} {outcome : CommandLine.Outcome}
    (hblesses : Blesses way request.directory
      (Case.select request.filter (Case.ofNames names)) world after)
    (h : DirectoryAt world.toTree request.directory way)
    (hproper : ∀ c ∈ Case.ofNames names, c.Proper)
    (hnames : world.namesAt request.directory = .ok names)
    (hwrites : ∀ allowed : List String,
      (∀ c ∈ Case.select request.filter (Case.ofNames names),
        Stale world.toTree request.directory c → c.expectedPath request.directory ∈ allowed) →
      request.run (World.writingOnly allowed) world = (outcome, after)) :
    Blessed request (Case.ofNames names) (Case.select request.filter (Case.ofNames names)) world
      outcome after := by
  have hselected : ∀ c ∈ Case.select request.filter (Case.ofNames names), c.Proper :=
    fun c hc => hproper c (Case.mem_of_mem_select hc)
  have hnames' := (hblesses.same.namesAt_eq request.directory).trans hnames
  obtain ⟨conversions, hpasses⟩ := hblesses.passes
  have hagain := fun (host : Host (StateM World)) (hview : host.toView = World.view) =>
    run_of_passes request host hview hnames' hpasses
  refine ⟨⟨conversions, hpasses, fun bless => ?_⟩, ?_, hwrites, fun path => ?_, fun c hc => ?_,
    fun c hc hnot t => ?_⟩
  · exact run_of_passes { request with bless } World.host rfl hnames' hpasses
  · rw [hagain (World.writingOnly []) rfl, hagain World.host rfl]
  · refine ⟨hblesses.same.namesAt_eq path, hblesses.same.kindAt?_eq path, ?_⟩
    refine (hblesses.same.textAt_eq_or path).imp_right ?_
    rintro ⟨place, hplace, c, hc, hstale, rfl⟩
    exact ⟨c, hc, hstale, _, hplace, hstale.leadsTo h (hselected c hc)⟩
  · exact ⟨h.sample_eq hblesses.same hblesses.onlyExpected (hproper c hc),
      h.settings_eq hblesses.same hblesses.onlyExpected (hproper c hc)⟩
  · refine runCase_congr { request with bless := false } rfl
      (h.conversionIn_eq hblesses.same hblesses.onlyExpected (hproper c hc))
      (h.textAt_join_eq hblesses.same (hproper c hc).isName_fileName ?_) t
    exact not_written_of_not_stale way hselected (hproper c hc) hnot

/--
A run that makes outputs the expected texts and does not break off leaves nothing to do: the
fixtures that it was run for pass, and it wrote what made them pass and no more.
-/
theorem blessed_of_run (request : Request) (hbless : request.bless = true) (world after : World)
    (outcome : CommandLine.Outcome)
    (hnames : ∀ names, world.namesAt request.directory = .ok names →
      ∀ name ∈ names, '/' ∉ name.toList)
    (hrun : request.run World.host world = (outcome, after)) (hexit : outcome.exit.code = 0) :
    ∃ names, world.namesAt request.directory = .ok names ∧
      Blessed request (Case.ofNames names) (Case.select request.filter (Case.ofNames names)) world
        outcome after := by
  obtain ⟨names, t, hlist, hcases, rfl⟩ := exists_runCases_of_run rfl hrun hexit
  have hproper : ∀ c ∈ Case.ofNames names, c.Proper :=
    fun c hc => Case.proper_of_mem hc (hnames names hlist)
  have hselected : ∀ c ∈ Case.select request.filter (Case.ofNames names), c.Proper :=
    fun c hc => hproper c (Case.mem_of_mem_select hc)
  refine ⟨names, hlist, ?_⟩
  obtain ⟨entries, hfind, rfl⟩ : ∃ entries, world.find request.directory =
      .ok (.directory entries) ∧ names = entries.map (·.1) := by
    unfold Tree.namesAt at hlist
    split at hlist
    · simp at hlist
    · rename_i entries hfind
      exact ⟨entries, hfind, (Except.ok.inj hlist).symm⟩
    · simp at hlist
  obtain ⟨way, hleads, hway⟩ := Tree.exists_leadsTo_of_find hfind
  have h : DirectoryAt world.toTree request.directory way := ⟨hleads, entries, hway⟩
  obtain ⟨hblesses, hlimited⟩ := blesses_runCases hbless h hselected hcases
  refine hblesses.blessed h hproper hlist fun allowed hallowed => ?_
  rw [run_eq (World.writingOnly allowed) rfl, hlist]
  dsimp only
  rw [hlimited allowed hallowed]

/-- A fixture with an outdated text is blessed, and passes. -/
theorem blessed_of_run_of_one_fixture :
    let output := "export interface Root \x7b\n  A: number;\n\x7d\n"
    let files := fun expected : String =>
      [("s.json", Entry.file "\x7b\"a\":1\x7d"), ("s.ts.expected", Entry.file expected)]
    let request : Request := { directory := ".", bless := true }
    let world : World := { root := .directory (files "") }
    let after : World := { root := .directory (files output) }
    request.run World.host world = ({ stdout := "blessed s [ts]\n1 fixtures, 0 failed\n" }, after) ∧
      ∃ names, world.namesAt "." = .ok names ∧
        Blessed request (Case.ofNames names) (Case.select none (Case.ofNames names)) world
          { stdout := "blessed s [ts]\n1 fixtures, 0 failed\n" } after := by
  intro output files request world after
  have hnames : world.namesAt "." = .ok ["s.json", "s.ts.expected"] := by decide +kernel
  have hselected : Case.select none (Case.ofNames ["s.json", "s.ts.expected"]) = [⟨"s", "ts"⟩] := by
    decide +kernel
  have hconversion : conversionIn world.toTree "." ⟨"s", "ts"⟩ = .ok ⟨output, []⟩ :=
    conversionIn_one_member ""
  have hexpected : world.textAt (Case.expectedPath "." ⟨"s", "ts"⟩) = .ok "" := by
    decide +kernel
  have hwrite : World.host.writeFile (Case.expectedPath "." ⟨"s", "ts"⟩) output world =
      (.ok (), after) :=
    World.writeFile_host_eq_iff.2 ⟨after.root, by rfl, rfl⟩
  have hrun : request.run World.host world =
      ({ stdout := "blessed s [ts]\n1 fixtures, 0 failed\n" }, after) := by
    rw [run_eq World.host rfl, hnames]
    dsimp only
    rw [hselected, runCases_cons_eq, runCase_eq World.host rfl, hconversion]
    dsimp only
    rw [run_compare World.host rfl, hexpected]
    dsimp only
    rw [if_neg (by decide), if_pos rfl, hwrite]
    exact Prod.ext (by decide +kernel) rfl
  refine ⟨hrun, blessed_of_run request rfl world after _ ?_ hrun rfl⟩
  intro names hlist
  obtain rfl := Except.ok.inj (hnames.symm.trans hlist)
  decide

end Fixture

end SampleTypes
