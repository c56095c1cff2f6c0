import SampleTypes.Proofs.Files.Actions
import SampleTypes.Proofs.Json.DocumentLines
import SampleTypes.Proofs.Results
import SampleTypes.Samples.Source

/-!
# Selected samples

Which samples a selection stands for, said of the files as they are: sources one after the other,
the documents in their texts, and what each document gives.

* `Selection.Selects`: the samples; `exists_gives_load_iff`: they are what is loaded;
* `Selection.keeps_load`: loading changes no file.
-/

namespace SampleTypes

open Files (Kind Tree World)
open Json (Value documentLines)
open Files.World (Gives Keeps Looks gives_bind_iff)

/-! ### Patterns -/

theorem Glob.looks_search (directoriesOnly : Bool) (fuel : Nat) :
    (∀ parts path name kind, Looks (visit World.view directoriesOnly fuel parts path name kind)) ∧
    (∀ part more path name kind,
      Looks (enter World.view directoriesOnly fuel part more path name kind)) ∧
    ∀ parts directory kind,
      Looks (search World.view directoriesOnly fuel parts directory kind) := by
  induction fuel with
  | zero =>
    refine ⟨fun _ _ _ _ => ?_, fun _ _ _ _ _ => ?_, fun _ _ _ => ?_⟩
    · rw [visit]; exact .pure _
    · rw [enter]; exact .pure _
    · rw [search]; exact .pure _
  | succ fuel ih =>
    obtain ⟨hvisit, henter, hsearch⟩ := ih
    refine ⟨fun parts path name kind => ?_, fun part more path name kind => ?_,
      fun parts directory kind => ?_⟩
    · cases parts with
      | nil => rw [visit]; exact .pure _; simp
      | cons part more =>
        rw [visit]
        split
        · dsimp only
          split
          · refine (hsearch _ _ _).bind fun deeper => ?_
            split
            · exact .pure _
            · exact (henter _ _ _ _ _).bind fun _ => .pure _
          · refine (Looks.pure _).bind fun deeper => ?_
            split
            · exact .pure _
            · exact (henter _ _ _ _ _).bind fun _ => .pure _
        · exact henter _ _ _ _ _
    · rw [enter]
      split
      · exact .pure _
      · split
        · exact .pure _
        · exact hsearch _ _ _
    · cases parts with
      | nil => rw [search]; exact .pure _; simp
      | cons part more =>
        rw [search]
        split
        · dsimp only
          have hthere : ∀ path kind, Looks (if more.isEmpty then
              pure (reached directoriesOnly path kind)
            else search World.view directoriesOnly fuel more path kind) := by
            intro path kind
            split
            · exact .pure _
            · exact hsearch _ _ _
          refine Looks.bind (fun _ => rfl) fun found => ?_
          split
          · split
            · exact .pure _
            · exact hthere _ _
          · split
            · exact .pure _
            · exact hthere _ _
        · split
          · exact .pure _
          · refine Looks.bind (fun _ => rfl) fun listed => ?_
            split
            · exact .pure _
            · refine (Looks.mapM _ fun name => ?_).bind fun above => ?_
              · dsimp only
                split
                · exact .pure _
                · exact hsearch _ _ _
              · exact (Looks.mapM _ fun name =>
                  Looks.bind (fun _ => rfl) fun kind => hvisit _ _ _ _).bind fun _ => .pure _

/-- A pattern is expanded without a change of the world. -/
theorem Glob.looks_expand (pattern : Glob.Pattern) : Looks (pattern.expand World.view) :=
  (Glob.looks_search _ _).2.2 _ _ _

/-! ### Sources -/

/-- The sources that an input stands for. -/
inductive StandsFor (world : World) : String → List Source → Prop
  | stdin : StandsFor world "-" [.stdin]
  | file {path : String} : path ≠ "-" → isPattern path = false → StandsFor world path [.file path]
  | pattern {input : String} {pattern : Glob.Pattern} {paths : List String} :
      input ≠ "-" → isPattern input → Glob.Pattern.parse input = .ok pattern →
        (pattern.expand World.view world).1 = paths.map .ok → paths ≠ [] →
          StandsFor world input (paths.map .file)

theorem looks_sourcesOf (input : String) : Looks (sourcesOf World.view input).run := by
  unfold sourcesOf
  split
  · exact fun _ => rfl
  · split
    · exact fun _ => rfl
    · split
      · exact fun _ => rfl
      · rename_i pattern _
        refine Looks.run_bind (fun world => Glob.looks_expand pattern world) fun found => ?_
        refine Looks.run_bind (fun _ => rfl) fun paths => ?_
        split <;> exact fun _ => rfl

/-- What a pattern gives is what it is expanded to, if that is anything and has no failure. -/
theorem gives_sourcesOf_pattern_iff {world after : World} {input : String} {sources : List Source}
    (hstdin : input ≠ "-") (hinput : isPattern input) {pattern : Glob.Pattern}
    (hparse : Glob.Pattern.parse input = .ok pattern) :
    Gives (sourcesOf World.view input) world sources after ↔
      ∃ paths, (pattern.expand World.view world).1 = paths.map .ok ∧ paths ≠ [] ∧
        sources = paths.map .file ∧ after = world := by
  have hexpand : ∀ found between, pattern.expand World.view world = (found, between) ↔
      (pattern.expand World.view world).1 = found ∧ between = world := by
    intro found between
    have hlooks := Glob.looks_expand pattern world
    constructor
    · intro h
      rw [h] at hlooks ⊢
      exact ⟨rfl, hlooks⟩
    · rintro ⟨rfl, rfl⟩
      exact Prod.ext rfl hlooks
  simp only [sourcesOf, hstdin, hinput, hparse, if_false, Bool.not_true, Bool.false_eq_true,
    gives_bind_iff, World.gives_lift_iff, World.gives_except_iff, except_mapError_eq_ok_iff,
    except_mapM_id_eq_ok_iff, hexpand]
  constructor
  · rintro ⟨found, _, ⟨rfl, rfl⟩, paths, _, ⟨hfound, rfl⟩, h⟩
    split at h
    · simp at h
    · rename_i hempty
      obtain ⟨rfl, rfl⟩ := World.gives_pure_iff.1 h
      exact ⟨paths, hfound, by simpa using hempty, rfl, rfl⟩
  · rintro ⟨paths, hfound, hne, rfl, rfl⟩
    refine ⟨_, _, ⟨rfl, rfl⟩, paths, _, ⟨hfound, rfl⟩, ?_⟩
    rw [if_neg (by simpa using hne)]
    exact World.gives_pure_iff.2 ⟨rfl, rfl⟩

/-- An input gives the sources that it stands for. -/
theorem gives_sourcesOf_iff {world after : World} {input : String} {sources : List Source} :
    Gives (sourcesOf World.view input) world sources after ↔
      StandsFor world input sources ∧ after = world := by
  by_cases hstdin : input = "-"
  · have hsources : sourcesOf World.view input = pure [.stdin] := by simp [sourcesOf, hstdin]
    rw [hsources, World.gives_pure_iff]
    refine and_congr_left' ⟨?_, fun h => ?_⟩
    · rintro rfl
      exact hstdin ▸ .stdin
    · cases h <;> simp_all
  by_cases hinput : isPattern input
  · cases hparse : Glob.Pattern.parse input with
    | error cause =>
      have hsources : sourcesOf World.view input = throw (.badPattern input cause) := by
        simp [sourcesOf, hstdin, hinput, hparse]
      rw [hsources]
      refine iff_of_false World.not_gives_throw ?_
      rintro ⟨h, -⟩
      cases h <;> simp_all
    | ok pattern =>
      rw [gives_sourcesOf_pattern_iff hstdin hinput hparse]
      constructor
      · rintro ⟨paths, hfound, hne, rfl, rfl⟩
        exact ⟨.pattern hstdin hinput hparse hfound hne, rfl⟩
      · rintro ⟨h, rfl⟩
        cases h with
        | stdin => exact absurd rfl hstdin
        | file _ hfile => simp [hinput] at hfile
        | @pattern _ pattern' paths _ _ hparse' hfound hne =>
          obtain rfl := Except.ok.inj (hparse.symm.trans hparse')
          exact ⟨paths, hfound, hne, rfl, rfl⟩
  · have hsources : sourcesOf World.view input = pure [.file input] := by
      simp [sourcesOf, hstdin, hinput]
    rw [hsources, World.gives_pure_iff]
    refine and_congr_left' ⟨?_, fun h => ?_⟩
    · rintro rfl
      exact .file hstdin (by simpa using hinput)
    · cases h <;> simp_all

/-- The sources that a selection asks for, in their order; without inputs it is standard input. -/
def Selection.Asks (selection : Selection) (world : World) (sources : List Source) : Prop :=
  if selection.inputs = [] then sources = [.stdin]
  else ∃ each, List.Forall₂ (StandsFor world) selection.inputs each ∧ sources = each.flatten

theorem Selection.gives_sources_iff {selection : Selection} {world after : World}
    {sources : List Source} :
    Gives (selection.sources World.view) world sources after ↔
      selection.Asks world sources ∧ after = world := by
  unfold Selection.sources Asks
  by_cases hinputs : selection.inputs = []
  · simp [hinputs]
  · have hempty : ¬ selection.inputs.isEmpty := by simpa using hinputs
    rw [if_neg hempty, if_neg hinputs, gives_bind_iff]
    simp only [World.gives_mapM_iff looks_sourcesOf, gives_sourcesOf_iff, World.gives_pure_iff,
      and_true]
    constructor
    · rintro ⟨each, _, ⟨rfl, heach⟩, rfl, rfl⟩
      exact ⟨⟨each, heach, rfl⟩, rfl⟩
    · rintro ⟨⟨each, heach, rfl⟩, rfl⟩
      exact ⟨each, _, ⟨rfl, heach⟩, rfl, rfl⟩

/-! ### Texts and documents -/

/--
The texts of sources that are read one after the other, given what is left of standard input.  What
was read of it is not there any more.
-/
inductive Reads (tree : Tree) : String → List Source → List String → Prop
  | nil {stdin : String} : Reads tree stdin [] []
  | stdin {stdin : String} {sources : List Source} {texts : List String} :
      Reads tree "" sources texts → Reads tree stdin (.stdin :: sources) (stdin :: texts)
  | file {stdin path text : String} {sources : List Source} {texts : List String} :
      tree.textAt path = .ok text → Reads tree stdin sources texts →
        Reads tree stdin (.file path :: sources) (text :: texts)

theorem Reads.unique {tree : Tree} {stdin : String} {sources : List Source}
    {texts others : List String} (h : Reads tree stdin sources texts)
    (h' : Reads tree stdin sources others) : texts = others := by
  induction h generalizing others with
  | nil =>
    cases h'
    rfl
  | stdin _ ih =>
    cases h' with
    | stdin hmore => rw [ih hmore]
  | file htext _ ih =>
    cases h' with
    | file hother hmore => rw [ih hmore, Except.ok.inj (htext.symm.trans hother)]

/--
What a filter makes of a document: the values of the outputs that its engine gives, in their order.
The engine takes the filter, and no output is a failure or another text.
-/
def Filter.Makes (engine : Engine) (filter : String) (document : Value) (values : List Value) :
    Prop :=
  ∃ outputs, engine.compile filter = .ok outputs ∧
    List.Forall₂ (fun output value => ∃ text, output = .ok text ∧ Json.parse text = .ok value)
      (outputs document) values

theorem Filter.run_eq_ok_iff {engine : Engine} {filter : String} {document : Value}
    {values : List Value} :
    run engine filter document = .ok values ↔ Makes engine filter document values := by
  have hvalue : ∀ output value, valueOf output = .ok value ↔
      ∃ text, output = .ok text ∧ Json.parse text = .ok value := by
    intro output value
    unfold valueOf
    simp only [except_bind_eq_ok_iff, except_mapError_eq_ok_iff]
  unfold run Makes
  simp only [except_bind_eq_ok_iff, except_mapError_eq_ok_iff, except_mapM_eq_ok_iff, hvalue]

/-- An engine for one filter only, which makes the same object of every document. -/
def Filter.objectEngine : Engine where
  compile filter :=
    if filter = "\x7ba: 1\x7d" then .ok fun _ => [.ok "\x7b\"a\":1\x7d"]
    else .error (.unreadable [filter])

namespace Selection

/-- The documents in a text: itself, or all its lines that are not blank. -/
def Holds (selection : Selection) (text : String) (documents : List Value) : Prop :=
  if selection.perLine then
    List.Forall₂ (fun line document => Json.parse line = .ok document)
      (documentLines (Text.lines text)) documents
  else ∃ document, Json.parse text = .ok document ∧ documents = [document]

/-- The part of a document that is used. -/
def PointsTo (selection : Selection) (document part : Value) : Prop :=
  match selection.pointer with
  | none => part = document
  | some pointer => Json.pointer? document pointer = some part

/-- The samples that a document gives: the part that is used, or what the filter makes of it. -/
def Draws (engine : Filter.Engine) (selection : Selection) (document : Value)
    (samples : List Value) : Prop :=
  ∃ part, selection.PointsTo document part ∧
    match selection.filter with
    | none => samples = [part]
    | some filter => Filter.Makes engine filter part samples

/-- The samples in texts, in the order of the texts and of the documents in each; there is one. -/
def Finds (engine : Filter.Engine) (selection : Selection) (texts : List String)
    (samples : List Value) : Prop :=
  ∃ documents parts, List.Forall₂ selection.Holds texts documents ∧
    List.Forall₂ (selection.Draws engine) documents.flatten parts ∧ samples = parts.flatten ∧
      samples ≠ []

/-- The samples that a selection stands for. -/
def Selects (engine : Filter.Engine) (selection : Selection) (world : World)
    (samples : List Value) : Prop :=
  ∃ sources texts, selection.Asks world sources ∧ Reads world.toTree world.stdin sources texts ∧
    selection.Finds engine texts samples

variable {engine : Filter.Engine} {selection : Selection}

theorem documents_eq_ok_iff {label text : String} {documents : List Value} :
    selection.documents label text = .ok documents ↔ selection.Holds text documents := by
  unfold Selection.documents Holds
  split
  · rw [except_mapError_eq_ok_iff, Json.parseLines_eq_ok_iff]
  · rw [except_mapError_eq_ok_iff, except_map_eq_ok_iff]
    simp [eq_comm]

theorem Holds.unique {text : String} {documents others : List Value}
    (h : selection.Holds text documents) (h' : selection.Holds text others) :
    documents = others := by
  have h : selection.documents "" text = .ok documents := documents_eq_ok_iff.2 h
  have h' : selection.documents "" text = .ok others := documents_eq_ok_iff.2 h'
  exact Except.ok.inj (h.symm.trans h')

theorem focus_eq_ok_iff {label : String} {document part : Value} :
    selection.focus label document = .ok part ↔ selection.PointsTo document part := by
  unfold Selection.focus PointsTo
  cases selection.pointer with
  | none => simp [eq_comm]
  | some pointer => cases h : Json.pointer? document pointer <;> simp [h]

theorem samplesOf_eq_ok_iff {label : String} {document : Value} {samples : List Value} :
    selection.samplesOf engine label document = .ok samples ↔
      selection.Draws engine document samples := by
  unfold Selection.samplesOf Draws
  rw [except_bind_eq_ok_iff]
  simp only [focus_eq_ok_iff]
  cases selection.filter with
  | none => simp [eq_comm]
  | some filter => simp [except_mapError_eq_ok_iff, Filter.run_eq_ok_iff]

theorem samplesOfAll_eq_ok_iff {documents : List (String × Value)} {samples : List Value} :
    selection.samplesOfAll engine documents = .ok samples ↔
      ∃ parts, List.Forall₂ (selection.Draws engine) (documents.map (·.2)) parts ∧
        samples = parts.flatten ∧ samples ≠ [] := by
  unfold Selection.samplesOfAll
  rw [except_bind_eq_ok_iff]
  simp only [except_mapM_eq_ok_iff, samplesOf_eq_ok_iff, List.forall₂_map_left_iff]
  refine exists_congr fun parts => and_congr_right fun _ => ?_
  by_cases hempty : parts.flatten = []
  · simp [hempty]
  · rw [if_neg (by simpa using hempty), Except.ok.injEq]
    constructor
    · rintro rfl
      exact ⟨rfl, hempty⟩
    · exact fun h => h.1.symm

/-! ### One result -/

theorem Asks.unique {world : World} {sources others : List Source}
    (h : selection.Asks world sources) (h' : selection.Asks world others) : sources = others := by
  have h : Gives (selection.sources World.view) world sources world := gives_sources_iff.2 ⟨h, rfl⟩
  have h' : Gives (selection.sources World.view) world others world := gives_sources_iff.2 ⟨h', rfl⟩
  have heq := Eq.trans (Eq.symm h) h'
  simpa using heq

/-- The samples that are selected are those found in the texts that are read. -/
theorem selects_iff_finds {world : World} {sources : List Source} {texts : List String}
    (hasks : selection.Asks world sources) (hreads : Reads world.toTree world.stdin sources texts)
    {samples : List Value} :
    selection.Selects engine world samples ↔ selection.Finds engine texts samples := by
  constructor
  · rintro ⟨sources', texts', hasks', hreads', hfinds⟩
    obtain rfl := hasks.unique hasks'
    obtain rfl := hreads.unique hreads'
    exact hfinds
  · exact fun hfinds => ⟨sources, texts, hasks, hreads, hfinds⟩

/-- The samples found in texts are drawn from the documents that the texts hold. -/
theorem finds_iff_draws {texts : List String} {documents : List (List Value)}
    (hholds : List.Forall₂ selection.Holds texts documents) {samples : List Value} :
    selection.Finds engine texts samples ↔ ∃ parts,
      List.Forall₂ (selection.Draws engine) documents.flatten parts ∧ samples = parts.flatten ∧
        samples ≠ [] := by
  constructor
  · rintro ⟨others, parts, hothers, hparts⟩
    obtain rfl := List.right_unique_forall₂' (fun _ _ _ h h' => h.unique h') hholds hothers
    exact ⟨parts, hparts⟩
  · rintro ⟨parts, hparts⟩
    exact ⟨documents, parts, hholds, hparts⟩

/-! ### Loading -/

theorem gives_documentsIn_stdin_iff {world after : World} {found : List (String × Value)} :
    Gives (selection.documentsIn World.view .stdin) world found after ↔
      ∃ documents, selection.Holds world.stdin documents ∧
        found = documents.map (Source.stdin.label, ·) ∧ after = { world with stdin := "" } := by
  simp only [Selection.documentsIn, Source.read, gives_bind_iff, World.gives_lift_iff,
    World.readStdin_view_eq_iff, World.gives_except_iff, documents_eq_ok_iff, World.gives_pure_iff]
  constructor
  · rintro ⟨text, _, ⟨rfl, rfl⟩, documents, _, ⟨hholds, rfl⟩, rfl, rfl⟩
    exact ⟨documents, hholds, rfl, rfl⟩
  · rintro ⟨documents, hholds, rfl, rfl⟩
    exact ⟨_, _, ⟨rfl, rfl⟩, documents, _, ⟨hholds, rfl⟩, rfl, rfl⟩

theorem gives_documentsIn_file_iff {world after : World} {path : String}
    {found : List (String × Value)} :
    Gives (selection.documentsIn World.view (.file path)) world found after ↔
      ∃ text documents, world.textAt path = .ok text ∧ selection.Holds text documents ∧
        found = documents.map (path, ·) ∧ after = world := by
  simp only [Selection.documentsIn, Source.read, gives_bind_iff, World.gives_mapError_iff,
    World.readFile_view_eq_iff, World.gives_except_iff, documents_eq_ok_iff, World.gives_pure_iff]
  constructor
  · rintro ⟨text, _, ⟨htext, rfl⟩, documents, _, ⟨hholds, rfl⟩, rfl, rfl⟩
    exact ⟨text, documents, htext, hholds, rfl, rfl⟩
  · rintro ⟨text, documents, htext, hholds, rfl, rfl⟩
    exact ⟨text, _, ⟨htext, rfl⟩, documents, _, ⟨hholds, rfl⟩, rfl, rfl⟩

/-- The documents that sources give are those in their texts. -/
theorem exists_gives_documentsIn_iff {sources : List Source} {world : World}
    {documents : List Value} :
    (∃ found after, Gives (sources.mapM (selection.documentsIn World.view)) world found after ∧
      found.flatten.map (·.2) = documents) ↔
    ∃ texts parts, Reads world.toTree world.stdin sources texts ∧
      List.Forall₂ selection.Holds texts parts ∧ parts.flatten = documents := by
  induction sources generalizing world documents with
  | nil =>
    constructor
    · rintro ⟨found, after, h, rfl⟩
      obtain ⟨rfl, rfl⟩ := World.gives_mapM_nil_iff.1 h
      exact ⟨[], [], .nil, .nil, rfl⟩
    · rintro ⟨texts, parts, hreads, hholds, rfl⟩
      cases hreads
      cases hholds
      exact ⟨[], world, World.gives_mapM_nil_iff.2 ⟨rfl, rfl⟩, rfl⟩
  | cons source sources ih =>
    simp only [World.gives_mapM_cons_iff]
    cases source with
    | stdin =>
      simp only [gives_documentsIn_stdin_iff]
      constructor
      · rintro ⟨_, after, ⟨first, more, _, rfl, ⟨part, hpart, rfl, rfl⟩, hmore⟩, rfl⟩
        obtain ⟨texts, parts, hreads, hholds, hflatten⟩ := ih.1 ⟨more, after, hmore, rfl⟩
        exact ⟨_, part :: parts, .stdin hreads, .cons hpart hholds,
          by simp [hflatten, Function.comp_def]⟩
      · rintro ⟨_, _, hreads, hholds, rfl⟩
        cases hreads with
        | stdin hreads =>
          cases hholds with
          | cons hpart hholds =>
            obtain ⟨more, after, hmore, hflatten⟩ :=
              (@ih { world with stdin := "" } _).2 ⟨_, _, hreads, hholds, rfl⟩
            refine ⟨_, after, ⟨_, more, _, rfl, ⟨_, hpart, rfl, rfl⟩, hmore⟩, ?_⟩
            simp [hflatten, Function.comp_def]
    | file path =>
      simp only [gives_documentsIn_file_iff]
      constructor
      · rintro ⟨_, after, ⟨first, more, _, rfl, ⟨text, part, htext, hpart, rfl, rfl⟩, hmore⟩, rfl⟩
        obtain ⟨texts, parts, hreads, hholds, hflatten⟩ := ih.1 ⟨more, after, hmore, rfl⟩
        exact ⟨_, part :: parts, .file htext hreads, .cons hpart hholds,
          by simp [hflatten, Function.comp_def]⟩
      · rintro ⟨_, _, hreads, hholds, rfl⟩
        cases hreads with
        | file htext hreads =>
          cases hholds with
          | cons hpart hholds =>
            obtain ⟨more, after, hmore, hflatten⟩ := ih.2 ⟨_, _, hreads, hholds, rfl⟩
            refine ⟨_, after, ⟨_, more, _, rfl, ⟨_, _, htext, hpart, rfl, rfl⟩, hmore⟩, ?_⟩
            simp [hflatten, Function.comp_def]

/-- Loading leaves all files as they are. -/
theorem keeps_load : Keeps (selection.load engine World.view).run := by
  unfold Selection.load
  refine Keeps.run_bind ?_ fun sources => ?_
  · unfold Selection.sources
    split
    · exact fun _ => rfl
    · exact (Looks.run_mapM _ looks_sourcesOf).keeps.run_bind fun _ _ => rfl
  · refine Keeps.run_bind (Keeps.run_mapM _ fun source => ?_) fun documents _ => rfl
    refine Keeps.run_bind ?_ fun text => Keeps.run_bind (fun _ => rfl) fun _ _ => rfl
    cases source <;> exact fun _ => rfl

/-- What is loaded is what is selected. -/
theorem exists_gives_load_iff {world : World} {samples : List Value} :
    (∃ after, Gives (selection.load engine World.view) world samples after) ↔
      selection.Selects engine world samples := by
  unfold Selection.load Selects Finds
  simp only [gives_bind_iff, gives_sources_iff, World.gives_except_iff, samplesOfAll_eq_ok_iff]
  constructor
  · rintro ⟨_, sources, _, ⟨hasks, rfl⟩, found, after, hfound, ⟨parts, hparts, hsamples⟩, rfl⟩
    obtain ⟨texts, documents, hreads, hholds, hflatten⟩ :=
      exists_gives_documentsIn_iff.1 ⟨found, _, hfound, rfl⟩
    exact ⟨sources, texts, hasks, hreads, documents, parts, hholds, hflatten ▸ hparts, hsamples⟩
  · rintro ⟨sources, texts, hasks, hreads, documents, parts, hholds, hparts, hsamples⟩
    obtain ⟨found, after, hfound, hflatten⟩ :=
      exists_gives_documentsIn_iff.2 ⟨texts, documents, hreads, hholds, rfl⟩
    exact ⟨after, sources, _, ⟨hasks, rfl⟩, found, after, hfound,
      ⟨parts, hflatten ▸ hparts, hsamples⟩, rfl⟩

end Selection

end SampleTypes
