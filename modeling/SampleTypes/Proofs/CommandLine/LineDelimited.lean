import SampleTypes.Proofs.CommandLine.Delivery
import SampleTypes.Proofs.Text.LineEndings

/-!
# Documents on lines and in files

A file with a document on each line stands for as many files with one document each: a command
prints the same for the one as for the others.

* `Selection.documents_perLine`: what is read of such a text, and which line a mistake names;
* `SameDocuments`: two selections of the same documents; `SameDocuments.stdout_convert_eq`,
  `SameDocuments.stdout_graph_eq`: what is printed for them.
-/

namespace SampleTypes

open CommandLine (Command ConvertRequest GraphRequest endsWith_convert endsWith_graph)
open Files (World)
open Json (Fits Value documentLines)
open Text (FallsInto)

/--
A text with a document on each line.  It is read exactly if each line that is not blank is a
document; otherwise the mistake is the first line that is none.
-/
theorem Selection.documents_perLine {selection : Selection} (h : selection.perLine = true)
    (label text : String) :
    ∃ lines : List (List Char), FallsInto text.toList lines ∧
      (∀ documents, selection.documents label text = .ok documents ↔
        List.Forall₂ (fun line document => Json.parse line = .ok document)
          (documentLines (lines.map String.ofList)) documents) ∧
      ((∃ documents, selection.documents label text = .ok documents) ↔
        ∀ line ∈ lines.map String.ofList, Fits line) ∧
      ∀ mistake, selection.documents label text = .error mistake ↔
        ∃ e : Json.LineError, e.IsFirst (lines.map String.ofList) ∧
          mistake = .notDocumentOnLine label e ∧
          mistake.message = "failed to parse JSON on line " ++ toString e.line ++ " of " ++ label ++
            ": " ++ e.cause.message := by
  have hdocuments : selection.documents label text =
      (Json.parseLines text).mapError (.notDocumentOnLine label) := by
    rw [Selection.documents, if_pos h]
  refine ⟨Text.splitLines text.toList, Text.fallsInto_splitLines _, fun documents => ?_, ?_,
    fun mistake => ?_⟩
  · rw [hdocuments, except_mapError_eq_ok_iff]
    exact Json.parseLines_eq_ok_iff
  · simp only [hdocuments, except_mapError_eq_ok_iff]
    exact Json.exists_parseLines_iff
  · rw [hdocuments, except_mapError_eq_error_iff]
    constructor
    · rintro ⟨e, he, rfl⟩
      exact ⟨e, Json.parseLines_eq_error_iff.1 he, rfl, rfl⟩
    · rintro ⟨e, he, rfl, -⟩
      exact ⟨e, Json.parseLines_eq_error_iff.2 he, rfl⟩

/-- Two selections of the same documents: on the lines of one text, or in a text each. -/
structure SameDocuments (world : World) (lines files : Selection) : Prop where
  perLine : lines.perLine = true
  whole : files.perLine = false
  pointer_eq : files.pointer = lines.pointer
  filter_eq : files.filter = lines.filter
  documents : ∃ source sources text texts,
    lines.Asks world [source] ∧ Reads world.toTree world.stdin [source] [text] ∧
    files.Asks world sources ∧ Reads world.toTree world.stdin sources texts ∧
    List.Forall₂ (fun line file => ∃ document, Json.parse line = .ok document ∧
      Json.parse file = .ok document) (documentLines (Text.lines text)) texts

variable {world : World} {lines files : Selection}

theorem Selection.draws_congr (engine : Filter.Engine) (hpointer : files.pointer = lines.pointer)
    (hfilter : files.filter = lines.filter) : files.Draws engine = lines.Draws engine := by
  unfold Draws PointsTo
  rw [hpointer, hfilter]

/-- The documents of a list of lines and of as many files. -/
theorem exists_documents_of_forall₂ {documents texts : List String}
    (h : List.Forall₂ (fun line file => ∃ document, Json.parse line = .ok document ∧
      Json.parse file = .ok document) documents texts) :
    ∃ values : List Value,
      List.Forall₂ (fun line document => Json.parse line = .ok document) documents values ∧
        List.Forall₂ (fun file document => Json.parse file = .ok document) texts values := by
  induction h with
  | nil => exact ⟨[], .nil, .nil⟩
  | cons hfirst _ ih =>
    obtain ⟨value, hline, hfile⟩ := hfirst
    obtain ⟨values, hlines, hfiles⟩ := ih
    exact ⟨value :: values, .cons hline hlines, .cons hfile hfiles⟩

theorem Selection.holds_of_whole (hwhole : files.perLine = false) {texts : List String}
    {values : List Value}
    (h : List.Forall₂ (fun file document => Json.parse file = .ok document) texts values) :
    List.Forall₂ files.Holds texts (values.map fun document => [document]) := by
  rw [List.forall₂_map_right_iff]
  refine h.imp fun file document hfile => ?_
  unfold Holds
  rw [if_neg (by simp [hwhole])]
  exact ⟨document, hfile, rfl⟩

/-- The same samples are selected. -/
theorem SameDocuments.selects_iff (h : SameDocuments world lines files) (engine : Filter.Engine)
    (samples : List Value) :
    lines.Selects engine world samples ↔ files.Selects engine world samples := by
  obtain ⟨source, sources, text, texts, hasks, hreads, hasks', hreads', hsame⟩ := h.documents
  obtain ⟨values, hlines, hfiles⟩ := exists_documents_of_forall₂ hsame
  have hholds : List.Forall₂ lines.Holds [text] [values] := by
    refine .cons ?_ .nil
    unfold Selection.Holds
    rwa [if_pos h.perLine]
  have hvalues : (values.map fun document => [document]).flatten = values := by
    rw [← List.flatMap_def]
    exact List.flatMap_singleton' values
  rw [Selection.selects_iff_finds hasks hreads, Selection.selects_iff_finds hasks' hreads',
    Selection.finds_iff_draws hholds,
    Selection.finds_iff_draws (Selection.holds_of_whole h.whole hfiles), hvalues,
    Selection.draws_congr engine h.pointer_eq h.filter_eq]
  simp

/-- A file of lines and files of their own print the same declarations. -/
theorem SameDocuments.stdout_convert_eq (h : SameDocuments world lines files)
    (engine : Filter.Engine) (r : ConvertRequest) :
    ((Command.convert { r with selection := lines }).run engine World.host world).1.stdout =
      ((Command.convert { r with selection := files }).run engine World.host world).1.stdout := by
  have hdelivers : ({ r with selection := lines } : ConvertRequest).Delivers engine world =
      ({ r with selection := files } : ConvertRequest).Delivers engine world := by
    funext text
    unfold ConvertRequest.Delivers ConvertRequest.Converts
    simp only [h.selects_iff]
    rfl
  have hends := endsWith_convert engine { r with selection := lines } world
  rw [hdelivers] at hends
  exact hends.stdout_eq (endsWith_convert engine { r with selection := files } world)

/-- A file of lines and files of their own print the same shape. -/
theorem SameDocuments.stdout_graph_eq (h : SameDocuments world lines files)
    (engine : Filter.Engine) (r : GraphRequest) :
    ((Command.graph { r with selection := lines }).run engine World.host world).1.stdout =
      ((Command.graph { r with selection := files }).run engine World.host world).1.stdout := by
  have hdelivers : ({ r with selection := lines } : GraphRequest).Delivers engine world =
      ({ r with selection := files } : GraphRequest).Delivers engine world := by
    funext text
    unfold GraphRequest.Delivers
    simp only [h.selects_iff]
  have hends := endsWith_graph engine { r with selection := lines } world
  rw [hdelivers] at hends
  exact hends.stdout_eq (endsWith_graph engine { r with selection := files } world)

/--
A text with a document on each line is read exactly if its lines that are not blank are documents,
and otherwise refused for the first that is none; what is printed for it is what is printed for its
documents in files of their own, whatever engine applies a filter to them.
-/
theorem documents_and_stdout_of_lines :
    (∀ (selection : Selection), selection.perLine = true → ∀ label text : String,
      ∃ lines : List (List Char), FallsInto text.toList lines ∧
        (∀ documents, selection.documents label text = .ok documents ↔
          List.Forall₂ (fun line document => Json.parse line = .ok document)
            (documentLines (lines.map String.ofList)) documents) ∧
        ((∃ documents, selection.documents label text = .ok documents) ↔
          ∀ line ∈ lines.map String.ofList, Fits line) ∧
        ∀ mistake, selection.documents label text = .error mistake ↔
          ∃ e : Json.LineError, e.IsFirst (lines.map String.ofList) ∧
            mistake = .notDocumentOnLine label e ∧
            mistake.message = "failed to parse JSON on line " ++ toString e.line ++ " of " ++
              label ++ ": " ++ e.cause.message) ∧
    ∀ (engine : Filter.Engine) (world : World) (lines files : Selection),
      SameDocuments world lines files →
      (∀ r : ConvertRequest,
        ((Command.convert { r with selection := lines }).run engine World.host world).1.stdout =
          ((Command.convert { r with selection := files }).run engine World.host world).1.stdout) ∧
      ∀ r : GraphRequest,
        ((Command.graph { r with selection := lines }).run engine World.host world).1.stdout =
          ((Command.graph { r with selection := files }).run engine World.host world).1.stdout :=
  ⟨fun _ h => Selection.documents_perLine h,
    fun engine _ _ _ h => ⟨h.stdout_convert_eq engine, h.stdout_graph_eq engine⟩⟩

/--
A number and a text, on the first and the third line of a file and in two files, with a filter for
each of them.
-/
theorem documents_and_stdout_of_two_lines :
    let text := "1\r\n\n\"x\"\n"
    let filter := some "\x7ba: 1\x7d"
    let lines : Selection := { perLine := true, filter, inputs := ["n"] }
    let files : Selection := { filter, inputs := ["p", "q"] }
    let world : World :=
      { root := .directory [("n", .file text), ("p", .file "1"), ("q", .file "\"x\"")] }
    (∃ documents, lines.documents "n" text = .ok documents) ∧
      ((Command.graph { selection := lines }).run Filter.objectEngine World.host world).1.stdout =
        ((Command.graph { selection := files }).run Filter.objectEngine World.host
          world).1.stdout := by
  intro text filter lines files world
  have hnumber : Json.parse "1" = .ok (.number (.integer 1)) := by rfl
  have hstring : Json.parse "\"x\"" = .ok (.string "x") := by rfl
  have hlines : Text.lines text = ["1", "", "\"x\""] := by decide +kernel
  constructor
  · obtain ⟨cut, hcut, -, hfits, -⟩ := documents_and_stdout_of_lines.1 lines rfl "n" text
    have hcut : cut.map String.ofList = ["1", "", "\"x\""] := by
      rw [← hlines, Text.lines, hcut.splitLines_eq]
    rw [hfits, hcut]
    simp only [List.forall_mem_cons, List.not_mem_nil, false_implies, implies_true, and_true]
    exact ⟨.inr ⟨_, hnumber⟩, .inl (by decide), .inr ⟨_, hstring⟩⟩
  · have hdocuments : documentLines (Text.lines text) = ["1", "\"x\""] := by decide +kernel
    have hplain : ∀ path ∈ ["n", "p", "q"], StandsFor world path [.file path] := by
      simp only [List.forall_mem_cons, List.not_mem_nil, false_implies, implies_true, and_true]
      exact ⟨.file (by decide) (by decide), .file (by decide) (by decide),
        .file (by decide) (by decide)⟩
    have hasks : lines.Asks world [.file "n"] :=
      ⟨[[.file "n"]], .cons (hplain "n" (by simp)) .nil, rfl⟩
    have hasks' : files.Asks world [.file "p", .file "q"] :=
      ⟨[[.file "p"], [.file "q"]],
        .cons (hplain "p" (by simp)) (.cons (hplain "q" (by simp)) .nil), rfl⟩
    have hreads : Reads world.toTree world.stdin [.file "n"] [text] :=
      .file (by decide +kernel) .nil
    have hreads' : Reads world.toTree world.stdin [.file "p", .file "q"] ["1", "\"x\""] :=
      .file (by decide +kernel) (.file (by decide +kernel) .nil)
    refine (documents_and_stdout_of_lines.2 Filter.objectEngine world lines files
      ⟨rfl, rfl, rfl, rfl, _, _, _, _, hasks, hreads, hasks', hreads', ?_⟩).2 {}
    rw [hdocuments]
    exact .cons ⟨_, hnumber, hnumber⟩ (.cons ⟨_, hstring, hstring⟩ .nil)

end SampleTypes
