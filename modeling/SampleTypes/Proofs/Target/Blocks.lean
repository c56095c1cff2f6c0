import SampleTypes.Proofs.Naming.Nesting
import SampleTypes.Proofs.Target.Output
import SampleTypes.Target.Layout

/-!
# Blocks

The part of an output that declares one type is its block.  Where blocks stand is told by the
declarations of the graph: all at the top level, or each inside that of the declaration above it.

* `Settings.topLevel`, `Settings.within` and `Settings.around` say where the declarations stand,
  `Settings.header` and `Settings.path` what they are called there, all by the numbers that the list
  of the declarations has;
* a `Script` is how a language puts a text together, `Laid` are the texts of declarations that stand
  as these do, and `Prints` says that a whole output is made of them;
* a `BlockForm` is what the writer of a language makes of blocks, and `Blocks` says that an output
  has one for each declaration, at its place, with `Blocks.of_block` as the way to show it.
-/

namespace SampleTypes

open Naming (Declaration Graph Member)
open Naming.Declaration (withNested)

/-! ### Where declarations stand -/

namespace Settings

/-- The declarations that stand in no other. -/
def topLevel (settings : Settings) (graph : Graph) : List Declaration :=
  match settings.nestedStyle with
  | .hoisted => graph.declarations
  | .inside => graph.under none

/-- The declarations that stand right inside the one with a number. -/
def within (settings : Settings) (graph : Graph) (id : Nat) : List Declaration :=
  match settings.nestedStyle with
  | .hoisted => []
  | .inside => graph.under (some id)

/-- The numbers of the declarations that the one with a number stands in, from the inside out. -/
def around (settings : Settings) (graph : Graph) (id : Nat) : List Nat :=
  match settings.nestedStyle with
  | .hoisted => []
  | .inside => graph.ancestors id

/-- What the declaration with a number is called where it stands. -/
def header (settings : Settings) (graph : Graph) (id : Nat) : String :=
  match settings.nestedStyle with
  | .hoisted => graph.nameOf id
  | .inside =>
    match (graph.parent? id).bind graph.find? with
    | none => graph.nameOf id
    | some d => Target.nestedName settings.convention d.members (graph.nameOf id)

/-- What the declarations around the one with a number and this one itself are called. -/
def path (settings : Settings) (graph : Graph) (id : Nat) : List String :=
  (id :: settings.around graph id).reverse.map (settings.header graph)

variable {settings : Settings} {graph : Graph}

section Hoisted

variable (hstyle : settings.nestedStyle = .hoisted)
include hstyle

theorem topLevel_of_hoisted : settings.topLevel graph = graph.declarations := by
  rw [topLevel, hstyle]

theorem within_of_hoisted (id : Nat) : settings.within graph id = [] := by
  rw [within, hstyle]

theorem around_of_hoisted (id : Nat) : settings.around graph id = [] := by
  rw [around, hstyle]

theorem header_of_hoisted : settings.header graph = graph.nameOf := by
  funext id
  rw [header, hstyle]

theorem path_of_hoisted : settings.path graph = fun id => [graph.nameOf id] := by
  funext id
  rw [path, around_of_hoisted hstyle, header_of_hoisted hstyle]
  rfl

end Hoisted

section Inside

variable (hstyle : settings.nestedStyle = .inside)
include hstyle

theorem topLevel_of_inside : settings.topLevel graph = graph.forest := by
  rw [topLevel, hstyle]
  exact graph.under_none

variable (hasc : graph.Ascending) {c d : Declaration}
include hasc

theorem within_of_inside (hd : d ∈ graph.declarations) :
    settings.within graph d.id = d.nested := by
  rw [within, hstyle]
  exact Graph.under_some hasc hd

theorem around_of_mem_forest (hd : d ∈ graph.forest) : settings.around graph d.id = [] := by
  rw [around, hstyle]
  exact Graph.ancestors_of_mem_forest hasc hd

theorem around_of_mem_nested (hd : d ∈ graph.declarations) (hc : c ∈ d.nested) :
    settings.around graph c.id = d.id :: settings.around graph d.id := by
  simp only [around, hstyle]
  exact Graph.ancestors_of_mem_nested hasc hd hc

theorem header_of_mem_forest (hd : d ∈ graph.forest) : settings.header graph d.id = d.name := by
  have hmem : d ∈ graph.declarations := Declaration.mem_withNested_of_mem hd
  rw [header, hstyle, Graph.parent?_of_mem_forest hasc hd]
  exact hasc.nameOf_eq hmem

theorem header_of_mem_nested (hd : d ∈ graph.declarations) (hc : c ∈ d.nested) :
    settings.header graph c.id = Target.nestedName settings.convention d.members c.name := by
  have hmem : c ∈ graph.declarations := Declaration.mem_withNested_of_mem_nested hd hc
  rw [header, hstyle, Graph.parent?_of_mem_nested hasc hd hc, Option.bind_some,
    hasc.find?_eq_some hd, ← hasc.nameOf_eq hmem]

theorem path_of_mem_nested (hd : d ∈ graph.declarations) (hc : c ∈ d.nested) :
    settings.path graph c.id = settings.path graph d.id ++ [settings.header graph c.id] := by
  rw [path, around_of_mem_nested hstyle hasc hd hc, List.reverse_cons, List.map_append]
  rfl

end Inside

end Settings

namespace Target

/-! ### Texts of declarations -/

/-- How a language puts the text of an output together. -/
structure Script where
  /-- What may be imported. -/
  imports : List String
  /-- The whole text: what is imported, the blocks at the top level, and the line of the alias. -/
  file : List String → List String → Option String → String
  /-- A block on a level: its name, the blocks inside it, and the members of its declaration. -/
  block : Nat → String → List String → List String → String
  /-- A member on a level, where the declarations stand as the settings tell. -/
  member : Settings → Graph → Nat → Member → String
  /-- The line that gives the name of the root to its type. -/
  aliasLine : Graph → String

/--
Declarations beside each other on a level, and their texts.  The block of a declaration has inside
it the texts of those that stand within.  The entries are all declarations that are written, each
with its depth, in the order in which their blocks begin.
-/
inductive Laid (script : Script) (settings : Settings) (graph : Graph) :
    Nat → List Declaration → List String → List (Nat × Declaration) → Prop
  | nil (depth : Nat) : Laid script settings graph depth [] [] []
  | cons {depth : Nat} {d : Declaration} {ds : List Declaration} {inside texts : List String}
    {deeper rest : List (Nat × Declaration)}
    (below : Laid script settings graph (depth + 1) (settings.within graph d.id) inside deeper)
    (after : Laid script settings graph depth ds texts rest) :
    Laid script settings graph depth (d :: ds)
      (script.block depth (settings.header graph d.id) inside
        (d.members.map (script.member settings graph (depth + 1))) :: texts)
      ((depth, d) :: (deeper ++ rest))

/--
The text has at the top level the blocks of some declarations, in their order, and around them only
what is imported and the alias of a root without declarations.  In these blocks each declaration of
the graph is written once, as deep as its place tells.
-/
structure Prints (script : Script) (settings : Settings) (graph : Graph)
    (order : List Declaration) (blocks : List String) (text : String) : Prop where
  once : ∃ entries, Laid script settings graph 0 order blocks entries ∧
    entries.Perm (graph.declarations.map fun d => ((settings.around graph d.id).length, d))
  text_eq : ∃ imports, imports.Sublist script.imports ∧ text = script.file imports blocks
    (if graph.needsAlias then some (script.aliasLine graph) else none)

section Laid

variable {script : Script} {settings : Settings} {graph : Graph} {order : List Declaration}
  {text : Nat → Declaration → String}
  (htext : ∀ d ∈ graph.declarations, ∀ level, text level d =
    script.block level (settings.header graph d.id)
      ((settings.within graph d.id).map (text (level + 1)))
      (d.members.map (script.member settings graph (level + 1))))
include htext

/-- Texts at the top level, with nothing inside. -/
theorem laid_of_hoisted (hstyle : settings.nestedStyle = .hoisted)
    (horder : ∀ d ∈ order, d ∈ graph.declarations) :
    Laid script settings graph 0 order (order.map (text 0))
      (order.map fun d => ((settings.around graph d.id).length, d)) := by
  induction order with
  | nil => exact .nil 0
  | cons d ds ih =>
    rw [List.forall_mem_cons] at horder
    have hnone : Laid script settings graph 1 (settings.within graph d.id) [] [] := by
      rw [Settings.within_of_hoisted hstyle]
      exact .nil 1
    rw [List.map_cons, List.map_cons, htext d horder.1, Settings.around_of_hoisted hstyle]
    simp only [Settings.within_of_hoisted hstyle, List.map_nil]
    exact .cons hnone (ih horder.2)

/-- Texts inside each other are as deep as the way up is long. -/
theorem laid_of_inside (hstyle : settings.nestedStyle = .inside) (hasc : graph.Ascending)
    {depth : Nat} (horder : ∀ d ∈ order, d ∈ graph.declarations ∧
      (settings.around graph d.id).length = depth) :
    Laid script settings graph depth order (order.map (text depth))
      ((withNested order).map fun d => ((settings.around graph d.id).length, d)) := by
  induction order using Declaration.forest_induction generalizing depth with
  | nil => exact .nil depth
  | cons d ds ihNested ihRest =>
    rw [List.forall_mem_cons] at horder
    obtain ⟨⟨hd, hdepth⟩, hrest⟩ := horder
    rw [Declaration.withNested_cons, List.map_cons, List.map_cons, List.map_append, hdepth,
      htext d hd]
    refine .cons ?_ (ihRest hrest)
    rw [Settings.within_of_inside hstyle hasc hd]
    apply ihNested
    intro c hc
    refine ⟨Declaration.mem_withNested_of_mem_nested hd hc, ?_⟩
    rw [Settings.around_of_mem_nested hstyle hasc hd hc, List.length_cons, hdepth]

/-- **Texts that hold each other as the declarations do** have each declaration once. -/
theorem exists_laid (hasc : graph.Ascending) (horder : order.Perm (settings.topLevel graph)) :
    ∃ entries, Laid script settings graph 0 order (order.map (text 0)) entries ∧
      entries.Perm (graph.declarations.map fun d => ((settings.around graph d.id).length, d)) := by
  cases hstyle : settings.nestedStyle with
  | hoisted =>
    rw [Settings.topLevel_of_hoisted hstyle] at horder
    exact ⟨_, laid_of_hoisted htext hstyle fun d hd => horder.subset hd, horder.map _⟩
  | inside =>
    rw [Settings.topLevel_of_inside hstyle] at horder
    -- the induction goes down from level 0, where nothing is around
    have houter : ∀ d ∈ order, d ∈ graph.declarations ∧
        (settings.around graph d.id).length = 0 := by
      intro d hd
      have hforest := horder.subset hd
      refine ⟨Declaration.mem_withNested_of_mem hforest, ?_⟩
      rw [Settings.around_of_mem_forest hstyle hasc hforest]
      rfl
    exact ⟨_, laid_of_inside htext hstyle hasc houter, (Declaration.withNested_perm horder).map _⟩

end Laid

/-! ### Blocks -/

/-- How a language writes a block: what it is called, what stands inside it, and its text. -/
structure BlockForm (β : Type) where
  script : Script
  name : β → String
  inside : β → List β
  /-- The texts of the members of a block on a level. -/
  members : Nat → β → List String
  text : Nat → β → String
  text_eq : ∀ level b, text level b =
    script.block level (name b) ((inside b).map (text (level + 1))) (members (level + 1) b)

/-- Some blocks and all those inside them, in the order of their openings, each with its depth. -/
inductive Listed {β : Type} (inside : β → List β) : Nat → List β → List (Nat × β) → Prop
  | nil (depth : Nat) : Listed inside depth [] []
  | cons {depth : Nat} {b : β} {bs : List β} {deeper rest : List (Nat × β)}
    (below : Listed inside (depth + 1) (inside b) deeper) (after : Listed inside depth bs rest) :
    Listed inside depth (b :: bs) ((depth, b) :: (deeper ++ rest))

/-- What holds of a block because it holds of those inside holds of all blocks that are listed. -/
theorem Listed.forall_of_step {β : Type} {inside : β → List β} {P : Nat → β → Prop} {Q : β → Prop}
    (step : ∀ depth b, Q b → (∀ c ∈ inside b, P (depth + 1) c) → P depth b)
    {depth : Nat} {bs : List β} {entries : List (Nat × β)} (h : Listed inside depth bs entries)
    (hown : ∀ e ∈ entries, Q e.2) : ∀ b ∈ bs, P depth b := by
  induction h with
  | nil => rintro b ⟨⟩
  | @cons depth b bs deeper rest _ _ ihBelow ihAfter =>
    rw [List.forall_mem_cons, List.forall_mem_append] at hown
    obtain ⟨hb, hbelow, hafter⟩ := hown
    rw [List.forall_mem_cons]
    exact ⟨step depth b hb (ihBelow hbelow), ihAfter hafter⟩

/-- Blocks hold each other as their texts do. -/
theorem Laid.listed {β : Type} {script : Script} {settings : Settings} {graph : Graph}
    {depth : Nat} {ds : List Declaration} {texts : List String} {entries : List (Nat × Declaration)}
    (h : Laid script settings graph depth ds texts entries) {inside : β → List β}
    {block : Declaration → β}
    (hinside : ∀ e ∈ entries, inside (block e.2) = (settings.within graph e.2.id).map block) :
    Listed inside depth (ds.map block) (entries.map fun e => (e.1, block e.2)) := by
  induction h with
  | nil depth => exact .nil depth
  | @cons depth d ds _ _ deeper rest _ _ ihBelow ihAfter =>
    rw [List.forall_mem_cons, List.forall_mem_append] at hinside
    obtain ⟨hd, hbelow, hafter⟩ := hinside
    rw [List.map_cons, List.map_cons, List.map_append]
    refine .cons ?_ (ihAfter hafter)
    rw [hd]
    exact ihBelow hbelow

/--
The blocks `top` of a text are those of the declarations in the order given: each declaration has
one block, as deep as its place tells, with the blocks of what stands inside it right inside.  The
text is made of them.
-/
structure Blocks {β : Type} (form : BlockForm β) (settings : Settings) (graph : Graph)
    (order : List Declaration) (top : List β) (text : String) (block : Declaration → β) :
    Prop where
  top_eq : top = order.map block
  name : ∀ d ∈ graph.declarations, form.name (block d) = settings.header graph d.id
  inside : ∀ d ∈ graph.declarations,
    form.inside (block d) = (settings.within graph d.id).map block
  once : ∃ entries, Listed form.inside 0 top entries ∧ entries.Perm
    (graph.declarations.map fun d => ((settings.around graph d.id).length, block d))
  prints : Prints form.script settings graph order (top.map (form.text 0)) text

/-- **Blocks that hold each other as the declarations do** are one for each declaration. -/
theorem Blocks.of_block {β : Type} {form : BlockForm β} {settings : Settings} {graph : Graph}
    {order : List Declaration} {block : Declaration → β} (hasc : graph.Ascending)
    (horder : order.Perm (settings.topLevel graph))
    {top : List β} {text : String} (htop : top = order.map block)
    (hname : ∀ d ∈ graph.declarations, form.name (block d) = settings.header graph d.id)
    (hinside : ∀ d ∈ graph.declarations,
      form.inside (block d) = (settings.within graph d.id).map block)
    (hmembers : ∀ d ∈ graph.declarations, ∀ level, form.members level (block d)
      = d.members.map (form.script.member settings graph level))
    (hfile : ∃ imports, imports.Sublist form.script.imports ∧
      text = form.script.file imports (top.map (form.text 0))
        (if graph.needsAlias then some (form.script.aliasLine graph) else none)) :
    Blocks form settings graph order top text block := by
  -- a form tells a text by the texts inside it, here those of the declarations that stand within
  have htext : ∀ d ∈ graph.declarations, ∀ level, form.text level (block d) =
      form.script.block level (settings.header graph d.id)
        ((settings.within graph d.id).map fun c => form.text (level + 1) (block c))
        (d.members.map (form.script.member settings graph (level + 1))) := by
    intro d hd level
    rw [form.text_eq, hname d hd, hinside d hd, hmembers d hd, List.map_map]
    rfl
  subst htop
  obtain ⟨entries, hlaid, hperm⟩ := exists_laid htext hasc horder
  have hlisted : Listed form.inside 0 (order.map block)
      (entries.map fun e => (e.1, block e.2)) := by
    apply hlaid.listed
    intro e he
    obtain ⟨d, hd, rfl⟩ := List.mem_map.1 (hperm.subset he)
    exact hinside d hd
  have hblocks := hperm.map fun e => (e.1, block e.2)
  rw [List.map_map] at hblocks
  refine ⟨rfl, hname, hinside, ⟨_, hlisted, hblocks⟩, ⟨⟨entries, ?_, hperm⟩, hfile⟩⟩
  rw [List.map_map]
  exact hlaid

end Target

end SampleTypes
