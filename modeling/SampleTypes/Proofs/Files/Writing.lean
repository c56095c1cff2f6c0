import SampleTypes.Proofs.Files.Actions
import SampleTypes.Proofs.Files.Paths

/-!
# Writing

What is different in a tree after a text was written to a path.

* `Tree.textAt_write`: the text is read there;
* `Tree.SameBut`: trees that differ in the texts of some files only; `SameBut.textAt_eq_or`: what is
  read in them.
-/

namespace SampleTypes

theorem Text.getLast?_of_splitAt {separator : Char} {cs : List Char} (hne : cs ≠ [])
    (h : (splitAt separator cs).getLast? = some []) : cs.getLast? = some separator := by
  induction cs with
  | nil => exact absurd rfl hne
  | cons c rest ih =>
    rw [splitAt] at h
    by_cases hrest : rest = []
    · subst hrest
      by_cases hc : c = separator
      · simp [hc]
      · simp [splitAt, hc] at h
    · have hlast : (splitAt separator rest).getLast? = some [] := by
        cases hparts : splitAt separator rest with
        | nil => exact absurd hparts (splitAt_ne_nil separator rest)
        | cons part more =>
          rw [hparts] at h
          by_cases hc : c = separator
          · simpa [hc] using h
          · cases more with
            | nil => simp [hc] at h
            | cons next more => simpa [hc] using h
      rw [List.getLast?_cons_of_ne_nil hrest]
      exact ih hrest hlast

namespace Files

theorem components_of_not_endsWithSlash {path : String} (h : Tree.endsWithSlash path = false) :
    components path = namedParts path := by
  unfold components
  refine if_neg ?_
  rintro ⟨hlast, hnamed⟩
  rw [parts, List.getLast?_map] at hlast
  obtain ⟨part, hpart, hempty⟩ := Option.map_eq_some_iff.1 hlast
  obtain rfl : part = [] := String.ofList_injective hempty
  have hne : path.toList ≠ [] := by
    intro hnil
    rw [namedParts, parts, hnil] at hnamed
    exact hnamed (by decide)
  simp [Tree.endsWithSlash, Text.getLast?_of_splitAt hne hpart] at h

namespace Entry

variable {root root' : Entry}

/-! ### Changes of one file -/

/-- All directories are still there, with all their names. -/
def KeepsDirectories (root root' : Entry) : Prop :=
  ∀ way entries, root.follow way = .ok (.directory entries) →
    ∃ entries', root'.follow way = .ok (.directory entries') ∧
      ∀ name, (entries.lookup name).isSome → (entries'.lookup name).isSome

theorem KeepsDirectories.resolve (h : KeepsDirectories root root') {way steps there : List String}
    {entries : List (String × Entry)}
    (hresolve : root.resolve way steps = .ok (there, .directory entries)) :
    ∃ entries', root'.resolve way steps = .ok (there, .directory entries') := by
  induction steps generalizing way with
  | nil =>
    rw [resolve_nil] at hresolve
    obtain ⟨here, hhere, heq⟩ := except_map_eq_ok_iff.1 hresolve
    obtain ⟨rfl, rfl⟩ := Prod.mk.inj heq
    obtain ⟨entries', hentries', -⟩ := h _ _ hhere
    exact ⟨entries', by rw [resolve_nil, hentries']; rfl⟩
  | cons step steps ih =>
    rw [resolve_cons] at hresolve
    split at hresolve
    · simp at hresolve
    · simp at hresolve
    · rename_i others hothers
      obtain ⟨others', hothers', hnames⟩ := h _ _ hothers
      rw [resolve_cons, hothers']
      dsimp only
      split at hresolve
      · rename_i hdot
        rw [if_pos hdot]
        exact ih hresolve
      · rename_i hdot
        rw [if_neg hdot]
        split at hresolve
        · rename_i hdots
          rw [if_pos hdots]
          exact ih hresolve
        · rename_i hdots
          rw [if_neg hdots]
          split at hresolve
          · rename_i hsome
            rw [if_pos (hnames step hsome)]
            exact ih hresolve
          · simp at hresolve

/-- A file in place of no directory leaves all directories there. -/
theorem keepsDirectories_put {way : List String} {name : String}
    (hname : ∀ others, root.follow (way ++ [name]) ≠ .ok (.directory others)) (text : String) :
    KeepsDirectories root (root.put (way ++ [name]) (.file text)) := by
  intro other others hother
  by_cases hbefore : other <+: way ++ [name]
  · obtain ⟨more, hmore⟩ := hbefore
    cases more with
    | nil =>
      rw [List.append_nil] at hmore
      exact absurd (hmore ▸ hother) (hname others)
    | cons next more =>
      refine ⟨_, by rw [← hmore]; exact follow_put_append hother (next :: more) _, fun n hn => ?_⟩
      rw [lookup_set]
      split
      · rfl
      · exact hn
  · by_cases hafter : way ++ [name] <+: other
    · obtain ⟨more, rfl⟩ := hafter
      cases hplace : root.follow (way ++ [name]) with
      | error e =>
        rw [follow_append_of_error hplace] at hother
        simp at hother
      | ok place =>
        rw [follow_append_of_ok hplace] at hother
        cases place with
        | directory entries => exact absurd hplace (hname entries)
        | file old =>
          cases more with
          | nil => simp at hbefore
          | cons next more => simp [follow_file_cons] at hother
    · exact ⟨others, (follow_put_of_apart _ hbefore hafter).trans hother, fun n hn => hn⟩

end Entry

/-! ### Reading what was written -/

namespace Tree

variable {tree : Tree} {path text : String} {root' : Entry}

/-- What a path to write to has to be. -/
structure Accepts (tree : Tree) (path : String) (start : List String) (name : String)
    (way : List String) (entries : List (String × Entry)) : Prop where
  parts_eq : namedParts path = start ++ [name]
  no_slash : endsWithSlash path = false
  ne_dot : name ≠ "."
  ne_dots : name ≠ ".."
  resolves : tree.root.resolve (tree.start path) start = .ok (way, .directory entries)
  no_directory : ∀ others, entries.lookup name ≠ some (.directory others)

theorem Accepts.write_eq {start way : List String} {name : String}
    {entries : List (String × Entry)} (h : tree.Accepts path start name way entries)
    (text : String) :
    tree.write path text = .ok (tree.root.put (way.reverse ++ [name]) (.file text)) := by
  have hplain : ¬ (name = "." ∨ name = ".." ∨ endsWithSlash path) := by
    simp [h.ne_dot, h.ne_dots, h.no_slash]
  unfold write
  rw [h.parts_eq, List.getLast?_concat, List.dropLast_concat, h.resolves]
  dsimp only [bind, Except.bind]
  rw [if_neg hplain]
  have hdirectory := h.no_directory
  cases hold : entries.lookup name with
  | none => rfl
  | some old =>
    cases old with
    | file old => rfl
    | directory others => exact absurd hold (hdirectory others)

theorem exists_accepts_of_write (h : tree.write path text = .ok root') :
    ∃ start name way entries, tree.Accepts path start name way entries := by
  unfold write at h
  split at h
  · simp at h
  · rename_i name hlast
    obtain ⟨start, hstart⟩ := List.getLast?_eq_some_iff.1 hlast
    rw [hstart, List.dropLast_concat] at h
    obtain ⟨⟨way, place⟩, hresolve, hput⟩ := except_bind_eq_ok_iff.1 h
    dsimp only at hput
    split at hput
    · simp at hput
    · rename_i entries
      split at hput
      · simp at hput
      · rename_i hplain
        simp only [not_or, Bool.not_eq_true] at hplain
        refine ⟨start, name, way, entries, hstart, hplain.2.2, hplain.1, hplain.2.1, hresolve,
          fun others hothers => ?_⟩
        simp [hothers] at hput

/-- What was written to a path is read there. -/
theorem textAt_write (h : tree.write path text = .ok root') :
    ({ tree with root := root' } : Tree).textAt path = .ok text := by
  obtain ⟨start, name, way, entries, hpath⟩ := exists_accepts_of_write h
  have hroot : root' = tree.root.put (way.reverse ++ [name]) (.file text) :=
    Except.ok.inj (h.symm.trans (hpath.write_eq text))
  have hway := Entry.follow_of_resolve hpath.resolves
  have hname : ∀ others, tree.root.follow (way.reverse ++ [name]) ≠ .ok (.directory others) := by
    intro others hothers
    rw [Entry.follow_append_of_ok hway, Entry.follow_directory_cons] at hothers
    have hno := hpath.no_directory others
    cases hlookup : entries.lookup name <;> simp_all
  have hself : root'.follow (way.reverse ++ [name]) = .ok (.file text) :=
    hroot ▸ Entry.follow_put_self hway name (.file text)
  obtain ⟨entries', hstart⟩ := (hroot ▸ Entry.keepsDirectories_put hname text :
    Entry.KeepsDirectories tree.root root').resolve hpath.resolves
  have hway' := Entry.follow_of_resolve hstart
  have hlookup : (entries'.lookup name).isSome := by
    rw [Entry.follow_append_of_ok hway', Entry.follow_directory_cons] at hself
    cases hlookup : entries'.lookup name <;> simp_all
  have hcomponents : components path = start ++ [name] :=
    (components_of_not_endsWithSlash hpath.no_slash).trans hpath.parts_eq
  have hempty : path ≠ "" := by
    rintro rfl
    have hnil := hpath.parts_eq
    simp [show namedParts "" = [] by decide] at hnil
  have hsame : ({ tree with root := root' } : Tree).start path = tree.start path := rfl
  rw [textAt_eq_ok_iff, find, if_neg (by simp [hempty]), hsame, hcomponents, Entry.resolve_append,
    hstart]
  simp only [Entry.resolve_cons, hway', hpath.ne_dot, hpath.ne_dots, hlookup, if_true, if_false,
    Entry.resolve_nil, List.reverse_cons, hself]
  rfl

theorem endsWithSlash_join {directory name : String} (hname : IsName name)
    (hdirectory : directory ≠ "") : endsWithSlash (Files.join directory name) = false := by
  obtain ⟨start, hjoin, -⟩ := toList_join hdirectory name
  have hne : name.toList ≠ [] := by simpa using hname.ne_empty
  have hlast : name.toList.getLast? ≠ some '/' := by
    intro h
    exact hname.slash_notMem (List.mem_of_getLast? h)
  rw [endsWithSlash, hjoin, List.getLast?_append_of_ne_nil _ (by simp),
    List.getLast?_cons_of_ne_nil hne]
  simpa using hlast

/-- A file of a directory gets another text in its place. -/
theorem LeadsTo.write_join {directory name old : String} {way : List String}
    {entries : List (String × Entry)} (h : tree.LeadsTo directory way)
    (hway : tree.root.follow way = .ok (.directory entries)) (hname : IsName name)
    (hold : tree.root.follow (way ++ [name]) = .ok (.file old)) (text : String) :
    tree.write (Files.join directory name) text =
      .ok (tree.root.put (way ++ [name]) (.file text)) := by
  have haccepts : tree.Accepts (Files.join directory name) (namedParts directory) name way.reverse
      entries :=
    { parts_eq := namedParts_join hname h.ne_empty
      no_slash := endsWithSlash_join hname h.ne_empty
      ne_dot := hname.ne_dot
      ne_dots := hname.ne_dots
      resolves := by
        rw [tree.start_join h.ne_empty]
        exact h.resolve_namedParts hway
      no_directory := by
        intro others hothers
        rw [Entry.follow_append_of_ok hway, Entry.follow_directory_cons] at hold
        simp [hothers] at hold }
  rw [haccepts.write_eq, List.reverse_reverse]

end Tree

/-! ### Trees that differ in the texts of files -/

namespace Entry

/-- What stands at one place of two trees: the same, but for the text of a file that may differ. -/
inductive Like (differs : Prop) : Except OsError Entry → Except OsError Entry → Prop
  | error (e : OsError) : Like differs (.error e) (.error e)
  | directory {entries others : List (String × Entry)} : others.map (·.1) = entries.map (·.1) →
      Like differs (.ok (.directory entries)) (.ok (.directory others))
  | file {text other : String} : other = text ∨ differs →
      Like differs (.ok (.file text)) (.ok (.file other))

theorem Like.refl (differs : Prop) (found : Except OsError Entry) : Like differs found found := by
  cases found with
  | error e => exact .error e
  | ok entry =>
    cases entry with
    | file text => exact .file (.inl rfl)
    | directory entries => exact .directory rfl

theorem Like.mono {differs differs' : Prop} {found found' : Except OsError Entry}
    (h : Like differs found found') (himp : differs → differs') : Like differs' found found' := by
  cases h with
  | error e => exact .error e
  | directory hnames => exact .directory hnames
  | file htext => exact .file (htext.imp_right himp)

theorem Like.trans {differs : Prop} {found found' found'' : Except OsError Entry}
    (h : Like differs found found') (h' : Like differs found' found'') :
    Like differs found found'' := by
  cases h with
  | error e => exact h'
  | directory hnames =>
    cases h' with
    | directory hnames' => exact .directory (hnames'.trans hnames)
  | file htext =>
    cases h' with
    | file htext' =>
      refine .file ?_
      rcases htext' with rfl | hdiffers
      · exact htext
      · exact .inr hdiffers

theorem isSome_lookup (name : String) (entries : List (String × Entry)) :
    (entries.lookup name).isSome = (entries.map (·.1)).contains name := by
  induction entries with
  | nil => rfl
  | cons first entries ih =>
    obtain ⟨n, e⟩ := first
    rw [lookup_cons, List.map_cons, List.contains_cons]
    by_cases h : name = n <;> simp [h, ih]

end Entry

namespace Tree

open Entry (Like)

/--
Two trees with one working directory that are the same but for the texts of the files at some ways.
-/
structure SameBut (written : List String → Prop) (tree tree' : Tree) : Prop where
  here_eq : tree'.here = tree.here
  like : ∀ way, Like (written way) (tree.root.follow way) (tree'.root.follow way)

variable {tree tree' : Tree} {written others : List String → Prop}

theorem SameBut.refl (written : List String → Prop) (tree : Tree) : SameBut written tree tree :=
  ⟨rfl, fun _ => Like.refl _ _⟩

theorem SameBut.mono (h : SameBut written tree tree') (himp : ∀ way, written way → others way) :
    SameBut others tree tree' :=
  ⟨h.here_eq, fun way => (h.like way).mono (himp way)⟩

theorem SameBut.trans {tree'' : Tree} (h : SameBut written tree tree')
    (h' : SameBut written tree' tree'') : SameBut written tree tree'' :=
  ⟨h'.here_eq.trans h.here_eq, fun way => (h.like way).trans (h'.like way)⟩

/-- A file that gets another text. -/
theorem sameBut_put {place : List String} {old : String}
    (h : tree.root.follow place = .ok (.file old)) (text : String) :
    SameBut (· = place) tree { tree with root := tree.root.put place (.file text) } := by
  refine ⟨rfl, fun way => ?_⟩
  by_cases hbefore : way <+: place
  · obtain ⟨more, rfl⟩ := hbefore
    cases hway : tree.root.follow way with
    | error e =>
      rw [Entry.follow_append_of_error hway] at h
      simp at h
    | ok here =>
      rw [Entry.follow_put_append hway more]
      rw [Entry.follow_append_of_ok hway] at h
      cases more with
      | nil =>
        obtain rfl : here = .file old := Except.ok.inj h
        exact .file (.inr (List.append_nil way).symm)
      | cons name more =>
        cases here with
        | file other => simp [Entry.follow_file_cons] at h
        | directory entries =>
          rw [Entry.follow_directory_cons] at h
          cases hlookup : entries.lookup name with
          | none => simp [hlookup] at h
          | some next => exact .directory (Entry.names_set hlookup)
  · by_cases hafter : place <+: way
    · obtain ⟨more, rfl⟩ := hafter
      cases more with
      | nil => simp at hbefore
      | cons name more =>
        have hself := Entry.follow_put_append h [] (.file text)
        rw [List.append_nil] at hself
        rw [Entry.follow_append_of_ok h, Entry.follow_append_of_ok hself]
        exact .error _
    · rw [Entry.follow_put_of_apart _ hbefore hafter]
      exact .refl _ _

/-- The same steps can be taken. -/
theorem SameBut.resolve (h : SameBut written tree tree') (way steps : List String) :
    (∃ e, tree.root.resolve way steps = .error e ∧ tree'.root.resolve way steps = .error e) ∨
      ∃ there entry entry', tree.root.resolve way steps = .ok (there, entry) ∧
        tree'.root.resolve way steps = .ok (there, entry') ∧
        Like (written there.reverse) (.ok entry) (.ok entry') := by
  induction steps generalizing way with
  | nil =>
    rw [Entry.resolve_nil, Entry.resolve_nil]
    have hlike := h.like way.reverse
    generalize tree.root.follow way.reverse = found, tree'.root.follow way.reverse = found'
      at hlike ⊢
    cases hlike with
    | error e => exact .inl ⟨e, rfl, rfl⟩
    | directory hnames => exact .inr ⟨way, _, _, rfl, rfl, .directory hnames⟩
    | file htext => exact .inr ⟨way, _, _, rfl, rfl, .file htext⟩
  | cons step steps ih =>
    rw [Entry.resolve_cons, Entry.resolve_cons]
    have hlike := h.like way.reverse
    generalize tree.root.follow way.reverse = found, tree'.root.follow way.reverse = found'
      at hlike ⊢
    cases hlike with
    | error e => exact .inl ⟨e, rfl, rfl⟩
    | file _ => exact .inl ⟨_, rfl, rfl⟩
    | directory hnames =>
      dsimp only
      rw [Entry.isSome_lookup, Entry.isSome_lookup, hnames]
      split
      · exact ih way
      · split
        · exact ih way.tail
        · split
          · exact ih (step :: way)
          · exact .inl ⟨_, rfl, rfl⟩

/-! ### Paths in such trees -/

variable {path : String} {way : List String}

theorem SameBut.start_eq (h : SameBut written tree tree') (path : String) :
    tree'.start path = tree.start path := by
  unfold start
  rw [h.here_eq]

theorem SameBut.leadsTo (h : SameBut written tree tree') (hway : tree.LeadsTo path way) :
    tree'.LeadsTo path way := by
  obtain ⟨entry, hentry⟩ := hway.resolves
  rcases h.resolve (tree.start path) (components path) with
    ⟨e, he, -⟩ | ⟨there, _, entry', hthere, hthere', -⟩
  · rw [he] at hentry
    simp at hentry
  · rw [hthere, Except.ok.injEq, Prod.mk.injEq] at hentry
    exact ⟨hway.ne_empty, entry', by rw [h.start_eq, hthere', hentry.1]⟩

/-- What a path leads to is the same, but for the text of a file at the end of such a way. -/
theorem SameBut.find (h : SameBut written tree tree') (path : String) :
    Like (∃ way, tree.LeadsTo path way ∧ written way) (tree.find path) (tree'.find path) := by
  unfold Tree.find
  rw [h.start_eq]
  split
  · exact .error _
  · rename_i hne
    rcases h.resolve (tree.start path) (components path) with ⟨e, he, he'⟩ |
      ⟨there, entry, entry', hthere, hthere', hlike⟩
    · rw [he, he']
      exact .error e
    · rw [hthere, hthere']
      refine hlike.mono fun hwritten => ⟨there.reverse, ⟨?_, entry, ?_⟩, hwritten⟩
      · simpa using hne
      · rw [hthere, List.reverse_reverse]

theorem SameBut.textAt_eq_or (h : SameBut written tree tree') (path : String) :
    tree'.textAt path = tree.textAt path ∨ ∃ way, tree.LeadsTo path way ∧ written way := by
  have hlike := h.find path
  unfold textAt
  generalize tree.find path = found, tree'.find path = found' at hlike ⊢
  cases hlike with
  | error e => exact .inl rfl
  | directory _ => exact .inl rfl
  | file htext => exact htext.imp_left fun heq => by rw [heq]

theorem SameBut.namesAt_eq (h : SameBut written tree tree') (path : String) :
    tree'.namesAt path = tree.namesAt path := by
  have hlike := h.find path
  unfold namesAt
  generalize tree.find path = found, tree'.find path = found' at hlike ⊢
  cases hlike with
  | error e => rfl
  | directory hnames => exact congrArg Except.ok hnames
  | file _ => rfl

theorem SameBut.kindAt?_eq (h : SameBut written tree tree') (path : String) :
    tree'.kindAt? path = tree.kindAt? path := by
  have hlike := h.find path
  unfold kindAt?
  generalize tree.find path = found, tree'.find path = found' at hlike ⊢
  cases hlike <;> rfl

end Tree

end Files

end SampleTypes
