import SampleTypes.Proofs.Files.Ways
import SampleTypes.Proofs.Results

/-!
# Paths in a tree

Where a path leads, as a way of names from the root.  The path of an entry in a directory leads one
name further than the path of the directory.

* `Tree.LeadsTo`: where a path leads; `LeadsTo.join`: one name further;
* `LeadsTo.find_join`: what is found at the path of an entry.
-/

namespace SampleTypes

/-! ### Parts of a path -/

theorem Text.splitAt_ne_nil (separator : Char) (cs : List Char) : splitAt separator cs ≠ [] := by
  cases cs with
  | nil => simp [splitAt]
  | cons c cs =>
    rw [splitAt]
    split
    · simp
    · split <;> simp

theorem Text.splitAt_of_notMem {separator : Char} {cs : List Char} (h : separator ∉ cs) :
    splitAt separator cs = [cs] := by
  induction cs with
  | nil => rfl
  | cons c cs ih =>
    simp only [List.mem_cons, not_or] at h
    simp [splitAt, Ne.symm h.1, ih h.2]

theorem Text.splitAt_append (separator : Char) (cs rest : List Char) :
    splitAt separator (cs ++ separator :: rest) =
      splitAt separator cs ++ splitAt separator rest := by
  induction cs with
  | nil => simp [splitAt]
  | cons c cs ih =>
    rw [List.cons_append, splitAt, splitAt, ih]
    by_cases h : c = separator
    · simp [h]
    · rw [if_neg h, if_neg h]
      cases hparts : splitAt separator cs with
      | nil => exact absurd hparts (splitAt_ne_nil separator cs)
      | cons part more => rfl

namespace Files

/-- A name that an entry of a directory can have, which no step of a path means otherwise. -/
structure IsName (name : String) : Prop where
  ne_empty : name ≠ ""
  ne_dot : name ≠ "."
  ne_dots : name ≠ ".."
  slash_notMem : '/' ∉ name.toList

/-- A path with a slash at its end has an empty part there. -/
theorem parts_eq_of_getLast? {path : String} (h : path.toList.getLast? = some '/') :
    ∃ start : List Char, path.toList = start ++ ['/'] ∧
      parts path = (Text.splitAt '/' start).map String.ofList ++ [""] := by
  obtain ⟨start, hstart⟩ := List.getLast?_eq_some_iff.1 h
  refine ⟨start, hstart, ?_⟩
  rw [parts, hstart, Text.splitAt_append, List.map_append]
  rfl

variable {directory name : String}

/-- The path of an entry is that of its directory up to a slash, and the name of the entry. -/
theorem toList_join (directory_ne : directory ≠ "") (name : String) :
    ∃ start : List Char, (join directory name).toList = start ++ '/' :: name.toList ∧
      namedParts directory = ((Text.splitAt '/' start).map String.ofList).filter (· ≠ "") := by
  have hempty : ¬ directory.isEmpty := by simpa using directory_ne
  have hslash : "/".toList = ['/'] := by decide
  unfold join
  rw [if_neg hempty]
  by_cases hlast : directory.toList.getLast? = some '/'
  · obtain ⟨start, hstart, hparts⟩ := parts_eq_of_getLast? hlast
    refine ⟨start, ?_, by simp [namedParts, hparts]⟩
    simp [hstart]
  · refine ⟨directory.toList, ?_, rfl⟩
    simp [hlast, hslash]

/-- The path of an entry has one part more. -/
theorem namedParts_join (hname : IsName name) (hdirectory : directory ≠ "") :
    namedParts (join directory name) = namedParts directory ++ [name] := by
  obtain ⟨start, hjoin, hparts⟩ := toList_join hdirectory name
  rw [hparts, namedParts, parts, hjoin, Text.splitAt_append,
    Text.splitAt_of_notMem hname.slash_notMem]
  simp [hname.ne_empty]

theorem components_join (hname : IsName name) (hdirectory : directory ≠ "") :
    components (join directory name) = namedParts directory ++ [name] := by
  have hlast : (parts (join directory name)).getLast? = some name := by
    obtain ⟨start, hjoin, -⟩ := toList_join hdirectory name
    rw [parts, hjoin, Text.splitAt_append, Text.splitAt_of_notMem hname.slash_notMem]
    simp
  unfold components
  simp only [hlast, Option.some.injEq, hname.ne_empty, false_and, if_false]
  exact namedParts_join hname hdirectory

/-- A slash at the end of a path is a step that stays where it is. -/
theorem components_eq_or (path : String) :
    components path = namedParts path ∨ components path = namedParts path ++ ["."] := by
  unfold components
  split
  · exact .inr rfl
  · exact .inl rfl

theorem isAbsolute_join (hdirectory : directory ≠ "") (name : String) :
    isAbsolute (join directory name) = isAbsolute directory := by
  have hempty : ¬ directory.isEmpty := by simpa using hdirectory
  have hhead : ∀ more : List Char, (directory.toList ++ more).head? = directory.toList.head? := by
    intro more
    cases hcs : directory.toList with
    | nil => exact absurd (String.toList_eq_nil_iff.1 hcs) hdirectory
    | cons c cs => rfl
  unfold isAbsolute join
  rw [if_neg hempty]
  split <;> simp [hhead, String.toList_append, List.append_assoc]

theorem join_ne_empty (hname : IsName name) : join directory name ≠ "" := by
  have hne := hname.ne_empty
  unfold join
  split
  · exact hne
  · split <;> simp [hne]

/-! ### Where paths lead -/

namespace Tree

theorem start_join (tree : Tree) (hdirectory : directory ≠ "") (name : String) :
    tree.start (Files.join directory name) = tree.start directory := by
  unfold start
  rw [isAbsolute_join hdirectory]

/-- A path leads along a way from the root. -/
structure LeadsTo (tree : Tree) (path : String) (way : List String) : Prop where
  ne_empty : path ≠ ""
  resolves : ∃ here, tree.root.resolve (tree.start path) (components path) = .ok (way.reverse, here)

variable {tree : Tree} {path : String} {way : List String}

/-- A path that an entry is found at leads there. -/
theorem exists_leadsTo_of_find {here : Entry} (h : tree.find path = .ok here) :
    ∃ way, tree.LeadsTo path way ∧ tree.root.follow way = .ok here := by
  unfold find at h
  split at h
  · simp at h
  · rename_i hne
    obtain ⟨⟨there, entry⟩, hresolve, rfl⟩ := except_map_eq_ok_iff.1 h
    exact ⟨there.reverse, ⟨by simpa using hne, entry, by simpa using hresolve⟩,
      Entry.follow_of_resolve hresolve⟩

/-- The named parts of a path to a directory lead where the path leads. -/
theorem LeadsTo.resolve_namedParts {entries : List (String × Entry)} (h : tree.LeadsTo path way)
    (hway : tree.root.follow way = .ok (.directory entries)) :
    tree.root.resolve (tree.start path) (namedParts path) =
      .ok (way.reverse, .directory entries) := by
  obtain ⟨here, hresolves⟩ := h.resolves
  have hhere := Entry.follow_of_resolve hresolves
  rw [List.reverse_reverse, hway, Except.ok.injEq] at hhere
  subst hhere
  rcases components_eq_or path with hparts | hparts
  · rwa [hparts] at hresolves
  · rw [hparts, Entry.resolve_append] at hresolves
    cases hnamed : tree.root.resolve (tree.start path) (namedParts path) with
    | error e => simp [hnamed] at hresolves
    | ok found =>
      obtain ⟨there, entry⟩ := found
      have hthere := Entry.follow_of_resolve hnamed
      -- The step that a slash at the end asks for stays in a directory.
      cases entry with
      | file text => simp [hnamed, Entry.resolve_cons, hthere] at hresolves
      | directory others =>
        simp only [hnamed, Entry.resolve_cons, hthere, if_true, Entry.resolve_nil, Except.map,
          Except.ok.injEq, Prod.mk.injEq] at hresolves
        rw [hresolves.1, hresolves.2]

/-- The steps to an entry of a directory, as far as there is one. -/
theorem LeadsTo.resolve_join {entries : List (String × Entry)} (h : tree.LeadsTo directory way)
    (hway : tree.root.follow way = .ok (.directory entries)) (hname : IsName name) :
    tree.root.resolve (tree.start directory) (components (Files.join directory name)) =
      (tree.root.follow (way ++ [name])).map fun here => (name :: way.reverse, here) := by
  have hfollow : tree.root.follow (way ++ [name]) = (Entry.directory entries).follow [name] :=
    Entry.follow_append_of_ok hway [name]
  rw [components_join hname h.ne_empty, Entry.resolve_append, h.resolve_namedParts hway]
  simp only [Entry.resolve_cons, List.reverse_reverse, hway, hname.ne_dot, hname.ne_dots, if_false,
    Entry.resolve_nil, List.reverse_cons, hfollow, Entry.follow_directory_cons]
  cases entries.lookup name <;> rfl

/-- The path of an entry leads one name further than the path of its directory. -/
theorem LeadsTo.join {entries : List (String × Entry)} {entry : Entry}
    (h : tree.LeadsTo directory way) (hway : tree.root.follow way = .ok (.directory entries))
    (hname : IsName name) (hentry : tree.root.follow (way ++ [name]) = .ok entry) :
    tree.LeadsTo (Files.join directory name) (way ++ [name]) where
  ne_empty := join_ne_empty hname
  resolves := by
    rw [tree.start_join h.ne_empty, h.resolve_join hway hname, hentry]
    exact ⟨entry, by simp [Except.map]⟩

/-- What is found at the path of an entry is what the directory has under its name. -/
theorem LeadsTo.find_join {entries : List (String × Entry)} (h : tree.LeadsTo directory way)
    (hway : tree.root.follow way = .ok (.directory entries)) (hname : IsName name) :
    tree.find (Files.join directory name) = tree.root.follow (way ++ [name]) := by
  rw [find, if_neg (by simp [join_ne_empty hname]), tree.start_join h.ne_empty,
    h.resolve_join hway hname]
  cases tree.root.follow (way ++ [name]) <;> rfl

end Tree

end Files

end SampleTypes
