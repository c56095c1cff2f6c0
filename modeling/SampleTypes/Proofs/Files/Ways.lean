import SampleTypes.Files.Tree

/-!
# Ways through a tree

A way is a list of names, each of an entry in the directory before.  Steps of a path lead along a
way; a tree is changed at a way.

* `follow`: the entry that a way leads to; `follow_of_resolve`: steps lead to such an entry;
* `follow_put_append`, `follow_put_of_apart`: what a change at one way does at another.
-/

namespace SampleTypes.Files.Entry

/-! ### Following names -/

/-- The entry that names lead to, one after the other. -/
def follow (root : Entry) (way : List String) : Except OsError Entry :=
  way.foldlM (fun entry name => entry.child name) root

@[simp] theorem follow_nil (root : Entry) : root.follow [] = .ok root := rfl

theorem follow_cons (root : Entry) (name : String) (way : List String) :
    root.follow (name :: way) = root.child name >>= fun entry => entry.follow way := rfl

/-- Following one way after another is following them as one. -/
theorem follow_append (root : Entry) (way more : List String) :
    root.follow (way ++ more) = root.follow way >>= fun entry => entry.follow more :=
  List.foldlM_append

theorem follow_file_cons (text name : String) (way : List String) :
    (file text).follow (name :: way) = .error .notDirectory := rfl

theorem follow_directory_cons (entries : List (String × Entry)) (name : String)
    (way : List String) :
    (directory entries).follow (name :: way) =
      match entries.lookup name with
      | some entry => entry.follow way
      | none => .error .notFound := by
  rw [follow_cons, child]
  cases entries.lookup name <;> rfl

/-- What is under an entry that is reached is found through it. -/
theorem follow_append_of_ok {root entry : Entry} {way : List String}
    (h : root.follow way = .ok entry) (more : List String) :
    root.follow (way ++ more) = entry.follow more := by
  rw [follow_append, h]
  rfl

theorem follow_append_of_error {root : Entry} {way : List String} {e : OsError}
    (h : root.follow way = .error e) (more : List String) :
    root.follow (way ++ more) = .error e := by
  rw [follow_append, h]
  rfl

/-! ### Changing one entry -/

theorem lookup_cons (name other : String) (entry : Entry) (entries : List (String × Entry)) :
    ((name, entry) :: entries).lookup other =
      if other = name then some entry else entries.lookup other := by
  by_cases h : other = name
  · simp [h]
  · have hne : (other == name) = false := by simpa using h
    simp [List.lookup_cons, hne, h]

theorem lookup_set (name other : String) (entry : Entry) (entries : List (String × Entry)) :
    (set name entry entries).lookup other =
      if other = name then some entry else entries.lookup other := by
  induction entries with
  | nil => rw [set, lookup_cons]
  | cons first entries ih =>
    obtain ⟨n, e⟩ := first
    rw [set, lookup_cons]
    by_cases hn : n = name
    · rw [if_pos hn, lookup_cons]
      by_cases h : other = name <;> simp [hn, h]
    · rw [if_neg hn, lookup_cons, ih]
      by_cases h : other = n
      · simp [h, hn]
      · simp [h]

/-- An entry that is there keeps its place in the directory. -/
theorem names_set {name : String} {entry old : Entry} {entries : List (String × Entry)}
    (h : entries.lookup name = some old) :
    (set name entry entries).map (·.1) = entries.map (·.1) := by
  induction entries with
  | nil => simp at h
  | cons first entries ih =>
    obtain ⟨n, e⟩ := first
    by_cases hn : n = name
    · simp [set, hn]
    · have hne : (name == n) = false := by simpa using Ne.symm hn
      rw [List.lookup_cons, hne] at h
      simp [set, hn, ih h]

/-- A change goes on below an entry that is on its way, and is done there. -/
theorem follow_put_append {root entry : Entry} {way : List String} (h : root.follow way = .ok entry)
    (more : List String) (new : Entry) :
    (root.put (way ++ more) new).follow way = .ok (entry.put more new) := by
  induction way generalizing root with
  | nil =>
    obtain rfl := Except.ok.inj h
    rfl
  | cons name way ih =>
    cases root with
    | file text => simp [follow_file_cons] at h
    | directory entries =>
      rw [follow_directory_cons] at h
      cases hlookup : entries.lookup name with
      | none => simp [hlookup] at h
      | some next =>
        simp only [hlookup] at h
        rw [List.cons_append, put, hlookup, Option.getD_some, follow_directory_cons, lookup_set,
          if_pos rfl]
        exact ih h

/-- A change leaves alone what is neither on its way nor below it. -/
theorem follow_put_of_apart {root : Entry} {place way : List String} (new : Entry)
    (h : ¬ way <+: place) (h' : ¬ place <+: way) :
    (root.put place new).follow way = root.follow way := by
  induction place generalizing root way with
  | nil => exact absurd List.nil_prefix h'
  | cons name place ih =>
    cases way with
    | nil => exact absurd List.nil_prefix h
    | cons other way =>
      cases root with
      | file text => rfl
      | directory entries =>
        rw [put, follow_directory_cons, follow_directory_cons, lookup_set]
        by_cases hname : other = name
        · subst hname
          rw [List.cons_prefix_cons] at h h'
          rw [if_pos rfl]
          cases hlookup : entries.lookup other with
          | some next => exact ih (by simpa using h) (by simpa using h')
          | none =>
            -- The directories that the change makes lead nowhere but along its way.
            refine (ih (by simpa using h) (by simpa using h')).trans ?_
            cases way with
            | nil => simp at h
            | cons next way => rfl
        · rw [if_neg hname]

/-- What was put at a way is found there, if the directories on the way were there. -/
theorem follow_put_self {root : Entry} {way : List String} {entries : List (String × Entry)}
    (h : root.follow way = .ok (.directory entries)) (name : String) (new : Entry) :
    (root.put (way ++ [name]) new).follow (way ++ [name]) = .ok new := by
  rw [follow_append_of_ok (follow_put_append h [name] new), put, follow_directory_cons, lookup_set,
    if_pos rfl]
  rfl

/-! ### Steps -/

theorem resolve_nil (root : Entry) (way : List String) :
    root.resolve way [] = (root.follow way.reverse).map fun here => (way, here) := by
  rw [resolve, follow]
  cases way.reverse.foldlM (fun entry name => entry.child name) root <;> rfl

theorem resolve_cons (root : Entry) (way : List String) (step : String) (steps : List String) :
    root.resolve way (step :: steps) =
      match root.follow way.reverse with
      | .error e => .error e
      | .ok (.file _) => .error .notDirectory
      | .ok (.directory entries) =>
        if step = "." then root.resolve way steps
        else if step = ".." then root.resolve way.tail steps
        else if (entries.lookup step).isSome then root.resolve (step :: way) steps
        else .error .notFound := by
  rw [resolve, follow]
  cases way.reverse.foldlM (fun entry name => entry.child name) root with
  | error e => rfl
  | ok here =>
    cases here with
    | file text => rfl
    | directory entries =>
      dsimp only [bind, Except.bind, child]
      cases entries.lookup step <;> rfl

/-- Steps lead to the entry of their way. -/
theorem follow_of_resolve {root here : Entry} {way steps there : List String}
    (h : root.resolve way steps = .ok (there, here)) : root.follow there.reverse = .ok here := by
  induction steps generalizing way with
  | nil =>
    rw [resolve_nil] at h
    cases hfollow : root.follow way.reverse with
    | error e => simp [hfollow, Except.map] at h
    | ok entry =>
      simp only [hfollow, Except.map, Except.ok.injEq, Prod.mk.injEq] at h
      obtain ⟨rfl, rfl⟩ := h
      exact hfollow
  | cons step steps ih =>
    rw [resolve_cons] at h
    split at h
    · simp at h
    · simp at h
    · split at h
      · exact ih h
      · split at h
        · exact ih h
        · split at h
          · exact ih h
          · simp at h

/-- Steps after others start where those lead to. -/
theorem resolve_append (root : Entry) (way steps more : List String) :
    root.resolve way (steps ++ more) =
      match root.resolve way steps with
      | .ok (there, _) => root.resolve there more
      | .error e => .error e := by
  induction steps generalizing way with
  | nil =>
    rw [List.nil_append, resolve_nil]
    cases hfollow : root.follow way.reverse with
    | ok here => rfl
    | error e =>
      cases more with
      | nil => simp [resolve_nil, hfollow, Except.map]
      | cons step more => simp [resolve_cons, hfollow, Except.map]
  | cons step steps ih =>
    rw [List.cons_append, resolve_cons, resolve_cons]
    split
    · rfl
    · rfl
    · split
      · exact ih way
      · split
        · exact ih way.tail
        · split
          · exact ih (step :: way)
          · rfl

end SampleTypes.Files.Entry
