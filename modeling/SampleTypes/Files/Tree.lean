import SampleTypes.Files.Host
import SampleTypes.Files.Path

/-!
# A tree of files

Files and directories as a value.  A `Tree` has the root of all files and the way to the working
directory, where relative paths start.  `World` adds what is left of standard input, and
`World.host` gives the operations on it.
-/

namespace SampleTypes.Files

/-- A file with its text, or a directory with its entries by name. -/
inductive Entry where
  | file (text : String)
  | directory (entries : List (String × Entry))

instance : Inhabited Entry := ⟨.directory []⟩

namespace Entry

/-- The entry of a name in a directory. -/
def child (name : String) : Entry → Except OsError Entry
  | .file _ => .error .notDirectory
  | .directory entries =>
    match entries.lookup name with
    | some entry => .ok entry
    | none => .error .notFound

/--
Follows steps from an entry, given the names of the directories passed to reach it, nearest first.
The result is the way to the entry that was reached, by names alone and nearest first.  There is no
way up from the root, so that the root is above itself.
-/
def resolve (root : Entry) : List String → List String → Except OsError (List String × Entry)
  | way, [] => do
    let here ← way.reverse.foldlM (fun entry name => entry.child name) root
    .ok (way, here)
  | way, step :: steps => do
    let here ← way.reverse.foldlM (fun entry name => entry.child name) root
    match here with
    | .file _ => .error .notDirectory
    | .directory _ =>
      if step = "." then resolve root way steps
      else if step = ".." then resolve root way.tail steps
      else do
        let _ ← here.child step
        resolve root (step :: way) steps

/-- The same directory with another entry under a name; a new name goes to the end. -/
def set (name : String) (entry : Entry) : List (String × Entry) → List (String × Entry)
  | [] => [(name, entry)]
  | (n, e) :: rest => if n = name then (name, entry) :: rest else (n, e) :: set name entry rest

/-- Puts an entry at a way of names, whose directories are there. -/
def put : Entry → List String → Entry → Entry
  | _, [], entry => entry
  | .file text, _ :: _, _ => .file text
  | .directory entries, name :: way, entry =>
    .directory (set name (put ((entries.lookup name).getD (.directory [])) way entry) entries)

/-- Steps lead to a directory. -/
def leadsToDirectory (root : Entry) (way steps : List String) : Bool :=
  match root.resolve way steps with
  | .ok (_, .directory _) => true
  | _ => false

/-- The tree after a directory was made, under a name that nothing has where the steps lead. -/
def makeDirectory (root : Entry) (way steps : List String) (name : String) :
    Except OsError Entry := do
  let (there, place) ← root.resolve way steps
  match place with
  | .file _ => .error .notDirectory
  | .directory entries =>
    if name = "." ∨ name = ".." ∨ (entries.lookup name).isSome then .error .alreadyExists
    else .ok (root.put (there.reverse ++ [name]) (.directory []))

end Entry

/-- All files of a machine, and the way of names from their root to the working directory. -/
structure Tree where
  root : Entry
  here : List String := []

namespace Tree

/-- Where the steps of a path start, nearest name first. -/
def start (tree : Tree) (path : String) : List String :=
  if isAbsolute path then [] else tree.here.reverse

/-- The entry that a path leads to. -/
def find (tree : Tree) (path : String) : Except OsError Entry :=
  if path.isEmpty then .error .notFound
  else (tree.root.resolve (tree.start path) (components path)).map (·.2)

/-- A path that ends with a slash. -/
def endsWithSlash (path : String) : Bool :=
  path.toList.getLast? == some '/'

/-- All files after a text was written to a path. -/
def write (tree : Tree) (path text : String) : Except OsError Entry :=
  match (namedParts path).getLast? with
  | none => .error (if isAbsolute path then .isDirectory else .notFound)
  | some name => do
    let (way, place) ← tree.root.resolve (tree.start path) (namedParts path).dropLast
    match place with
    | .file _ => .error .notDirectory
    | .directory entries =>
      if name = "." ∨ name = ".." ∨ endsWithSlash path then .error .isDirectory
      else
        match entries.lookup name with
        | some (.directory _) => .error .isDirectory
        | _ => .ok (tree.root.put (way.reverse ++ [name]) (.file text))

end Tree

/-- A tree of files, and what is left of standard input. -/
structure World extends Tree where
  stdin : String := ""

namespace World

/-- A change of the files that may fail, and then changes none. -/
def change (f : Tree → Except OsError Entry) : StateM World (Except OsError Unit) := fun world =>
  match f world.toTree with
  | .ok root => (.ok (), { world with root })
  | .error e => (.error e, world)

/-- Looks at the files. -/
def look {α : Type} (f : Tree → α) : StateM World α := fun world => (f world.toTree, world)

/-- Makes a directory; one that is there already will do. -/
def ensureDirectory (way steps : List String) (name : String) :
    StateM World (Except OsError Unit) := do
  match ← change fun tree => tree.root.makeDirectory way steps name with
  | .ok () => return .ok ()
  | .error e =>
    let found ← look fun tree => tree.root.leadsToDirectory way (steps ++ [name])
    return if found then .ok () else .error e

/--
Makes a directory, and those that it is in, by the steps to it, the last first.  What was made on
the way stays if there is a failure later.
-/
def makeDirectories (way : List String) : List String → StateM World (Except OsError Unit)
  | [] => return .ok ()
  | name :: above => do
    match ← ensureDirectory way above.reverse name with
    | .error .notFound =>
      match ← makeDirectories way above with
      | .ok () => ensureDirectory way above.reverse name
      | .error e => return .error e
    | result => return result

/-- The operations on a tree of files that leave it as it is. -/
def view : View (StateM World) where
  readStdin := fun world => (world.stdin, { world with stdin := "" })
  readFile path := look fun tree =>
    match tree.find path with
    | .ok (.file text) => .ok text
    | .ok (.directory _) => .error .isDirectory
    | .error e => .error e
  listDirectory path := look fun tree =>
    match tree.find path with
    | .ok (.file _) => .error .notDirectory
    | .ok (.directory entries) => .ok (entries.map (·.1))
    | .error e => .error e
  kind? path := look fun tree =>
    match tree.find path with
    | .ok (.file _) => some .file
    | .ok (.directory _) => some .directory
    | .error _ => none

/-- The operations on a tree of files. -/
def host : Host (StateM World) where
  toView := view
  writeFile path text := change fun tree => tree.write path text
  createDirectories path := fun world =>
    makeDirectories (world.start path) (components path).reverse world

end World

end SampleTypes.Files
