import SampleTypes.Files.Host
import SampleTypes.Files.Path
import SampleTypes.Glob.Pattern

/-!
# Expanding a pattern

The paths that a pattern matches, directory by directory in the order of the names.  A directory
that matches comes before what matches inside it.  A directory that cannot be listed yields a
failure in its place.
-/

namespace SampleTypes.Glob

open Files (Kind OsError View)

/-- A directory that could not be listed, and why. -/
structure ListFailure where
  path : String
  cause : OsError

/-- The wording of a failure. -/
def ListFailure.message (f : ListFailure) : String :=
  "attempting to read `" ++ f.path ++ "` resulted in an error: " ++ f.cause.message

/-- Matches in their order, a failure in the place of what could not be listed. -/
abbrev Matches := List (Except ListFailure String)

/-- More directories than a path can be deep, and then as many parts. -/
def maxSteps : Nat := 8192

/-- A path inside the directory where the search stands; the start is not shown. -/
def inside (directory name : String) : String :=
  if directory = "." then name else Files.join directory name

section

variable {m : Type → Type} [Monad m] (view : View m) (directoriesOnly : Bool)

/-- A path that all parts led to. -/
def reached (path : String) (kind : Kind) : Matches :=
  if directoriesOnly && kind != .directory then [] else [.ok path]

mutual

/-- What the parts match at or below an entry of a directory. -/
def visit : Nat → List (List Token) → String → String → Kind → m Matches
  | 0, _, _, _, _ => pure []
  | _, [], _, _, _ => pure []
  | fuel + 1, part :: more, path, name, kind =>
    if part = [.anyDirectories] then do
      let below := more.dropWhile (· = [.anyDirectories])
      let deeper ← if kind = .directory then search fuel (part :: below) path kind else pure []
      match below with
      | [] => pure ((if kind = .directory then [.ok path] else []) ++ deeper)
      | next :: rest => do
        let own ← enter fuel next rest path name kind
        pure (own ++ deeper)
    else enter fuel part more path name kind

/-- What the parts match at an entry whose name has to match the first of them. -/
def enter : Nat → List Token → List (List Token) → String → String → Kind → m Matches
  | 0, _, _, _, _, _ => pure []
  | fuel + 1, part, more, path, name, kind =>
    if !matchesName part name.toList then pure []
    else if more.isEmpty then pure (reached directoriesOnly path kind)
    else search fuel more path kind

/-- What the parts match inside a directory. -/
def search : Nat → List (List Token) → String → Kind → m Matches
  | 0, _, _, _ => pure []
  | _, [], _, _ => pure []
  | fuel + 1, part :: more, directory, kind =>
    match literal? part with
    | some name => do
      let path := inside directory name
      let found ← view.kind? path
      let special := name = "." ∨ name = ".."
      let there := if special then kind = .directory else found.isSome
      if !there then pure []
      else
        let kind := found.getD .directory
        if more.isEmpty then pure (reached directoriesOnly path kind)
        else search fuel more path kind
    | none =>
      if kind ≠ .directory then pure []
      else do
        match ← view.listDirectory directory with
        | .error cause => pure [.error ⟨directory, cause⟩]
        | .ok names =>
          let specials := if part.head? = some (.char '.') then ["..", "."] else []
          let above ← (specials.filter fun name => matchesName part name.toList).mapM fun name =>
            let path := Files.join directory name
            if more.isEmpty then pure [.ok path] else search fuel more path .directory
          let sorted := names.mergeSort fun a b => !(b < a)
          let below ← sorted.mapM fun name => do
            let path := inside directory name
            let kind ← view.kind? path
            visit fuel (part :: more) path name (kind.getD .file)
          pure (above.flatten ++ below.flatten)

end

end

/-- The paths that a pattern matches. -/
def Pattern.expand {m : Type → Type} [Monad m] (view : View m) (pattern : Pattern) : m Matches :=
  search view pattern.directoriesOnly maxSteps pattern.parts
    (if pattern.absolute then "/" else ".") .directory

end SampleTypes.Glob
