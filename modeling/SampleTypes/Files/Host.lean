/-!
# Access to files

What a program asks of the machine that it runs on: texts of files, lists of directories, standard
input.  A `Host` gives these operations in some monad, so that one program runs both on a machine
and on a tree of files held as a value; a `View` is the part of it that changes no file.
-/

namespace SampleTypes.Files

/-- Why an operation on files failed. -/
inductive OsError where
  | notFound
  | alreadyExists
  | notDirectory
  | isDirectory
  | other (message : String)
deriving DecidableEq, Repr, Inhabited

/-- The wording of an error, with its number. -/
def OsError.message : OsError → String
  | .notFound => "No such file or directory (os error 2)"
  | .alreadyExists => "File exists (os error 17)"
  | .notDirectory => "Not a directory (os error 20)"
  | .isDirectory => "Is a directory (os error 21)"
  | .other message => message

/-- What a path leads to. -/
inductive Kind where
  | file
  | directory
deriving DecidableEq, Repr, Inhabited

/-- Operations that leave all files as they are. -/
structure View (m : Type → Type) where
  /-- What is left of standard input. -/
  readStdin : m String
  /-- The text of a file. -/
  readFile : String → m (Except OsError String)
  /-- The names in a directory, in any order. -/
  listDirectory : String → m (Except OsError (List String))
  /-- What is at a path, if anything is. -/
  kind? : String → m (Option Kind)

/-- All operations on files and standard input. -/
structure Host (m : Type → Type) extends View m where
  /-- Makes a text the content of a file, new or old. -/
  writeFile : String → String → m (Except OsError Unit)
  /-- Makes a directory, and those that it is in. -/
  createDirectories : String → m (Except OsError Unit)

end SampleTypes.Files
