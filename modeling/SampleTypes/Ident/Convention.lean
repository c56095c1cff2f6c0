import SampleTypes.Ident.Words
import SampleTypes.Text.CaseMap

/-!
# Naming conventions

How the words of a key are put together to one identifier.  Pascal case capitalises every word and
camel case every word but the first; snake case writes the words small with underscores between.
-/

namespace SampleTypes.Ident

open Text

/-- The casing of generated names. -/
inductive Convention where
  | pascal
  | camel
  | snake
deriving DecidableEq, Repr, Inhabited

/-- The first letter large, the others small, each by itself. -/
def capitalize : List Char → List Char
  | [] => []
  | c :: rest => toUppercase c ++ rest.flatMap toLowercase

namespace Convention

/-- The words as one identifier, as a list of characters. -/
def joinChars : Convention → List (List Char) → List Char
  | .pascal, ws => ws.flatMap capitalize
  | .camel, [] => []
  | .camel, w :: ws => lowercaseWord w ++ ws.flatMap capitalize
  | .snake, ws => ['_'].intercalate (ws.map lowercaseWord)

/-- The words as one identifier. -/
def join (convention : Convention) (ws : List String) : String :=
  String.ofList (convention.joinChars (ws.map String.toList))

/-- The words of a key as one identifier.  It is empty if the key has no word character. -/
def apply (convention : Convention) (key : String) : String :=
  String.ofList (convention.joinChars (words key.toList))

/-- What is put before an identifier that would start with a digit. -/
def digitMark : Convention → String
  | .pascal => "N"
  | .camel => "n"
  | .snake => "n_"

/-- An identifier with a number at its end. -/
def withCounter : Convention → String → Nat → String
  | .snake, base, n => base ++ "_" ++ toString n
  | _, base, n => base ++ toString n

end Convention

/-- A letter or an underscore, of ASCII alone. -/
def isPlainStart (c : Char) : Bool :=
  c.isAlpha || c == '_'

/-- A letter, a digit or an underscore, of ASCII alone. -/
def isPlainPart (c : Char) : Bool :=
  c.isAlphanum || c == '_'

/-- The key can be an identifier in every target language as it stands. -/
def isPlain (key : String) : Bool :=
  match key.toList with
  | [] => false
  | c :: rest => isPlainStart c && rest.all isPlainPart

end SampleTypes.Ident
