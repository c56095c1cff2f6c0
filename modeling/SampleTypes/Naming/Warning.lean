import SampleTypes.Text.Quoted

/-!
# Naming warnings

A key that could not be used as it is, the identifier that was used instead, and why.
-/

namespace SampleTypes.Naming

/-- Why an identifier differs from what its key and the convention alone would give. -/
inductive Reason where
  | illegalCharacters
  | leadingDigit
  | keyword
  | empty
  | collision
deriving DecidableEq, Repr

/-- The wording of a reason. -/
def Reason.message : Reason → String
  | .illegalCharacters => "not a legal identifier"
  | .leadingDigit => "starts with a digit"
  | .keyword => "reserved keyword"
  | .empty => "no identifier characters"
  | .collision => "collides with a sibling field"

/-- A key that was renamed. -/
structure Warning where
  key : String
  ident : String
  reason : Reason
deriving DecidableEq, Repr

/-- The wording of a warning. -/
def Warning.message (w : Warning) : String :=
  "key " ++ Text.quoted w.key ++ " emitted as `" ++ w.ident ++ "` (" ++ w.reason.message ++ ")"

end SampleTypes.Naming
