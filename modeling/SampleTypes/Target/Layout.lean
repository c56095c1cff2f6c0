import SampleTypes.Ident.Convention
import SampleTypes.Naming.Graph

/-!
# Layout

What the output of several languages has in common: indentation, and the names of types that are
declared inside others.
-/

namespace SampleTypes.Target

open Ident (Convention)
open Naming (Member)

/-- The blanks before a line of a level. -/
def indent (level width : Nat) : String :=
  String.ofList (List.replicate (level * width) ' ')

/--
The name of a type inside another one.  It may not be the name of a member beside it; such a name
gets the word `type` at its end.
-/
def nestedName (convention : Convention) (siblings : List Member) (name : String) : String :=
  if siblings.any (·.ident == name) then convention.join (Ident.splitWords name ++ ["type"])
  else name

end SampleTypes.Target
