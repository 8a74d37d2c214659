import BrokerControl.Failure
import BrokerControl.Parameter.Body
import BrokerControl.Yaml.Value

/-!
# Declaration files

A declaration as a user writes it: a YAML text whose document is a mapping of parameters. An empty
document declares nothing.
-/

namespace BrokerControl

namespace Declaration

/-- The declaration in a text. -/
def parse (text : String) : Except Failure Declaration :=
  match Yaml.parse? text with
  | none => .error ⟨["Failed to parse desired state"], .yaml⟩
  | some (.object fields) => .ok fields
  | some .null => .ok []
  | some _ => .error (.ofCause (.plain "Desired state must be a mapping of parameters"))

end Declaration

end BrokerControl
