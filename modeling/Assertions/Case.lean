import Assertions.Logging

/-!
Test cases. A case logs that it starts, runs its body, and stops whatever unwinds from it: the
case then ends with an error, which is the mismatch of a failed assertion or the text of a panic.
-/

namespace Assertions.Effect

variable {α : Type}

def openCase (name : String) : Effect Unit :=
  log (.start Component.boundary OpName.runCase (some name))

def closeCase (name : String) : Ending α → Effect (Except CaseError Unit)
  | .returned _ => do
      log (.finish Component.boundary OpName.runCase Event.measured (some name))
      return .ok ()
  | .unwound payload => do
      let error := CaseError.ofPayload payload
      log (.failure Component.boundary OpName.runCase error Event.measured (some name))
      return .error error
  | .halted cause => halt cause

def runCase (name : String) (body : Effect α) : Effect (Except CaseError Unit) := do
  openCase name
  closeCase name (← catching body)

end Assertions.Effect
