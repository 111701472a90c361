import StagedFlow.Tool.Admission
import StagedFlow.Tool.Calling
import StagedFlow.Tool.Listing

/-!
# The platform of a tool server
-/

namespace StagedFlow

variable {X L : Type}

/-- What a handler code of a tool server does, given what the server's own hooks do. -/
def Handler.run (behave : X → ToolM X L Unit) : Handler X L → ToolM X L Unit
  | .custom hook => behave hook
  | .call flow step => flow.step step
  | .list flow step => flow.step step
  | .acquire => Admission.acquire
  | .release => Admission.release

def toolPlatform (behave : X → ToolM X L Unit) :
    Platform (CallState X L) (World L) (Handler X L) where
  scope state := state.get? .scope
  invoke hook := hook.handler.run behave
  nextId := World.nextId
  countCall := World.countCall
  retire := Admission.retire

end StagedFlow
