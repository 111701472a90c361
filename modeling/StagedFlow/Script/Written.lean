import StagedFlow.Flow.Dispatch
import StagedFlow.Server.Plugin
import StagedFlow.Tool.Fault

/-!
# Written forms of results

How faults, outcomes, hooks and responses are written as JSON.
-/

namespace StagedFlow

/-- A fault: its kind and its message. -/
def Json.fault (kind message : String) : Json :=
  .obj [("error", .str kind), ("message", .str message)]

namespace FlowFault

def kindName : FlowFault → String
  | notRegistered _ => "NotRegistered"
  | invalidInput _ => "InvalidInput"
  | notFound _ _ => "NotFound"
  | authorizationRequired _ _ _ => "AuthorizationRequired"
  | setupFailed _ => "ExecutionSetupFailed"
  | operationFailed _ _ => "OperationExecution"
  | invalidOutput _ => "InvalidOutput"
  | internal _ => "Internal"

def toJson (fault : FlowFault) : Json :=
  .obj
    [("error", .str fault.kindName), ("message", .str fault.message),
     ("public", .str fault.publicMessage), ("code", .int fault.code), ("status", .nat fault.status)]

end FlowFault

namespace PlanFault

def kindName : PlanFault → String
  | duplicateStage _ => "DuplicateStage"
  | unknownStage _ => "UnknownScopeStage"
  | releaseBeforeAcquire _ => "ReleaseBeforeAcquire"
  | overlappingBracket _ => "OverlappingScope"

def toJson (fault : PlanFault) : Json := .fault fault.kindName fault.message

end PlanFault

namespace RegistrationFault

def kindName : RegistrationFault → String
  | stageNotAllowed _ _ _ => "StageNotAllowed"
  | duplicateHook _ _ _ => "DuplicateHook"
  | duplicateObserver _ => "DuplicateObserver"
  | duplicateFlow _ => "DuplicateFlow"
  | invalidPlan _ _ => "InvalidPlan"
  | missingDependency _ _ => "MissingDependency"
  | initialization _ _ => "Initialization"

def toJson (fault : RegistrationFault) : Json := .fault fault.kindName fault.message

end RegistrationFault

namespace ToolRegistrationFault

def kindName : ToolRegistrationFault → String
  | duplicateTool _ => "DuplicateTool"
  | invalidSchema _ _ _ => "InvalidSchema"

def toJson (fault : ToolRegistrationFault) : Json := .fault fault.kindName fault.message

end ToolRegistrationFault

namespace ToolFault

def kindName : ToolFault → String
  | parameter _ => "ParameterError"
  | execution _ => "ExecutionError"
  | serialization _ => "SerializationError"

def toJson (fault : ToolFault) : Json := .fault fault.kindName fault.message

end ToolFault

/-- The module of the types of scripted plugins, which texts leave out. -/
def Script.markerModule : String := "markers::"

def ServerFault.toJson (fault : ServerFault) : Json :=
  .fault "panic" (fault.message.replace Script.markerModule "")

def Outcome.toJson (outcome : Outcome) : Json :=
  .obj
    (("outcome", .str outcome.label)
      :: match outcome with
        | .responded value => [("value", value)]
        | .completed (some value) => [("value", value)]
        | .aborted reason => [("reason", .ofString? reason)]
        | .failed reason => [("reason", .ofString? reason)]
        | _ => [])

def Outcome.resultToJson : Except FlowFault Outcome → Json
  | .ok outcome => outcome.toJson
  | .error fault => fault.toJson

/-- What a direct caller receives of a call. -/
def Outcome.outputToJson : Except FlowFault Outcome → Json
  | .ok outcome => .obj [("output", outcome.output?.getD .null)]
  | .error fault => fault.toJson

def Response.toJson : Response → Json
  | .reply status body =>
    .obj
      (("reply", .nat status)
        :: match body with
          | some v => [("body", v)]
          | none => [])
  | .handled => .str "handled"
  | .unmatched => .str "unmatched"

def HookBinding.toJson {H : Type} (hook : HookBinding H) : Json :=
  .obj
    [("name", .str hook.name), ("owner", .ofString? hook.owner), ("priority", .int hook.priority),
     ("stage", .str hook.stage)]

/-- Nothing but the fault of a registration is of interest. -/
def RegistrationFault.verdict {α : Type} : Except RegistrationFault α → Json
  | .ok _ => .str "ok"
  | .error fault => fault.toJson

end StagedFlow
