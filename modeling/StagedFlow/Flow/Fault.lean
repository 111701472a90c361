import StagedFlow.Flow.Kind

/-!
# Faults of calls and of registrations

A fault of a call has three readings: the full message for logs, the public message that may be
shown to a caller, and two numeric codes.
-/

namespace StagedFlow

/-- What a call can fail with. -/
inductive FlowFault where
  | notRegistered (name : String)
  | invalidInput (reason : String)
  | notFound (kind name : String)
  | authorizationRequired (operation app url : String)
  | setupFailed (reason : String)
  | operationFailed (operation reason : String)
  | invalidOutput (operation : String)
  | internal (reason : String)
deriving DecidableEq

namespace FlowFault

def message : FlowFault → String
  | notRegistered name => "flow '" ++ name ++ "' is not registered"
  | invalidInput reason => "invalid input: " ++ reason
  | notFound kind name => kind ++ " '" ++ name ++ "' not found"
  | authorizationRequired operation app _ =>
    "authorization required for app '" ++ app ++ "' to run '" ++ operation ++ "'"
  | setupFailed reason => "execution setup failed: " ++ reason
  | operationFailed operation reason => "operation '" ++ operation ++ "' failed: " ++ reason
  | invalidOutput operation => "operation '" ++ operation ++ "' produced invalid output"
  | internal reason => "internal error: " ++ reason

/-- The message for callers: it holds no internal detail. -/
def publicMessage : FlowFault → String
  | authorizationRequired _ app url =>
    "authorization required for app '" ++ app ++ "'; authorize at " ++ url
  | setupFailed _ => "failed to prepare the operation"
  | operationFailed operation _ => "operation '" ++ operation ++ "' failed"
  | internal _ => "internal error"
  | fault => fault.message

/-- The code for remote procedure calls. -/
def code : FlowFault → Int
  | notRegistered _ => -32601
  | invalidInput _ => -32602
  | notFound _ _ => -32602
  | authorizationRequired _ _ _ => -32001
  | _ => -32603

/-- The status for a transport. -/
def status : FlowFault → Nat
  | notRegistered _ => 404
  | notFound _ _ => 404
  | invalidInput _ => 400
  | authorizationRequired _ _ _ => 403
  | _ => 500

end FlowFault

inductive RegistrationFault where
  | stageNotAllowed (flow kind : String) (stage : Stage)
  | duplicateHook (flow : String) (stage : Stage) (name : String)
  | duplicateObserver (name : String)
  | duplicateFlow (name : String)
  | invalidPlan (flow : String) (fault : PlanFault)
  | missingDependency (flow dependency : String)
  | initialization (flow reason : String)
deriving DecidableEq

namespace RegistrationFault

def notAllowed (token : FlowToken) (stage : Stage) : RegistrationFault :=
  stageNotAllowed token.name token.kind.name stage

def message : RegistrationFault → String
  | stageNotAllowed flow kind stage =>
    "stage '" ++ stage ++ "' is not allowed for flow '" ++ flow ++ "' of kind '" ++ kind ++ "'"
  | duplicateHook flow stage name =>
    "hook '" ++ name ++ "' already registered for '" ++ flow ++ "' at stage '" ++ stage ++ "'"
  | duplicateObserver name => "observer '" ++ name ++ "' already registered"
  | duplicateFlow name => "flow '" ++ name ++ "' is already registered"
  | invalidPlan flow fault => "flow '" ++ flow ++ "' has an invalid plan: " ++ fault.message
  | missingDependency flow dependency =>
    "flow '" ++ flow ++ "' depends on unregistered provider '" ++ dependency ++ "'"
  | initialization flow reason => "flow '" ++ flow ++ "' failed to initialize: " ++ reason

end RegistrationFault

end StagedFlow
