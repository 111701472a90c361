import StagedFlow.Demo.Tools
import StagedFlow.Plugins.Flows
import StagedFlow.Plugins.Tools
import StagedFlow.Tool.Admission
import StagedFlow.Tool.Calling

/-!
# The plugin of the demo server

It limits the number of calls at a time, registers the demo's tools, admits calls through hooks of
the call flow, and listens to calls.
-/

namespace StagedFlow.Demo

variable {X L : Type}

def toolComplaint : ToolRegistrationFault → String
  | .duplicateTool name => "demo tools are valid: DuplicateTool(" ++ Text.quoted name ++ ")"
  | fault => "demo tools are valid: " ++ fault.message

def hookComplaint : RegistrationFault → String
  | .duplicateHook flow stage name =>
    "admission hooks bind to call-tool stages: DuplicateHook \x7b flow: " ++ Text.quoted flow
      ++ ", stage: " ++ Text.quoted stage ++ ", name: " ++ Text.quoted name ++ " \x7d"
  | fault => "admission hooks bind to call-tool stages: " ++ fault.message

def observerComplaint : RegistrationFault → String
  | .duplicateObserver name =>
    "observer name is unique: DuplicateObserver(" ++ Text.quoted name ++ ")"
  | fault => "observer name is unique: " ++ fault.message

def addTools (store : Store X L) : Except ServerFault (Store X L) :=
  match store.resources.get? .tools with
  | none => .error (.failed "ToolsPlugin must be added first")
  | some (registry : ToolRegistry X (World L)) =>
    match tools.foldlM ToolRegistry.register registry with
    | .ok registry => .ok (store.putResource .tools registry)
    | .error fault => .error (.failed (toolComplaint fault))

/-- The demo listens to calls and keeps nothing of them. -/
def listener : Observer (World L) := ⟨"demo:log", fun _ w => w⟩

/-- Registers the hooks that admit calls, and the listener. -/
def addHooks (store : Store X L) : Except ServerFault (Store X L) :=
  match store.apis.get? .hooks with
  | none => .error (.failed "FlowsPlugin must be added first")
  | some (registry : HookRegistry (World L) (Handler X L)) =>
    match Admission.hooks.foldlM (fun hooks hook => hooks.register callToken hook) registry with
    | .error fault => .error (.failed (hookComplaint fault))
    | .ok (registry : HookRegistry (World L) (Handler X L)) =>
      match registry.observe listener with
      | .error fault => .error (.failed (observerComplaint fault))
      | .ok registry => .ok (store.putApi .hooks registry)

def pluginType : String := "example::DemoPlugin"

def plugin (max : Nat) : Plugin (Store X L) where
  info := .ofType pluginType [flowsPluginType, toolsPluginType]
  build :=
    .change (fun store => store.provide .limit ⟨max⟩) (.act addTools (.act addHooks .done))
  ready := .done
  cleanup := .done

/-- The largest number of calls at a time that can be kept count of. -/
def maxPermits : Nat := Nat.pow 2 61 - 1

/-- The demo with a number of calls at a time that is not known to be in reach. -/
def plugin? (max : Nat) : Except ServerFault (Plugin (Store X L)) :=
  if max ≤ maxPermits then .ok (plugin max)
  else
    .error (.failed ("a semaphore may not have more than MAX_PERMITS permits ("
      ++ toString maxPermits ++ ")"))

end StagedFlow.Demo
