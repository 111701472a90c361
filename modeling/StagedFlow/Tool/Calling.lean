import StagedFlow.Tool.Handler
import StagedFlow.Tool.Result

/-!
# Calling a tool

The stages of a tool call. The envelope is parsed, the tool looked up, the caller's grants are
checked, the tool's own hooks are attached; then arguments are validated, the tool runs, and its
output becomes the result, rendered if the tool asks for it. Two brackets around the operation leave
room for the admission of calls.
-/

namespace StagedFlow

def callKind : FlowKind :=
  ⟨"tools:call",
    ["parseInput", "findTool", "checkToolAuthorization", "createToolCallContext", "acquireQuota",
     "acquireSemaphore", "validateInput", "execute", "validateOutput", "releaseSemaphore",
     "releaseQuota", "finalize"]⟩

def callToken : FlowToken := ⟨"tools:call-tool", callKind⟩

def callPlan : Plan :=
  ⟨["parseInput", "findTool", "checkToolAuthorization", "createToolCallContext", "acquireQuota",
      "acquireSemaphore"],
    ["validateInput", "execute", "validateOutput"],
    [],
    ["releaseSemaphore", "releaseQuota", "finalize"],
    [⟨"acquireQuota", "releaseQuota"⟩, ⟨"acquireSemaphore", "releaseSemaphore"⟩]⟩

namespace CallFlow

variable {X L : Type}

/-- Whether a caller may run a tool: a refusal, or leave to run it anonymously. Calls without
authorization, tools without an owner and granted apps need no leave. -/
def authorize (flow : CallFlow X L) (state : CallState X L) :
    Except FlowFault (Option AnonymousAccess) :=
  match state.get? .auth with
  | none => .ok none
  | some (auth : AuthInfo) => do
    let tool : Tool X (World L) ← state.require .tool
    match tool.owner with
    | none => pure none
    | some app =>
      if auth.grants app then pure none
      else
        match flow.auth.policy with
        | .anonymous => pure (some ⟨app, tool.name⟩)
        | .mustAuthorize =>
          throw (.authorizationRequired tool.name app (flow.auth.authorizeUrl app tool.name))

def parseInput : ToolM X L Unit := do
  let params ← HookM.ofExcept (CallParams.ofEnvelope (← HookM.context).input)
  ToolM.put .params params

def findTool (flow : CallFlow X L) : ToolM X L Unit := do
  let params : CallParams ← ToolM.require .params
  match flow.tools.find? params.name with
  | some tool => ToolM.put .tool tool
  | none => HookM.fault (.notFound "tool" params.name)

def checkAuthorization (flow : CallFlow X L) : ToolM X L Unit := do
  match ← HookM.ofExcept (flow.authorize (← HookM.state)) with
  | some access => ToolM.put .anonymous access
  | none => pure ()

/-- Attaches hooks to the call; the first one that is refused fails the call. -/
def attachAll : List (HookBinding X) → ToolM X L Unit
  | [] => pure ()
  | hook :: rest => do
    match ← HookM.attach (hook.mapHandler .custom) with
    | .ok () => attachAll rest
    | .error fault => HookM.fault (.setupFailed fault.message)

def createContext : ToolM X L Unit := do
  let tool : Tool X (World L) ← ToolM.require .tool
  let params : CallParams ← ToolM.require .params
  let call : ToolCall := ⟨(← HookM.context).callId, tool.name, tool.owner, params.metadata⟩
  attachAll tool.hooks
  ToolM.put .call call
  HookM.checkpoint "createToolCallContext"

def validateInput : ToolM X L Unit := do
  let tool : Tool X (World L) ← ToolM.require .tool
  let params : CallParams ← ToolM.require .params
  let arguments := params.argumentsOrNone
  match tool.inputViolations arguments with
  | [] => ToolM.put .validated arguments
  | violations =>
    HookM.fault (.invalidInput
      ("invalid arguments for '" ++ tool.name ++ "': " ++ Violation.join violations))

def execute : ToolM X L Unit := do
  let tool : Tool X (World L) ← ToolM.require .tool
  let arguments : Json ← ToolM.require .validated
  let call : ToolCall ← ToolM.require .call
  match ← HookM.lift (tool.execute arguments call) with
  | .ok output => ToolM.put .execution output
  | .error fault => HookM.fault (.operationFailed tool.name fault.message)

def validateOutput : ToolM X L Unit := do
  let state ← HookM.state
  match state.get? .execution with
  | some (output : Json) => HookM.setState ((state.erase .execution).insert .raw output)
  | none => HookM.fault (.internal "tool produced no output")

/-- The result of an output before it is rendered. -/
def plainResult (tool : Tool X (World L)) (raw : Json) : CallResult :=
  if tool.definition.outputSchema.isSome then .ofValidated raw else .ofOutput raw

/-- The session of the caller: that of the authorization comes first. -/
def sessionOf (state : CallState X L) : Option SessionInfo :=
  let own : Option SessionInfo := (state.get? .auth).bind fun (auth : AuthInfo) => auth.session
  let given : Option SessionInfo := state.get? .session
  own <|> given

/-- What the renderer of a tool is asked. -/
def renderRequest (tool : Tool X (World L)) (config : RenderConfig) (raw : Json)
    (state : CallState X L) : RenderRequest :=
  ⟨tool.name, (state.get? .validated).getD Json.null, raw, config,
    ClientHint.detect (sessionOf state)⟩

/-- Renders a result where the tool asks for it; a renderer that fails changes nothing. -/
def rendered (flow : CallFlow X L) (tool : Tool X (World L)) (raw : Json) (state : CallState X L) :
    Task (World L) CallResult :=
  match tool.definition.render, flow.renderer with
  | some config, some renderer =>
    (renderer.render (renderRequest tool config raw state)).map fun answer =>
      match answer with
      | .ok metadata => (plainResult tool raw).applyRender metadata
      | .error _ => plainResult tool raw
  | _, _ => .done (plainResult tool raw)

def finalize (flow : CallFlow X L) : ToolM X L Unit := do
  let tool : Tool X (World L) ← ToolM.require .tool
  let raw : Json ← ToolM.require .raw
  match tool.outputViolations raw with
  | [] => do
    let result ← HookM.lift (flow.rendered tool raw (← HookM.state))
    HookM.setOutput result.toJson
  | _ => HookM.fault (.invalidOutput tool.name)

def checkpoint : ToolM X L Unit := do
  match (← HookM.context).stage with
  | some stage => HookM.checkpoint stage
  | none => pure ()

def step (flow : CallFlow X L) : CallStep → ToolM X L Unit
  | .parseInput => parseInput
  | .findTool => flow.findTool
  | .checkAuthorization => flow.checkAuthorization
  | .createContext => createContext
  | .validateInput => validateInput
  | .execute => execute
  | .validateOutput => validateOutput
  | .finalize => flow.finalize
  | .checkpoint => checkpoint

/-- The flow's own handlers. -/
def table (flow : CallFlow X L) : List (HookBinding (Handler X L)) :=
  [("parseInput", CallStep.parseInput), ("findTool", .findTool),
   ("checkToolAuthorization", .checkAuthorization), ("createToolCallContext", .createContext),
   ("validateInput", .validateInput), ("execute", .execute), ("validateOutput", .validateOutput),
   ("finalize", .finalize), ("acquireQuota", .checkpoint), ("acquireSemaphore", .checkpoint),
   ("releaseSemaphore", .checkpoint), ("releaseQuota", .checkpoint)].map
    fun (stage, step) => .own stage (.call flow step)

end CallFlow

end StagedFlow
