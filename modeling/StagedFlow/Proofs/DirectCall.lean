import StagedFlow.Proofs.Handlers
import StagedFlow.Tool.Calling

/-!
# Tool calls in direct style

Calling a tool takes twelve stages that hand one another what they have found through the state of
the call. `CallFlow.direct` says the same in one piece: the envelope, the tool, the caller's leave,
the arguments, the tool itself, its output. What each stage does with the state is an equation here.
-/

namespace StagedFlow

variable {X L : Type}

namespace CallFlow

def refusal? (auth : AuthConfig) (caller : Option AuthInfo) (tool : Tool X (World L)) :
    Option FlowFault :=
  match caller with
  | none => none
  | some info =>
    match tool.owner with
    | none => none
    | some app =>
      if info.grants app = false ∧ auth.policy = .mustAuthorize then
        some (.authorizationRequired tool.name app (auth.authorizeUrl app tool.name))
      else none

/-- The arguments of a call; arguments that are left out or `null` are none. -/
def argumentsOf : Option Json → Json
  | none => .obj []
  | some .null => .obj []
  | some arguments => arguments

def answered (tool : Tool X (World L)) : Except ToolFault Json → Except FlowFault Outcome
  | .error fault => .error (.operationFailed tool.name fault.message)
  | .ok output =>
    if tool.outputViolations output ≠ [] then .error (.invalidOutput tool.name)
    else if tool.definition.outputSchema.isSome then
      .ok (.completed (some (CallResult.ofValidated output).toJson))
    else .ok (.completed (some (CallResult.ofOutput output).toJson))

def perform (auth : AuthConfig) (call : String) (caller : Option AuthInfo)
    (tool : Tool X (World L)) (params : CallParams) :
    Task (World L) (Except FlowFault Outcome) :=
  match refusal? auth caller tool with
  | some fault => .done (.error fault)
  | none =>
    let arguments := argumentsOf params.arguments
    if tool.inputViolations arguments ≠ [] then
      .done (.error (.invalidInput ("invalid arguments for '" ++ tool.name ++ "': " ++
        Violation.join (tool.inputViolations arguments))))
    else
      (tool.execute arguments ⟨call, tool.name, tool.owner, params.metadata⟩).map (answered tool)

/-- Calling a tool in direct style. -/
def direct (tools : ToolRegistry X (World L)) (auth : AuthConfig) (call : String)
    (deps : CallState X L) (input : Json) : Task (World L) (Except FlowFault Outcome) :=
  match CallRequest.read input with
  | .error fault => .done (.error (.invalidInput fault.message))
  | .ok request =>
    if request.method ≠ "tools/call" then
      .done (.error (.invalidInput
        ("expected method 'tools/call', got '" ++ request.method ++ "'")))
    else
      match tools.find? request.params.name with
      | none => .done (.error (.notFound "tool" request.params.name))
      | some tool => perform auth call (deps.get? .auth) tool request.params

/-! ### The direct function in two parts -/

structure Served (X L : Type) where
  tool : Tool X (World L)
  arguments : Json
  output : Json

def checked (tool : Tool X (World L)) (arguments : Json) :
    Except ToolFault Json → Except FlowFault (Served X L)
  | .error fault => .error (.operationFailed tool.name fault.message)
  | .ok output =>
    if tool.outputViolations output ≠ [] then .error (.invalidOutput tool.name)
    else .ok ⟨tool, arguments, output⟩

def serveFound (auth : AuthConfig) (call : String) (caller : Option AuthInfo)
    (tool : Tool X (World L)) (params : CallParams) :
    Task (World L) (Except FlowFault (Served X L)) :=
  match refusal? auth caller tool with
  | some fault => .done (.error fault)
  | none =>
    let arguments := argumentsOf params.arguments
    if tool.inputViolations arguments ≠ [] then
      .done (.error (.invalidInput ("invalid arguments for '" ++ tool.name ++ "': " ++
        Violation.join (tool.inputViolations arguments))))
    else
      (tool.execute arguments ⟨call, tool.name, tool.owner, params.metadata⟩).map
        (checked tool arguments)

def serve (tools : ToolRegistry X (World L)) (auth : AuthConfig) (call : String)
    (deps : CallState X L) (input : Json) : Task (World L) (Except FlowFault (Served X L)) :=
  match CallRequest.read input with
  | .error fault => .done (.error (.invalidInput fault.message))
  | .ok request =>
    if request.method ≠ "tools/call" then
      .done (.error (.invalidInput
        ("expected method 'tools/call', got '" ++ request.method ++ "'")))
    else
      match tools.find? request.params.name with
      | none => .done (.error (.notFound "tool" request.params.name))
      | some tool => serveFound auth call (deps.get? .auth) tool request.params

def Served.request (served : Served X L) (config : RenderConfig) (deps : CallState X L) :
    RenderRequest :=
  ⟨served.tool.name, served.arguments, served.output, config, ClientHint.detect (sessionOf deps)⟩

def Served.result (served : Served X L) (renderer : Option (Renderer (World L)))
    (deps : CallState X L) : Task (World L) CallResult :=
  match served.tool.definition.render, renderer with
  | some config, some renderer =>
    (renderer.render (served.request config deps)).map fun answer =>
      match answer with
      | .ok metadata => (plainResult served.tool served.output).applyRender metadata
      | .error _ => plainResult served.tool served.output
  | _, _ => .done (plainResult served.tool served.output)

/-- The direct function from the output of the tool on. -/
def present (renderer : Option (Renderer (World L))) (deps : CallState X L) :
    Except FlowFault (Served X L) → Task (World L) (Except FlowFault Outcome)
  | .error fault => .done (.error fault)
  | .ok served =>
    (served.result renderer deps).map fun result => .ok (.completed (some result.toJson))

def plainly : Except FlowFault (Served X L) → Except FlowFault Outcome
  | .error fault => .error fault
  | .ok served => .ok (.completed (some (plainResult served.tool served.output).toJson))

theorem Served.result_none (served : Served X L) (deps : CallState X L) :
    served.result none deps = .done (plainResult served.tool served.output) := by
  unfold result
  cases served.tool.definition.render <;> rfl

theorem present_none (deps : CallState X L) (served : Except FlowFault (Served X L)) :
    present none deps served = .done (plainly served) := by
  cases served with
  | error fault => rfl
  | ok served =>
    rw [present, served.result_none]
    rfl

theorem plainly_checked (tool : Tool X (World L)) (arguments : Json)
    (answer : Except ToolFault Json) :
    plainly (checked tool arguments answer) = answered tool answer := by
  cases answer with
  | error fault => rfl
  | ok output =>
    rw [checked, answered]
    by_cases hviolations : tool.outputViolations output ≠ []
    · rw [if_pos hviolations, if_pos hviolations]
      rfl
    · rw [if_neg hviolations, if_neg hviolations, plainly, plainResult]
      cases tool.definition.outputSchema <;> rfl

/-- The direct function serves a call, and its result stays plain. -/
theorem direct_eq (tools : ToolRegistry X (World L)) (auth : AuthConfig) (call : String)
    (deps : CallState X L) (input : Json) :
    direct tools auth call deps input = (serve tools auth call deps input).map plainly := by
  unfold direct serve
  cases CallRequest.read input with
  | error fault => rfl
  | ok request =>
    dsimp only
    by_cases hmethod : request.method ≠ "tools/call"
    · rw [if_pos hmethod, if_pos hmethod]
      rfl
    · rw [if_neg hmethod, if_neg hmethod]
      cases tools.find? request.params.name with
      | none => rfl
      | some tool =>
        dsimp only
        unfold perform serveFound
        cases refusal? auth (deps.get? .auth) tool with
        | some fault => rfl
        | none =>
          dsimp only
          by_cases hviolations : tool.inputViolations (argumentsOf request.params.arguments) ≠ []
          · rw [if_pos hviolations, if_pos hviolations]
            rfl
          · rw [if_neg hviolations, if_neg hviolations, Task.map_map]
            simp only [plainly_checked]

theorem valueAt?_ne_null (name : String) (fields : List (String × Json)) :
    Json.valueAt? name fields ≠ some .null := by
  unfold Json.valueAt?
  cases Json.lookup name fields with
  | none => exact nofun
  | some v => cases v <;> exact nofun

theorem arguments_ne_null {params : CallParams} {v : Json}
    (hread : CallParams.read v = .ok params) : params.arguments ≠ some .null := by
  rw [CallParams.read] at hread
  cases hfields : CallParams.record.read v with
  | error fault =>
    rw [hfields] at hread
    cases hread
  | ok fields =>
    rw [hfields] at hread
    cases hread
    exact valueAt?_ne_null "arguments" fields

/-- Arguments that were read are not `null`. -/
theorem request_arguments_ne_null {request : CallRequest} {v : Json}
    (hread : CallRequest.read v = .ok request) : request.params.arguments ≠ some .null := by
  rw [CallRequest.read] at hread
  cases hfields : CallRequest.record.read v with
  | error fault =>
    rw [hfields] at hread
    cases hread
  | ok fields =>
    rw [hfields] at hread
    cases hread
    rw [CallRequest.ofFields]
    cases hparams : CallParams.read ((Json.lookup "params" fields).getD .null) with
    | error fault => exact nofun
    | ok params => exact arguments_ne_null hparams

theorem argumentsOf_eq {params : CallParams} (hnull : params.arguments ≠ some .null) :
    argumentsOf params.arguments = params.argumentsOrNone := by
  rw [CallParams.argumentsOrNone]
  revert hnull
  cases params.arguments with
  | none => exact fun _ => rfl
  | some v =>
    cases v with
    | null => exact fun hnull => absurd rfl hnull
    | _ => exact fun _ => rfl

theorem ofEnvelope_eq (input : Json) :
    CallParams.ofEnvelope input =
      match CallRequest.read input with
      | .error fault => .error (.invalidInput fault.message)
      | .ok request =>
        if request.method ≠ "tools/call" then
          .error (.invalidInput ("expected method 'tools/call', got '" ++ request.method ++ "'"))
        else .ok request.params := by
  rw [CallParams.ofEnvelope]
  cases CallRequest.read input with
  | error fault => rfl
  | ok request =>
    have hmethod : checkMethod "tools/call" request.method =
        if request.method ≠ "tools/call" then
          .error (.invalidInput ("expected method 'tools/call', got '" ++ request.method ++ "'"))
        else .ok () := by
      rw [checkMethod]
      by_cases h : request.method = "tools/call"
      · rw [if_pos (beq_iff_eq.mpr h), if_neg (not_not_intro h)]
      · rw [if_neg (by simpa using h), if_pos h]
        rfl
    change (checkMethod "tools/call" request.method >>= fun _ => .ok request.params) = _
    rw [hmethod]
    by_cases h : request.method ≠ "tools/call"
    · rw [if_pos h]
      simp only [if_pos h]
      rfl
    · rw [if_neg h]
      simp only [if_neg h]
      rfl

/-! ### The stages -/

variable {flow : CallFlow X L} {ctx : Context (CallState X L) (Handler X L)}

theorem parseInput_eq (flow : CallFlow X L) (ctx : Context (CallState X L) (Handler X L)) :
    flow.step .parseInput ctx =
      match CallParams.ofEnvelope ctx.input with
      | .error fault => .done (.error (.fault fault), .none)
      | .ok params => .done (.ok (), { state := some (ctx.state.insert .params params) }) := by
  refine (HookM.bind_context _ ctx).trans ?_
  cases CallParams.ofEnvelope ctx.input with
  | error fault => rfl
  | ok params =>
    have hparams : (HookM.ofExcept (.ok params) : ToolM X L _) ctx =
      .done (.ok params, .none) := rfl
    exact (HookM.bind_of_read hparams).trans (ToolM.put_eq .params params ctx)

theorem findTool_eq {params : CallParams} (hparams : ctx.state.get? .params = some params) :
    flow.step .findTool ctx =
      match flow.tools.find? params.name with
      | none => .done (.error (.fault (.notFound "tool" params.name)), .none)
      | some tool => .done (.ok (), { state := some (ctx.state.insert .tool tool) }) := by
  refine (ToolM.bind_require hparams _).trans ?_
  cases flow.tools.find? params.name with
  | none => rfl
  | some tool => exact ToolM.put_eq .tool tool ctx

def leave (auth : AuthConfig) (caller : Option AuthInfo) (tool : Tool X (World L)) :
    Except FlowFault (Option AnonymousAccess) :=
  match caller with
  | none => .ok none
  | some info =>
    match tool.owner with
    | none => .ok none
    | some app =>
      if info.grants app then .ok none
      else
        match auth.policy with
        | .anonymous => .ok (some ⟨app, tool.name⟩)
        | .mustAuthorize =>
          .error (.authorizationRequired tool.name app (auth.authorizeUrl app tool.name))

theorem authorize_eq_leave (flow : CallFlow X L) {state : CallState X L} {tool : Tool X (World L)}
    (htool : state.get? .tool = some tool) :
    flow.authorize state = leave flow.auth (state.get? .auth) tool := by
  have hrequire : state.require .tool = .ok tool := Bag.require_of_get? htool
  unfold authorize leave
  rw [hrequire]
  cases state.get? .auth with
  | none => rfl
  | some info =>
    simp only [bind, Except.bind]
    cases tool.owner with
    | none => rfl
    | some app => rfl

/-- Leave is given unless it is refused. -/
theorem leave_eq (auth : AuthConfig) (caller : Option AuthInfo) (tool : Tool X (World L)) :
    match refusal? auth caller tool with
    | some fault => leave auth caller tool = .error fault
    | none => ∃ access, leave auth caller tool = .ok access := by
  cases caller with
  | none => exact ⟨none, rfl⟩
  | some info =>
    unfold refusal? leave
    cases tool.owner with
    | none => exact ⟨none, rfl⟩
    | some app =>
      dsimp only
      cases info.grants app with
      | true => exact ⟨none, rfl⟩
      | false =>
        cases auth.policy with
        | anonymous => exact ⟨some ⟨app, tool.name⟩, rfl⟩
        | mustAuthorize => rfl

/-- A caller with leave goes on; the state may remember that the call is anonymous. -/
theorem checkAuthorization_eq (flow : CallFlow X L)
    (ctx : Context (CallState X L) (Handler X L)) {tool : Tool X (World L)}
    (htool : ctx.state.get? .tool = some tool) :
    match refusal? flow.auth (ctx.state.get? .auth) tool with
    | some fault => flow.step .checkAuthorization ctx = .done (.error (.fault fault), .none)
    | none => ∃ changes, flow.step .checkAuthorization ctx = .done (.ok (), changes) ∧
      changes.attached = [] ∧ ∀ slot, slot ≠ .anonymous →
        (changes.state.getD ctx.state).get? slot = ctx.state.get? slot := by
  have hread : flow.step .checkAuthorization ctx = _ := HookM.bind_state _ ctx
  have hauthorize := leave_eq flow.auth (ctx.state.get? .auth) tool
  rw [← authorize_eq_leave flow htool] at hauthorize
  revert hauthorize
  cases refusal? flow.auth (ctx.state.get? .auth) tool with
  | some fault =>
    intro hauthorize
    refine hread.trans ?_
    simp only [hauthorize]
    rfl
  | none =>
    rintro ⟨access, hauthorize⟩
    have haccess : (HookM.ofExcept (flow.authorize ctx.state) : ToolM X L _) ctx =
        .done (.ok access, .none) := by
      rw [hauthorize]
      rfl
    have hrest := hread.trans (HookM.bind_of_read haccess)
    cases access with
    | none => exact ⟨.none, hrest, rfl, fun _ _ => rfl⟩
    | some access =>
      exact ⟨_, hrest.trans (ToolM.put_eq .anonymous access ctx), rfl, fun slot hne =>
        Bag.get?_insert_of_ne _ _ hne⟩

theorem createContext_eq {tool : Tool X (World L)} {params : CallParams}
    (htool : ctx.state.get? .tool = some tool) (hparams : ctx.state.get? .params = some params)
    (hplain : tool.hooks = []) :
    flow.step .createContext ctx =
      .done (.ok (), {
        state := some (ctx.state.insert .call
          ⟨ctx.callId, tool.name, tool.owner, params.metadata⟩)
        checkpoints := ["createToolCallContext"] }) := by
  have hattach : (attachAll tool.hooks : ToolM X L Unit) ctx = .done (.ok (), .none) := by
    rw [hplain]
    rfl
  refine (ToolM.bind_require htool _).trans ?_
  refine (ToolM.bind_require hparams _).trans ?_
  refine (HookM.bind_context _ ctx).trans ?_
  exact HookM.bind_of_read hattach

theorem checkpoint_eq {stage : Stage} (hstage : ctx.stage = some stage) :
    flow.step .checkpoint ctx = .done (.ok (), { checkpoints := [stage] }) := by
  refine (HookM.bind_context _ ctx).trans ?_
  rw [hstage]
  rfl

theorem validateInput_eq {tool : Tool X (World L)} {params : CallParams}
    (htool : ctx.state.get? .tool = some tool) (hparams : ctx.state.get? .params = some params) :
    flow.step .validateInput ctx =
      if tool.inputViolations params.argumentsOrNone ≠ [] then
        .done (.error (.fault (.invalidInput ("invalid arguments for '" ++ tool.name ++ "': " ++
          Violation.join (tool.inputViolations params.argumentsOrNone)))), .none)
      else
        .done (.ok (), { state := some (ctx.state.insert .validated params.argumentsOrNone) }) := by
  refine (ToolM.bind_require htool _).trans ?_
  refine (ToolM.bind_require hparams _).trans ?_
  cases tool.inputViolations params.argumentsOrNone with
  | nil => exact ToolM.put_eq .validated params.argumentsOrNone ctx
  | cons violation rest => rfl

theorem execute_eq {tool : Tool X (World L)} {arguments : Json} {call : ToolCall}
    (htool : ctx.state.get? .tool = some tool)
    (harguments : ctx.state.get? .validated = some arguments)
    (hcall : ctx.state.get? .call = some call) :
    flow.step .execute ctx = (tool.execute arguments call).map fun
      | .ok output => (.ok (), { state := some (ctx.state.insert .execution output) })
      | .error fault =>
        (.error (.fault (.operationFailed tool.name fault.message)), .none) := by
  refine (ToolM.bind_require htool _).trans ?_
  refine (ToolM.bind_require harguments _).trans ?_
  refine (ToolM.bind_require hcall _).trans ?_
  refine (HookM.bind_lift (tool.execute arguments call) _ ctx).trans ?_
  rw [← Task.bind_done]
  refine congrArg (tool.execute arguments call).bind (funext fun answer => ?_)
  cases answer with
  | ok output => exact ToolM.put_eq .execution output ctx
  | error fault => rfl

theorem validateOutput_eq {output : Json} (houtput : ctx.state.get? .execution = some output) :
    flow.step .validateOutput ctx =
      .done (.ok (), { state := some ((ctx.state.erase .execution).insert .raw output) }) := by
  refine (HookM.bind_state _ ctx).trans ?_
  rw [houtput]
  rfl

theorem finalize_eq {tool : Tool X (World L)} {output : Json}
    (htool : ctx.state.get? .tool = some tool) (houtput : ctx.state.get? .raw = some output) :
    flow.step .finalize ctx =
      if tool.outputViolations output ≠ [] then
        .done (.error (.fault (.invalidOutput tool.name)), .none)
      else (flow.rendered tool output ctx.state).map fun result =>
        (.ok (), { output := some (some result.toJson) }) := by
  refine (ToolM.bind_require htool _).trans ?_
  refine (ToolM.bind_require houtput _).trans ?_
  cases tool.outputViolations output with
  | nil =>
    refine (HookM.bind_state _ ctx).trans ?_
    refine (HookM.bind_lift (flow.rendered tool output ctx.state) _ ctx).trans ?_
    exact Task.bind_done _ _
  | cons violation rest => rfl

/-- The last stage renders what was served, if the state still has the arguments and the session. -/
theorem rendered_eq_result (flow : CallFlow X L) (served : Served X L) {state deps : CallState X L}
    (hvalidated : state.get? .validated = some served.arguments)
    (hsession : sessionOf state = sessionOf deps) :
    flow.rendered served.tool served.output state = served.result flow.renderer deps := by
  have hrequest : ∀ config, renderRequest served.tool config served.output state =
      served.request config deps := by
    intro config
    rw [renderRequest, hvalidated, hsession]
    rfl
  unfold rendered Served.result
  cases served.tool.definition.render with
  | none => rfl
  | some config =>
    cases flow.renderer with
    | none => rfl
    | some renderer => exact congrArg (Task.map _) (congrArg renderer.render (hrequest config))

end CallFlow

end StagedFlow
