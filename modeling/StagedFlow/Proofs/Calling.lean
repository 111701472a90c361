import StagedFlow.Proofs.DirectCall
import StagedFlow.Proofs.Listing
import StagedFlow.Proofs.Plans
import StagedFlow.Proofs.Stagewise
import StagedFlow.Tool.Flows
import StagedFlow.Tool.Platform

/-!
# Tool calls as a whole

The walk of a tool call is followed from its last stage back to its first one, for all renderers at
once: up to the last stage they do not matter. Without hooks of others and without hooks of tools, a
call is served between events that only observers hear, and then presented; without a renderer this
is the direct function.
-/

namespace StagedFlow

variable {X L : Type}

/-- A flow whose handlers are made and whose hooks fit into a map can be called. -/
theorem Definition.exists_instantiate_eq {K : Type} {V : K → Type} {W H : Type}
    {definition : Definition K V W H} {providers : Bag K V} {registry : HookRegistry W H}
    {prepared : PreparedFlow W H} {map : HookMap H}
    (hprepare : definition.prepare providers = .ok prepared)
    (hbuild : HookMap.build definition.token prepared.table
      (registry.hooksFor definition.name) = .ok map) :
    ∃ ready, definition.instantiate providers registry =
      .ok ⟨⟨definition, map, registry.observers⟩, ready⟩ :=
  ⟨_, instantiate_eq_ok_iff.mpr ⟨_, _, hprepare, hbuild, rfl⟩⟩

/-! ### The walk through the stages -/

def Instance.calling (flow : CallFlow X L) (observers : List (Observer (World L))) :
    Instance ProviderKey (ProviderKey.Val X L) (World L) (Handler X L) :=
  ⟨callFlow, ⟨callToken, flow.table⟩, observers⟩

/-- What nothing but the caller puts into the state. -/
def Slot.given : List Slot := [.auth, .session, .permit]

/-- What the contexts of a call have in common when nothing but the flow itself works on them. -/
structure Context.Plain (call : String) (deps : CallState X L)
    (ctx : Context (CallState X L) (Handler X L)) : Prop where
  callId : ctx.callId = call
  attached : ctx.attached = []
  given : ∀ slot ∈ Slot.given, ctx.state.get? slot = deps.get? slot

namespace Context.Plain

variable {call : String} {deps : CallState X L} {ctx : Context (CallState X L) (Handler X L)}
  {stage : Stage} {changes : Changes (CallState X L) (Handler X L)}

/-- Changes that attach nothing and do not touch what the caller gave. -/
theorem apply (h : ctx.Plain call deps) (hattached : changes.attached = [])
    (hgiven : ∀ slot ∈ Slot.given,
      (changes.state.getD ctx.state).get? slot = ctx.state.get? slot) :
    ((ctx.enter stage).apply changes).Plain call deps where
  callId := h.callId
  attached := by
    rw [Context.apply, Context.enter, hattached, h.attached]
    rfl
  given slot hslot := (hgiven slot hslot).trans (h.given slot hslot)

theorem sessionOf_eq (h : ctx.Plain call deps) :
    CallFlow.sessionOf ctx.state = CallFlow.sessionOf deps := by
  unfold CallFlow.sessionOf
  rw [h.given .auth (by decide), h.given .session (by decide)]

end Context.Plain

namespace CallFlow

variable {behave : X → ToolM X L Unit} {tools : ToolRegistry X (World L)} {auth : AuthConfig}
  {flow : CallFlow X L} {observers : List (Observer (World L))} {call : String}
  {deps : CallState X L} {n : Nat} {ctx : Context (CallState X L) (Handler X L)} {phase : Phase}
  {stage : Stage} {step : CallStep}

/-- What is left of a call when `n` stages have been entered, with one renderer or another. -/
def restFrom (behave : X → ToolM X L Unit) (tools : ToolRegistry X (World L)) (auth : AuthConfig)
    (observers : List (Observer (World L))) (call : String) (n : Nat)
    (ctx : Context (CallState X L) (Handler X L)) (renderer : Option (Renderer (World L))) :
    Task (World L) (Except FlowFault Outcome) :=
  Instance.rest (toolPlatform behave) (Instance.calling ⟨tools, auth, renderer⟩ observers) call
    (callPlan.steps.drop n) (callPlan.pending (callPlan.stages.take n)) ctx

structure Comes (flow : CallFlow X L) (n : Nat) (phase : Phase) (stage : Stage)
    (step : CallStep) : Prop where
  drop_eq : callPlan.steps.drop n = (phase, stage) :: callPlan.steps.drop (n + 1)
  take_eq : callPlan.stages.take (n + 1) = callPlan.stages.take n ++ [stage]
  table_eq : (flow.table.filter fun hook => hook.stage == stage) = [.own stage (.call flow step)]

theorem wellFormed_callPlan : callPlan.WellFormed :=
  (Plan.validate_eq_ok_iff callPlan).mp (by decide)

theorem Comes.enterBrackets_eq (h : Comes flow n phase stage step) :
    Instance.enterBrackets callPlan stage (callPlan.pending (callPlan.stages.take n)) =
      callPlan.pending (callPlan.stages.take (n + 1)) := by
  rw [h.take_eq]
  refine (wellFormed_callPlan.pending_append ?_).symm
  rw [← h.take_eq]
  exact List.take_prefix (n + 1) callPlan.stages

theorem resolve_calling (hstage : (flow.table.filter fun hook => hook.stage == stage) =
      [.own stage (.call flow step)]) (scope : Option String) :
    (Instance.calling flow observers).hooks.resolve stage scope [] =
      [.own stage (.call flow step)] := by
  have hhooks : (Instance.calling flow observers).hooks.hooksAt stage =
      [.own stage (.call flow step)] := by
    rw [HookMap.hooksAt, Instance.calling, hstage, List.mergeSort_singleton]
  rw [HookMap.resolve, hhooks]
  exact List.mergeSort_singleton _

def onwardFrom (behave : X → ToolM X L Unit) (tools : ToolRegistry X (World L)) (auth : AuthConfig)
    (observers : List (Observer (World L))) (call : String) (n : Nat)
    (answer : Except Interrupt Unit × Context (CallState X L) (Handler X L))
    (renderer : Option (Renderer (World L))) : Task (World L) (Except FlowFault Outcome) :=
  Instance.onward (toolPlatform behave) (Instance.calling ⟨tools, auth, renderer⟩ observers) call
    (callPlan.steps.drop n) (callPlan.pending (callPlan.stages.take n)) answer

/-- A stage runs what the flow does there. -/
theorem leads_calling {α : Type} {t : Option (Renderer (World L)) → Task (World L) α}
    {answer : α → Except Interrupt Unit × Changes (CallState X L) (Handler X L)}
    (h : ∀ renderer, Comes ⟨tools, auth, renderer⟩ n phase stage step)
    (hplain : ctx.Plain call deps)
    (hstep : ∀ renderer,
      (CallFlow.mk tools auth renderer).step step (ctx.enter stage) = (t renderer).map answer) :
    Leads observers (restFrom behave tools auth observers call n ctx) fun renderer =>
      (t renderer).bind fun a => onwardFrom behave tools auth observers call (n + 1)
        ((answer a).1, (ctx.enter stage).apply (answer a).2) renderer := by
  refine ⟨[.entered callToken.name ctx.callId phase stage], fun renderer => ?_⟩
  have hhooks : (Instance.calling ⟨tools, auth, renderer⟩ observers).hooks.resolve stage ctx.scope
      ctx.attached = [.own stage (.call ⟨tools, auth, renderer⟩ step)] := by
    rw [hplain.attached]
    exact resolve_calling (h renderer).table_eq ctx.scope
  have hinvoke : (toolPlatform behave).invoke (.own stage (.call ⟨tools, auth, renderer⟩ step))
      (ctx.enter stage) = (t renderer).map answer := hstep renderer
  unfold restFrom onwardFrom
  rw [(h renderer).drop_eq, ← (h renderer).enterBrackets_eq]
  exact Instance.amid_rest_of_singleton hhooks hinvoke

/-- The closing stages of the flow only record checkpoints. -/
theorem idle_release {b : Bracket} (hb : b ∈ callPlan.brackets) :
    Instance.Idle (toolPlatform behave) (Instance.calling flow observers) b.release := by
  have hstage : (flow.table.filter fun hook => hook.stage == b.release) =
      [.own b.release (.call flow .checkpoint)] := by
    rcases List.mem_cons.mp hb with rfl | hb
    · rfl
    · rw [List.mem_singleton.mp hb]
      rfl
  intro ctx hattached
  refine ⟨[b.release], ?_⟩
  rw [hattached, resolve_calling hstage, Instance.runHooks_singleton]
  have hinvoke : flow.step .checkpoint (ctx.enter b.release) =
      .done (.ok (), { checkpoints := [b.release] }) := checkpoint_eq rfl
  exact congrArg (Task.map _) hinvoke

def left (behave : X → ToolM X L Unit) (observers : List (Observer (World L))) (call : String)
    (deps : CallState X L) (outcome : Except FlowFault Outcome) :
    Task (World L) (Except FlowFault Outcome) :=
  Instance.leave (toolPlatform behave) observers callToken.name call deps outcome

/-- Nothing of what the flow puts into the state counts when the state is given up. -/
theorem left_eq (hplain : ctx.Plain call deps) :
    left behave observers call ctx.state = left behave observers call deps := by
  have hretire : (toolPlatform behave).retire ctx.state = (toolPlatform behave).retire deps := by
    funext w
    change Admission.retire ctx.state w = Admission.retire deps w
    rw [Admission.retire, Admission.retire, Bag.contains_eq_isSome, Bag.contains_eq_isSome,
      hplain.given .permit (by decide)]
  funext outcome
  rw [left, left, Instance.leave, Instance.leave, hretire]

/-- A stage that fails ends the call with its fault. -/
theorem leads_failed (hplain : ctx.Plain call deps) (fault : FlowFault) :
    Leads observers
      (onwardFrom behave tools auth observers call n
        (.error (.fault fault), (ctx.enter stage).apply .none))
      fun _ => left behave observers call deps (.error fault) := by
  have hafter : ((ctx.enter stage).apply .none).Plain call deps := hplain.apply rfl fun _ _ => rfl
  rw [← left_eq hafter]
  refine ⟨Instance.closings (Instance.calling ⟨tools, auth, none⟩ observers) call
    (callPlan.pending (callPlan.stages.take n)), fun renderer others w => ?_⟩
  have hfinish : (Instance.finish (toolPlatform behave)
      (Instance.calling ⟨tools, auth, renderer⟩ observers) call ⟨.error (.fault fault),
        callPlan.pending (callPlan.stages.take n), (ctx.enter stage).apply .none⟩).amid others w =
      _ :=
    Instance.amid_finish (fun b hb => idle_release (Plan.mem_pending.mp hb).1) hafter.attached
      others w
  rw [hafter.callId] at hfinish
  exact hfinish

theorem leads_left_error (h : ∀ renderer, Comes ⟨tools, auth, renderer⟩ n phase stage step)
    (hplain : ctx.Plain call deps) {fault : FlowFault}
    (hstep : ∀ renderer, (CallFlow.mk tools auth renderer).step step (ctx.enter stage) =
      .done (.error (.fault fault), .none)) :
    Leads observers (restFrom behave tools auth observers call n ctx)
      fun _ => left behave observers call deps (.error fault) := by
  have hdone : ∀ renderer, (CallFlow.mk tools auth renderer).step step (ctx.enter stage) =
      (Task.done (Except.error (Interrupt.fault fault), Changes.none)).map id := hstep
  exact (leads_calling h hplain hdone).trans (leads_failed hplain fault)

/-- A stage that passes leads to the next one. -/
theorem exists_passed (observers : List (Observer (World L))) (behave : X → ToolM X L Unit)
    (h : ∀ renderer, Comes ⟨tools, auth, renderer⟩ n phase stage step)
    (hplain : ctx.Plain call deps) {changes : Changes (CallState X L) (Handler X L)}
    (hstep : ∀ renderer, (CallFlow.mk tools auth renderer).step step (ctx.enter stage) =
      .done (.ok (), changes))
    (hattached : changes.attached = [])
    (hgiven : ∀ slot ∈ Slot.given,
      (changes.state.getD ctx.state).get? slot = ctx.state.get? slot) :
    ∃ after : Context (CallState X L) (Handler X L), after.Plain call deps ∧
      after.state = changes.state.getD ctx.state ∧
      Leads observers (restFrom behave tools auth observers call n ctx)
        (restFrom behave tools auth observers call (n + 1) after) := by
  have hdone : ∀ renderer, (CallFlow.mk tools auth renderer).step step (ctx.enter stage) =
      (Task.done (Except.ok (), changes)).map id := hstep
  exact ⟨(ctx.enter stage).apply changes, hplain.apply hattached hgiven, rfl,
    leads_calling h hplain hdone⟩

/-- A stage that puts a value into the state. -/
theorem exists_inserted (observers : List (Observer (World L))) (behave : X → ToolM X L Unit)
    (h : ∀ renderer, Comes ⟨tools, auth, renderer⟩ n phase stage step)
    (hplain : ctx.Plain call deps) {slot : Slot} {v : slot.Val X L} {checkpoints : List Stage}
    (hstep : ∀ renderer, (CallFlow.mk tools auth renderer).step step (ctx.enter stage) =
      .done (.ok (), { state := some (ctx.state.insert slot v), checkpoints }))
    (hslot : slot ∉ Slot.given) :
    ∃ after : Context (CallState X L) (Handler X L), after.Plain call deps ∧
      after.state.get? slot = some v ∧
      (∀ other, other ≠ slot → after.state.get? other = ctx.state.get? other) ∧
      Leads observers (restFrom behave tools auth observers call n ctx)
        (restFrom behave tools auth observers call (n + 1) after) := by
  obtain ⟨after, hafter, hstate, hleads⟩ := exists_passed observers behave h hplain hstep rfl
    fun other hother => Bag.get?_insert_of_ne ctx.state v fun heq => hslot (heq ▸ hother)
  refine ⟨after, hafter, ?_, fun other hne => ?_, hleads⟩
  · rw [hstate]
    exact Bag.get?_insert_self _ _ _
  · rw [hstate]
    exact Bag.get?_insert_of_ne _ _ hne

/-- A stage that only records checkpoints. -/
theorem exists_recorded (observers : List (Observer (World L))) (behave : X → ToolM X L Unit)
    (h : ∀ renderer, Comes ⟨tools, auth, renderer⟩ n phase stage .checkpoint)
    (hplain : ctx.Plain call deps) :
    ∃ after : Context (CallState X L) (Handler X L), after.Plain call deps ∧
      after.state = ctx.state ∧
      Leads observers (restFrom behave tools auth observers call n ctx)
        (restFrom behave tools auth observers call (n + 1) after) :=
  exists_passed observers behave h hplain (fun _ => checkpoint_eq rfl) rfl fun _ _ => rfl

/-! ### The walk as a whole -/

/-- At the end of the plan no bracket is open, and the output that was set completes the call. -/
theorem onwardFrom_completed (hplain : ctx.Plain call deps)
    (renderer : Option (Renderer (World L))) :
    onwardFrom behave tools auth observers call 12 (.ok (), ctx) renderer =
      left behave observers call deps (.ok (.completed ctx.output)) := by
  rw [← left_eq hplain]
  have hpending : callPlan.pending (callPlan.stages.take 12) = [] :=
    wellFormed_callPlan.pending_stages
  rw [onwardFrom, hpending]
  rfl

def presenting (behave : X → ToolM X L Unit) (observers : List (Observer (World L)))
    (call : String) (deps : CallState X L) (renderer : Option (Renderer (World L)))
    (served : Except FlowFault (Served X L)) : Task (World L) (Except FlowFault Outcome) :=
  (present renderer deps served).bind (left behave observers call deps)

/-- The last stage: the output is checked and becomes the result. -/
theorem leads_finalized (hplain : ctx.Plain call deps) {tool : Tool X (World L)}
    {arguments output : Json} (htool : ctx.state.get? .tool = some tool)
    (harguments : ctx.state.get? .validated = some arguments)
    (houtput : ctx.state.get? .raw = some output) :
    Leads observers (restFrom behave tools auth observers call 11 ctx) fun renderer =>
      presenting behave observers call deps renderer (checked tool arguments (.ok output)) := by
  have hcomes : ∀ renderer, Comes ⟨tools, auth, renderer⟩ 11 .finalize "finalize" .finalize :=
    fun _ => ⟨rfl, rfl, rfl⟩
  have hstep : ∀ renderer,
      (CallFlow.mk tools auth renderer).step .finalize (ctx.enter "finalize") = _ :=
    fun _ => finalize_eq htool houtput
  rw [checked]
  by_cases hviolations : tool.outputViolations output ≠ []
  · simp only [if_pos hviolations] at hstep ⊢
    exact leads_left_error hcomes hplain hstep
  · simp only [if_neg hviolations] at hstep ⊢
    refine (leads_calling hcomes hplain hstep).trans (.of_eq fun renderer others w => ?_)
    have hrendered := rendered_eq_result ⟨tools, auth, renderer⟩ ⟨tool, arguments, output⟩
      harguments hplain.sessionOf_eq
    have hafter : ∀ result : CallResult,
        ((ctx.enter "finalize").apply { output := some (some result.toJson) }).Plain call deps :=
      fun _ => hplain.apply rfl fun _ _ => rfl
    rw [show (ctx.enter "finalize").state = ctx.state from rfl, hrendered, presenting, present,
      Task.bind_map]
    simp only [onwardFrom_completed (hafter _)]
    rfl

/-- From the output of the tool on. -/
theorem leads_answered (hplain : ctx.Plain call deps) {tool : Tool X (World L)}
    {arguments output : Json} (htool : ctx.state.get? .tool = some tool)
    (harguments : ctx.state.get? .validated = some arguments)
    (houtput : ctx.state.get? .execution = some output) :
    Leads observers (restFrom behave tools auth observers call 8 ctx) fun renderer =>
      presenting behave observers call deps renderer (checked tool arguments (.ok output)) := by
  have hvalidate : ∀ renderer,
      Comes ⟨tools, auth, renderer⟩ 8 .execute "validateOutput" .validateOutput :=
    fun _ => ⟨rfl, rfl, rfl⟩
  have hsemaphore : ∀ renderer,
      Comes ⟨tools, auth, renderer⟩ 9 .finalize "releaseSemaphore" .checkpoint :=
    fun _ => ⟨rfl, rfl, rfl⟩
  have hquota : ∀ renderer,
      Comes ⟨tools, auth, renderer⟩ 10 .finalize "releaseQuota" .checkpoint :=
    fun _ => ⟨rfl, rfl, rfl⟩
  have hkeep : ∀ slot : Slot, slot ≠ .execution → slot ≠ .raw →
      ((ctx.state.erase .execution).insert .raw output).get? slot = ctx.state.get? slot := by
    intro slot hexecution hraw
    exact (Bag.get?_insert_of_ne _ _ hraw).trans (Bag.get?_erase_of_ne _ hexecution)
  obtain ⟨ctx₁, hplain₁, hstate₁, hleads₁⟩ := exists_passed observers behave hvalidate hplain
    (fun _ => validateOutput_eq houtput) rfl fun slot hslot => hkeep slot
      (fun heq => absurd (heq ▸ hslot) (by decide)) fun heq => absurd (heq ▸ hslot) (by decide)
  obtain ⟨ctx₂, hplain₂, hstate₂, hleads₂⟩ := exists_recorded observers behave hsemaphore hplain₁
  obtain ⟨ctx₃, hplain₃, hstate₃, hleads₃⟩ := exists_recorded observers behave hquota hplain₂
  refine hleads₁.trans (hleads₂.trans (hleads₃.trans ?_))
  have hstate : ctx₃.state = (ctx.state.erase .execution).insert .raw output := by
    rw [hstate₃, hstate₂, hstate₁]
    rfl
  refine leads_finalized hplain₃ ?_ ?_ ?_
  · rw [hstate, hkeep .tool (by decide) (by decide), htool]
  · rw [hstate, hkeep .validated (by decide) (by decide), harguments]
  · rw [hstate]
    exact Bag.get?_insert_self _ _ _

/-- The stage of the tool: it runs, and its answer decides how the call ends. -/
theorem frames_executed (hplain : ctx.Plain call deps) {tool : Tool X (World L)}
    {arguments : Json} {context : ToolCall} (htool : ctx.state.get? .tool = some tool)
    (harguments : ctx.state.get? .validated = some arguments)
    (hcall : ctx.state.get? .call = some context) :
    Frames observers (restFrom behave tools auth observers call 7 ctx)
      ((tool.execute arguments context).map (checked tool arguments))
      (presenting behave observers call deps) := by
  have hcomes : ∀ renderer, Comes ⟨tools, auth, renderer⟩ 7 .execute "execute" .execute :=
    fun _ => ⟨rfl, rfl, rfl⟩
  have hstep : ∀ renderer,
      (CallFlow.mk tools auth renderer).step .execute (ctx.enter "execute") = _ :=
    fun _ => execute_eq htool harguments hcall
  refine Frames.map (leads_calling hcomes hplain hstep) fun answer => ?_
  cases answer with
  | error fault => exact leads_failed hplain (.operationFailed tool.name fault.message)
  | ok output =>
    have hkeep : ∀ slot : Slot, slot ≠ .execution →
        (ctx.state.insert .execution output).get? slot = ctx.state.get? slot := fun slot hne =>
      Bag.get?_insert_of_ne _ _ hne
    have hafter : ((ctx.enter "execute").apply
        { state := some (ctx.state.insert .execution output) }).Plain call deps :=
      hplain.apply rfl fun slot hslot => hkeep slot fun heq => absurd (heq ▸ hslot) (by decide)
    exact leads_answered hafter ((hkeep .tool (by decide)).trans htool)
      ((hkeep .validated (by decide)).trans harguments)
      (Bag.get?_insert_self ctx.state .execution output)

/-- From the check of the arguments on. -/
theorem frames_validated (hplain : ctx.Plain call deps) {tool : Tool X (World L)}
    {params : CallParams} {context : ToolCall} (htool : ctx.state.get? .tool = some tool)
    (hparams : ctx.state.get? .params = some params)
    (hcall : ctx.state.get? .call = some context) :
    Frames observers (restFrom behave tools auth observers call 6 ctx)
      (if tool.inputViolations params.argumentsOrNone ≠ [] then
        .done (.error (.invalidInput ("invalid arguments for '" ++ tool.name ++ "': " ++
          Violation.join (tool.inputViolations params.argumentsOrNone))))
      else (tool.execute params.argumentsOrNone context).map
        (checked tool params.argumentsOrNone))
      (presenting behave observers call deps) := by
  have hcomes : ∀ renderer,
      Comes ⟨tools, auth, renderer⟩ 6 .execute "validateInput" .validateInput :=
    fun _ => ⟨rfl, rfl, rfl⟩
  have hstep : ∀ renderer,
      (CallFlow.mk tools auth renderer).step .validateInput (ctx.enter "validateInput") = _ :=
    fun _ => validateInput_eq htool hparams
  by_cases hviolations : tool.inputViolations params.argumentsOrNone ≠ []
  · simp only [if_pos hviolations] at hstep ⊢
    exact Frames.done (leads_left_error hcomes hplain hstep)
  · simp only [if_neg hviolations] at hstep ⊢
    obtain ⟨ctx₁, hplain₁, harguments, hkeep, hleads₁⟩ := exists_inserted observers behave hcomes
      hplain hstep (by decide)
    refine Frames.of_leads hleads₁ (frames_executed hplain₁ ?_ harguments ?_)
    · rw [hkeep .tool (by decide), htool]
    · rw [hkeep .call (by decide), hcall]

/-- From the context of the tool on. -/
theorem frames_admitted (hplain : ctx.Plain call deps) {tool : Tool X (World L)}
    {params : CallParams} (htool : ctx.state.get? .tool = some tool)
    (hparams : ctx.state.get? .params = some params) (hhooks : tool.hooks = []) :
    Frames observers (restFrom behave tools auth observers call 3 ctx)
      (if tool.inputViolations params.argumentsOrNone ≠ [] then
        .done (.error (.invalidInput ("invalid arguments for '" ++ tool.name ++ "': " ++
          Violation.join (tool.inputViolations params.argumentsOrNone))))
      else (tool.execute params.argumentsOrNone
        ⟨call, tool.name, tool.owner, params.metadata⟩).map
          (checked tool params.argumentsOrNone))
      (presenting behave observers call deps) := by
  have hcreate : ∀ renderer,
      Comes ⟨tools, auth, renderer⟩ 3 .pre "createToolCallContext" .createContext :=
    fun _ => ⟨rfl, rfl, rfl⟩
  have hquota : ∀ renderer, Comes ⟨tools, auth, renderer⟩ 4 .pre "acquireQuota" .checkpoint :=
    fun _ => ⟨rfl, rfl, rfl⟩
  have hsemaphore : ∀ renderer,
      Comes ⟨tools, auth, renderer⟩ 5 .pre "acquireSemaphore" .checkpoint :=
    fun _ => ⟨rfl, rfl, rfl⟩
  obtain ⟨ctx₁, hplain₁, hcall, hkeep, hleads₁⟩ := exists_inserted observers behave hcreate hplain
    (fun _ => createContext_eq htool hparams hhooks) (by decide)
  obtain ⟨ctx₂, hplain₂, hstate₂, hleads₂⟩ := exists_recorded observers behave hquota hplain₁
  obtain ⟨ctx₃, hplain₃, hstate₃, hleads₃⟩ := exists_recorded observers behave hsemaphore hplain₂
  have hstate : ctx₃.state = ctx₁.state := hstate₃.trans hstate₂
  have hcallId : (ctx.enter "createToolCallContext").callId = call := hplain.callId
  rw [hcallId] at hcall
  refine Frames.of_leads (hleads₁.trans (hleads₂.trans hleads₃)) ?_
  refine frames_validated hplain₃ ?_ ?_ ?_
  · rw [hstate, hkeep .tool (by decide), htool]
  · rw [hstate, hkeep .params (by decide), hparams]
  · rw [hstate]
    exact hcall

/-- From the caller's leave on. -/
theorem frames_performed (hplain : ctx.Plain call deps) {tool : Tool X (World L)}
    {params : CallParams} (htool : ctx.state.get? .tool = some tool)
    (hparams : ctx.state.get? .params = some params) (hhooks : tool.hooks = [])
    (hnull : params.arguments ≠ some .null) :
    Frames observers (restFrom behave tools auth observers call 2 ctx)
      (serveFound auth call (deps.get? .auth) tool params)
      (presenting behave observers call deps) := by
  have hcomes : ∀ renderer,
      Comes ⟨tools, auth, renderer⟩ 2 .pre "checkToolAuthorization" .checkAuthorization :=
    fun _ => ⟨rfl, rfl, rfl⟩
  have hcaller : (ctx.enter "checkToolAuthorization").state.get? .auth = deps.get? .auth :=
    hplain.given .auth (by decide)
  have hcheck := checkAuthorization_eq ⟨tools, auth, none⟩ (ctx.enter "checkToolAuthorization")
    htool
  unfold serveFound
  rw [hcaller] at hcheck
  revert hcheck
  cases refusal? auth (deps.get? .auth) tool with
  | some fault =>
    intro hstep
    exact Frames.done (leads_left_error hcomes hplain fun _ => hstep)
  | none =>
    rintro ⟨changes, hstep, hattached, hkeep⟩
    obtain ⟨ctx₁, hplain₁, hstate₁, hleads₁⟩ := exists_passed observers behave hcomes hplain
      (fun _ => hstep) hattached fun slot hslot => hkeep slot fun heq =>
        absurd (heq ▸ hslot) (by decide)
    simp only [argumentsOf_eq hnull]
    refine Frames.of_leads hleads₁ (frames_admitted hplain₁ ?_ ?_ hhooks)
    · rw [hstate₁]
      exact (hkeep .tool (by decide)).trans htool
    · rw [hstate₁]
      exact (hkeep .params (by decide)).trans hparams

/-- From the lookup of the tool on. -/
theorem frames_found (hplain : ctx.Plain call deps) {params : CallParams}
    (hparams : ctx.state.get? .params = some params)
    (hhooks : ∀ tool ∈ tools.tools, tool.hooks = []) (hnull : params.arguments ≠ some .null) :
    Frames observers (restFrom behave tools auth observers call 1 ctx)
      (match tools.find? params.name with
        | none => .done (.error (.notFound "tool" params.name))
        | some tool => serveFound auth call (deps.get? .auth) tool params)
      (presenting behave observers call deps) := by
  have hcomes : ∀ renderer, Comes ⟨tools, auth, renderer⟩ 1 .pre "findTool" .findTool :=
    fun _ => ⟨rfl, rfl, rfl⟩
  have hstep : (CallFlow.mk tools auth none).step .findTool (ctx.enter "findTool") = _ :=
    findTool_eq hparams
  dsimp only at hstep
  cases hfound : tools.find? params.name with
  | none =>
    rw [hfound] at hstep
    exact Frames.done (leads_left_error hcomes hplain fun _ => hstep)
  | some tool =>
    rw [hfound] at hstep
    obtain ⟨ctx₁, hplain₁, htool, hkeep, hleads₁⟩ := exists_inserted observers behave hcomes hplain
      (fun _ => hstep) (by decide)
    have hregistered : tool ∈ tools.tools := List.mem_of_find?_eq_some hfound
    refine Frames.of_leads hleads₁ ?_
    refine frames_performed hplain₁ htool ?_ (hhooks tool hregistered) hnull
    rw [hkeep .params (by decide), hparams]

/-- A call as a whole. -/
theorem frames_served (hplain : ctx.Plain call deps)
    (hhooks : ∀ tool ∈ tools.tools, tool.hooks = []) :
    Frames observers (restFrom behave tools auth observers call 0 ctx)
      (serve tools auth call deps ctx.input) (presenting behave observers call deps) := by
  have hcomes : ∀ renderer, Comes ⟨tools, auth, renderer⟩ 0 .pre "parseInput" .parseInput :=
    fun _ => ⟨rfl, rfl, rfl⟩
  have hstep := parseInput_eq ⟨tools, auth, none⟩ (ctx.enter "parseInput")
  have hinput : (ctx.enter "parseInput").input = ctx.input := rfl
  rw [hinput, ofEnvelope_eq] at hstep
  unfold serve
  cases hread : CallRequest.read ctx.input with
  | error fault =>
    rw [hread] at hstep
    exact Frames.done (leads_left_error hcomes hplain fun _ => hstep)
  | ok request =>
    simp only [hread] at hstep
    by_cases hmethod : request.method ≠ "tools/call"
    · rw [if_pos hmethod] at hstep
      simp only [if_pos hmethod]
      exact Frames.done (leads_left_error hcomes hplain fun _ => hstep)
    · rw [if_neg hmethod] at hstep
      simp only [if_neg hmethod]
      obtain ⟨ctx₁, hplain₁, hparams, -, hleads₁⟩ := exists_inserted observers behave hcomes hplain
        (fun _ => hstep) (by decide)
      have hnull := request_arguments_ne_null hread
      exact Frames.of_leads hleads₁ (frames_found hplain₁ hparams hhooks hnull)

def serving (tools : ToolRegistry X (World L)) (auth : AuthConfig)
    (observers : List (Observer (World L))) (early late : List FlowEvent) (call : String)
    (deps : CallState X L) (input : Json) : Task (World L) (Except FlowFault (Served X L)) := do
  Task.change World.countCall
  Task.change (Observer.tell observers early)
  let served ← serve tools auth call deps input
  Task.change (Observer.tell observers late)
  pure served

/-- A call is served, and what was served is presented. Only this second part has to do with the
renderer, not even the events before it. -/
theorem exists_amid_run_eq (behave : X → ToolM X L Unit) (auth : AuthConfig)
    (observers : List (Observer (World L))) (hhooks : ∀ tool ∈ tools.tools, tool.hooks = [])
    (setting : Setting (CallState X L) (World L)) :
    ∃ early late, ∀ renderer,
      ((Instance.calling ⟨tools, auth, renderer⟩ observers).run (toolPlatform behave)
        setting.input setting.deps).amid setting.others setting.world =
      ((serving tools auth observers early late setting.world.nextId setting.deps
        setting.input).bind (presenting behave observers setting.world.nextId setting.deps
          renderer)).amid setting.others setting.world := by
  have hstart : (Context.start setting.world.nextId callToken setting.input
      (setting.deps.get? .scope) setting.deps).Plain setting.world.nextId setting.deps :=
    ⟨rfl, rfl, fun _ _ => rfl⟩
  have hframes : Frames observers (restFrom behave tools auth observers setting.world.nextId 0 _) _
      (presenting behave observers setting.world.nextId setting.deps) :=
    frames_served hstart hhooks
  obtain ⟨early, late, hcall⟩ := hframes setting.others (Observer.emit observers
    (.started callToken.name setting.world.nextId) setting.world.countCall)
  refine ⟨.started callToken.name setting.world.nextId :: early, late, fun renderer => ?_⟩
  rw [Instance.amid_run_rest]
  refine (hcall renderer).trans ?_
  simp only [serving, Task.bind_eq, Task.amid_bind, Task.amid_change]
  rfl

theorem refines_direct (hhooks : ∀ tool ∈ flow.tools.tools, tool.hooks = [])
    (hrenderer : flow.renderer = none) :
    (Instance.calling flow observers).Refines (toolPlatform behave)
      (direct flow.tools flow.auth) := by
  obtain ⟨tools, auth, renderer⟩ := flow
  cases hrenderer
  intro setting
  obtain ⟨early, late, hrun⟩ := exists_amid_run_eq behave auth observers hhooks setting
  -- The last event is one of those after the tool, since nothing is rendered before it.
  refine ⟨early, late ++ [Instance.finalEvent callToken.name setting.world.nextId
    (plainly ((serve tools auth setting.world.nextId setting.deps setting.input).amid
      setting.others
      (Observer.tell observers early setting.world.countCall)).value)], ?_⟩
  rw [hrun none]
  simp only [serving, presenting, present_none, direct_eq, Task.bind_eq, Task.amid_bind,
    Task.amid_change, Task.pure_eq, Task.amid_done, Task.amid_map, left, Instance.leave,
    Observer.tell_append]
  rfl

/-- The flow's own steps are at the stages of its plan. -/
theorem stage_mem_of_mem_table {hook : HookBinding (Handler X L)} (h : hook ∈ flow.table) :
    hook.stage ∈ callPlan.stages := by
  have hstages : flow.table.map HookBinding.stage ⊆ callPlan.stages := by
    change ["parseInput", "findTool", "checkToolAuthorization", "createToolCallContext",
      "validateInput", "execute", "validateOutput", "finalize", "acquireQuota", "acquireSemaphore",
      "releaseSemaphore", "releaseQuota"] ⊆ _
    decide
  exact hstages (List.mem_map_of_mem h)

theorem prepare_callFlow {providers : Providers X L} {tools : ToolRegistry X (World L)}
    (htools : providers.get? .tools = some tools) : callFlow.prepare providers =
      .ok (.ofTable
        (CallFlow.mk tools (Providers.auth providers) (providers.get? .renderer)).table) := by
  have hprovided : Providers.tools providers = .ok tools := by
    rw [Providers.tools, htools]
  change (Providers.tools providers >>= fun found =>
    pure (PreparedFlow.ofTable (CallFlow.mk found _ _).table)) = _
  rw [hprovided]
  rfl

/-- The flow of a server is made from its providers, with the hooks of others behind its own. -/
theorem exists_instantiate (providers : Providers X L)
    (registry : HookRegistry (World L) (Handler X L)) {tools : ToolRegistry X (World L)}
    (htools : providers.get? .tools = some tools)
    (hallowed : ∀ hook ∈ registry.hooksFor callToken.name,
      callToken.kind.allows hook.stage = true) :
    let flow : CallFlow X L := ⟨tools, Providers.auth providers, providers.get? .renderer⟩
    ∃ ready, callFlow.instantiate providers registry =
      .ok ⟨⟨callFlow, ⟨callToken, flow.table ++ registry.hooksFor callToken.name⟩,
        registry.observers⟩, ready⟩ := by
  intro flow
  have hstages : ∀ stage ∈ callPlan.stages, callToken.kind.allows stage = true := by decide
  have hbuild : HookMap.build callToken flow.table (registry.hooksFor callToken.name) =
      .ok ⟨callToken, flow.table ++ registry.hooksFor callToken.name⟩ :=
    HookMap.build_eq_ok (fun hook hown => hstages hook.stage (stage_mem_of_mem_table hown)) hallowed
  exact Definition.exists_instantiate_eq (prepare_callFlow htools) hbuild

/-- Without hooks of others, the flow of a server has its own ones alone. -/
theorem instantiate_callFlow (providers : Providers X L)
    (registry : HookRegistry (World L) (Handler X L)) {tools : ToolRegistry X (World L)}
    (htools : providers.get? .tools = some tools)
    (hregistry : registry.hooksFor callToken.name = []) :
    ∃ ready, callFlow.instantiate providers registry =
      .ok ⟨Instance.calling ⟨tools, Providers.auth providers, providers.get? .renderer⟩
        registry.observers, ready⟩ := by
  have hmade := exists_instantiate providers registry htools
  rw [hregistry] at hmade
  simp only [List.append_nil] at hmade
  exact hmade (List.forall_mem_nil _)

end CallFlow

/-- **Tool calls refine the direct function.** Without hooks of others, hooks of tools and a
renderer, every call of the tool flow that a server makes from its providers is the direct
function: the tool runs once or not at all, and the call ends as the function says. -/
theorem exists_refining_candidate (behave : X → ToolM X L Unit) (providers : Providers X L)
    (registry : HookRegistry (World L) (Handler X L)) (tools : ToolRegistry X (World L))
    (htools : providers.get? .tools = some tools) (hrenderer : providers.get? .renderer = none)
    (hregistry : registry.hooksFor callToken.name = [])
    (hhooks : ∀ tool ∈ tools.tools, tool.hooks = []) :
    ∃ candidate, callFlow.instantiate providers registry = .ok candidate ∧
      candidate.inst.Refines (toolPlatform behave)
        (CallFlow.direct tools (Providers.auth providers)) := by
  obtain ⟨ready, hmade⟩ := CallFlow.instantiate_callFlow providers registry htools hregistry
  exact ⟨_, hmade, CallFlow.refines_direct hhooks hrenderer⟩

def Tool.echo : Tool Unit (World Unit) where
  definition := .start "echo" "Answers with its arguments."
  execute arguments _ := .done (.ok arguments)
  hooks := []

def Providers.echo : Providers Unit Unit := Bag.empty.insert .tools ⟨[Tool.echo]⟩

theorem exists_refining_candidate_echo :
    Providers.echo.get? .tools = some (⟨[.echo]⟩ : ToolRegistry Unit (World Unit)) ∧
      Providers.echo.get? .renderer = none ∧
      (HookRegistry.empty : HookRegistry (World Unit) (Handler Unit Unit)).hooksFor
        callToken.name = [] ∧
      (∀ tool ∈ [Tool.echo], tool.hooks = []) ∧
      ∃ candidate, callFlow.instantiate Providers.echo .empty = .ok candidate ∧
        candidate.inst.Refines (toolPlatform fun _ => pure ())
          (CallFlow.direct ⟨[.echo]⟩ (Providers.auth .echo)) := by
  have hhooks : ∀ tool ∈ [Tool.echo], tool.hooks = [] := by
    intro tool htool
    rw [List.mem_singleton.mp htool]
    rfl
  exact ⟨rfl, rfl, rfl, hhooks, exists_refining_candidate _ _ _ _ rfl rfl rfl hhooks⟩

end StagedFlow
