import StagedFlow.Proofs.Calling
import StagedFlow.Proofs.Permits

/-!
# Calls that are admitted

On a server where the only hooks of others are the two that admit calls, a call takes the stages of
the flow in their order. What its caller and its tool decide comes first; then it takes a permit, or
fails because none is free; from there on it is served as without those hooks. Followed here is the
value that a call ends with. Up to the permit the world matters, since it has the free ones, and
nothing pauses there; behind it the world may be any.
-/

namespace StagedFlow

/-- A task can end with a value, if it starts in a world of a kind. -/
def Task.CanEnd {W α : Type} (P : W → Prop) (t : Task W α) (a : α) : Prop :=
  ∃ others w, P w ∧ (t.amid others w).value = a

def Task.Anywhere {W : Type} (_ : W) : Prop := True

namespace Task.CanEnd

variable {W α β : Type} {P : W → Prop} {t : Task W α} {a a' : α}

theorem eq_of_done (h : (Task.done a' : Task W α).CanEnd P a) : a = a' := by
  obtain ⟨others, w, -, rfl⟩ := h
  rfl

theorem done (h : t.CanEnd P a) : (Task.done a : Task W α).CanEnd Anywhere a := by
  obtain ⟨others, w, -, -⟩ := h
  exact ⟨others, w, trivial, rfl⟩

theorem anywhere (h : t.CanEnd P a) : t.CanEnd Anywhere a := by
  obtain ⟨others, w, -, hvalue⟩ := h
  exact ⟨others, w, trivial, hvalue⟩

theorem bind {k : α → Task W β} {b : β} (h : (t.bind k).CanEnd P b) :
    ∃ a, t.CanEnd P a ∧ (k a).CanEnd Anywhere b := by
  obtain ⟨others, w, hw, hvalue⟩ := h
  rw [amid_bind] at hvalue
  exact ⟨_, ⟨others, w, hw, rfl⟩, _, _, trivial, hvalue⟩

theorem map (f : α → β) (h : t.CanEnd P a) : (t.map f).CanEnd P (f a) := by
  obtain ⟨others, w, hw, rfl⟩ := h
  exact ⟨others, w, hw, by rw [amid_map]⟩

theorem of_map {f : α → β} {b : β} (h : (t.map f).CanEnd P b) :
    ∃ a, t.CanEnd P a ∧ b = f a := by
  obtain ⟨others, w, hw, rfl⟩ := h
  exact ⟨_, ⟨others, w, hw, rfl⟩, by rw [amid_map]⟩

end Task.CanEnd

namespace Instance

section Stages

variable {K : Type} {V : K → Type} {S W H : Type} {p : Platform S W H} {inst : Instance K V W H}
  {call : String} {phase : Phase} {stage : Stage} {steps : List (Phase × Stage)}
  {opened : List Bracket} {ctx : Context S H} {P : W → Prop} {v : Except FlowFault Outcome}

/-- A stage whose hooks amount to a task leads to what comes past that task. -/
theorem canEnd_of_rest {α : Type} {t : Task W α}
    {answer : α → Except Interrupt Unit × Context S H}
    (hrun : runHooks p (inst.hooks.resolve stage ctx.scope ctx.attached) (ctx.enter stage) =
      t.map answer)
    (hemit : ∀ event w, P w → P (Observer.emit inst.observers event w))
    (h : (rest p inst call ((phase, stage) :: steps) opened ctx).CanEnd P v) :
    (t.bind fun a =>
      onward p inst call steps (enterBrackets inst.plan stage opened) (answer a)).CanEnd P v := by
  obtain ⟨others, w, hw, hvalue⟩ := h
  rw [amid_rest_of_runHooks hrun] at hvalue
  exact ⟨others, _, hemit _ w hw, hvalue⟩

/-- A call that was interrupted ends with what interrupted it, whatever its closing stages do. -/
theorem eq_of_interrupted {interrupt : Interrupt}
    (h : (finish p inst call ⟨.error interrupt, opened, ctx⟩).CanEnd P v) :
    v = conclude (.error interrupt) none := by
  obtain ⟨others, w, -, rfl⟩ := h
  simp only [finish, emit, Task.bind_eq, Task.amid_bind, Task.pure_eq, Task.amid_done]
  cases interrupt <;> rfl

theorem eq_of_completed (h : (onward p inst call [] [] (.ok (), ctx)).CanEnd P v) :
    v = .ok (.completed ctx.output) := by
  obtain ⟨others, w, -, rfl⟩ := h
  rfl

theorem runHooks_cons_of_done {hook : HookBinding H} {hooks : List (HookBinding H)}
    {changes : Changes S H} (h : p.invoke hook ctx = .done (.ok (), changes)) :
    runHooks p (hook :: hooks) ctx = runHooks p hooks (ctx.apply changes) := by
  rw [runHooks, h]
  rfl

end Stages

variable {X L : Type}

def admitting (flow : CallFlow X L) (observers : List (Observer (World L))) :
    Instance ProviderKey (ProviderKey.Val X L) (World L) (Handler X L) :=
  ⟨callFlow, ⟨callToken, flow.table ++ Admission.hooks⟩, observers⟩

end Instance

/-- Hooks without owners and priorities fire in the order in which they stand. -/
theorem HookMap.resolve_of_plain {H : Type} {map : HookMap H}
    (hplain : ∀ hook ∈ map.bindings, hook.priority = 0 ∧ hook.owner = none) (stage : Stage)
    (scope : Option String) :
    map.resolve stage scope [] = map.bindings.filter fun hook => hook.stage == stage := by
  have hascending : map.bindings.Pairwise fun a b => a.priority ≤ b.priority := by
    refine List.pairwise_of_forall_mem_list fun a ha b hb => ?_
    exact Int.le_of_eq ((hplain a ha).1.trans (hplain b hb).1.symm)
  rw [resolve_of_ascending hascending, eligible]
  refine List.filter_congr fun hook hhook => ?_
  rw [Bool.eq_iff_iff, decide_eq_true_eq, beq_iff_eq]
  exact and_iff_left (.inl (hplain hook hhook).2)

namespace CallFlow

variable {X L : Type} {behave : X → ToolM X L Unit} {flow : CallFlow X L}
  {observers : List (Observer (World L))} {call : String} {deps : CallState X L} {n : Nat}
  {ctx : Context (CallState X L) (Handler X L)} {phase : Phase} {stage : Stage} {step : CallStep}
  {P : World L → Prop} {v : Except FlowFault Outcome}

/-- What is left of a call when `n` stages have been entered. -/
def remaining (behave : X → ToolM X L Unit) (flow : CallFlow X L)
    (observers : List (Observer (World L))) (call : String) (n : Nat)
    (ctx : Context (CallState X L) (Handler X L)) : Task (World L) (Except FlowFault Outcome) :=
  Instance.rest (toolPlatform behave) (Instance.admitting flow observers) call
    (callPlan.steps.drop n) (callPlan.pending (callPlan.stages.take n)) ctx

def past (behave : X → ToolM X L Unit) (flow : CallFlow X L)
    (observers : List (Observer (World L))) (call : String) (n : Nat)
    (answer : Except Interrupt Unit × Context (CallState X L) (Handler X L)) :
    Task (World L) (Except FlowFault Outcome) :=
  Instance.onward (toolPlatform behave) (Instance.admitting flow observers) call
    (callPlan.steps.drop n) (callPlan.pending (callPlan.stages.take n)) answer

def gates (X L : Type) (stage : Stage) : List (HookBinding (Handler X L)) :=
  Admission.hooks.filter fun hook => hook.stage == stage

theorem resolve_admitting (hcomes : Comes flow n phase stage step) (scope : Option String) :
    (Instance.admitting flow observers).hooks.resolve stage scope [] =
      .own stage (.call flow step) :: gates X L stage := by
  have hplain : ∀ hook ∈ (Instance.admitting flow observers).hooks.bindings,
      hook.priority = 0 ∧ hook.owner = none := by
    intro hook hhook
    rcases List.mem_append.mp hhook with htable | hadmits
    · obtain ⟨_, -, rfl⟩ := List.mem_map.mp htable
      exact ⟨rfl, rfl⟩
    · rcases List.mem_pair.mp hadmits with rfl | rfl <;> exact ⟨rfl, rfl⟩
  rw [HookMap.resolve_of_plain hplain, Instance.admitting, List.filter_append, hcomes.table_eq]
  rfl

def Kept (observers : List (Observer (World L))) (P : World L → Prop) : Prop :=
  ∀ event w, P w → P (Observer.emit observers event w)

theorem kept_anywhere : Kept observers Task.Anywhere := fun _ _ _ => trivial

/-- A stage without a gate leads past what the flow does there. -/
theorem canEnd_past {α : Type} {t : Task (World L) α}
    {answer : α → Except Interrupt Unit × Changes (CallState X L) (Handler X L)}
    (hcomes : Comes flow n phase stage step) (hgates : gates X L stage = [])
    (hattached : ctx.attached = []) (hstep : flow.step step (ctx.enter stage) = t.map answer)
    (hkept : Kept observers P) (h : (remaining behave flow observers call n ctx).CanEnd P v) :
    (t.bind fun a => past behave flow observers call (n + 1)
      ((answer a).1, (ctx.enter stage).apply (answer a).2)).CanEnd P v := by
  have hinvoke : (toolPlatform behave).invoke (.own stage (.call flow step)) (ctx.enter stage) =
      t.map answer := hstep
  have hrun : Instance.runHooks (toolPlatform behave)
      ((Instance.admitting flow observers).hooks.resolve stage ctx.scope ctx.attached)
      (ctx.enter stage) = t.map fun a => ((answer a).1, (ctx.enter stage).apply (answer a).2) := by
    rw [hattached, resolve_admitting hcomes, hgates, Instance.runHooks_singleton, hinvoke,
      Task.map_map]
  rw [remaining, hcomes.drop_eq] at h
  simp only [past, ← hcomes.enterBrackets_eq]
  exact Instance.canEnd_of_rest hrun hkept h

/-- A stage where the flow fails ends the call with this fault. -/
theorem eq_of_failed (hcomes : Comes flow n phase stage step) (hgates : gates X L stage = [])
    (hplain : ctx.Plain call deps) {fault : FlowFault}
    (hstep : flow.step step (ctx.enter stage) = .done (.error (.fault fault), .none))
    (hkept : Kept observers P) (h : (remaining behave flow observers call n ctx).CanEnd P v) :
    v = .error fault := by
  have hdone : flow.step step (ctx.enter stage) =
      (Task.done (Except.error (Interrupt.fault fault), Changes.none)).map id := hstep
  exact Instance.eq_of_interrupted (canEnd_past hcomes hgates hplain.attached hdone hkept h)

/-- A stage where the flow does what it has to leads to the next one. -/
theorem exists_remaining (hcomes : Comes flow n phase stage step) (hgates : gates X L stage = [])
    (hplain : ctx.Plain call deps) {changes : Changes (CallState X L) (Handler X L)}
    (hstep : flow.step step (ctx.enter stage) = .done (.ok (), changes))
    (hattached : changes.attached = [])
    (hgiven : ∀ slot ∈ Slot.given,
      (changes.state.getD ctx.state).get? slot = ctx.state.get? slot)
    (hkept : Kept observers P) (h : (remaining behave flow observers call n ctx).CanEnd P v) :
    ∃ after : Context (CallState X L) (Handler X L), after.Plain call deps ∧
      after.state = changes.state.getD ctx.state ∧
      (remaining behave flow observers call (n + 1) after).CanEnd P v := by
  have hdone : flow.step step (ctx.enter stage) =
      (Task.done (Except.ok (), changes)).map id := hstep
  exact ⟨(ctx.enter stage).apply changes, hplain.apply hattached hgiven, rfl,
    canEnd_past hcomes hgates hplain.attached hdone hkept h⟩

theorem exists_remaining_insert (hcomes : Comes flow n phase stage step)
    (hgates : gates X L stage = []) (hplain : ctx.Plain call deps) {slot : Slot}
    {a : slot.Val X L} {checkpoints : List Stage}
    (hstep : flow.step step (ctx.enter stage) =
      .done (.ok (), { state := some (ctx.state.insert slot a), checkpoints }))
    (hslot : slot ∉ Slot.given) (hkept : Kept observers P)
    (h : (remaining behave flow observers call n ctx).CanEnd P v) :
    ∃ after : Context (CallState X L) (Handler X L), after.Plain call deps ∧
      after.state.get? slot = some a ∧
      (∀ other, other ≠ slot → after.state.get? other = ctx.state.get? other) ∧
      (remaining behave flow observers call (n + 1) after).CanEnd P v := by
  obtain ⟨after, hafter, hstate, hrest⟩ := exists_remaining hcomes hgates hplain hstep rfl
    (fun other hother => Bag.get?_insert_of_ne ctx.state a fun heq => hslot (heq ▸ hother)) hkept h
  refine ⟨after, hafter, ?_, fun other hne => ?_, hrest⟩
  · rw [hstate]
    exact Bag.get?_insert_self _ _ _
  · rw [hstate]
    exact Bag.get?_insert_of_ne _ _ hne

/-- A stage with a gate records its checkpoint and leads past the gate. -/
theorem exists_canEnd_past_gate (hcomes : Comes flow n phase stage .checkpoint)
    {gate : HookBinding (Handler X L)} (hgates : gates X L stage = [gate])
    (hattached : ctx.attached = []) (hkept : Kept observers P)
    (h : (remaining behave flow observers call n ctx).CanEnd P v) :
    let recorded := (ctx.enter stage).apply { checkpoints := [stage] }
    ∃ answer, (gate.handler.run behave recorded).CanEnd P answer ∧
      (past behave flow observers call (n + 1)
        (answer.1, recorded.apply answer.2)).CanEnd Task.Anywhere v := by
  intro recorded
  have hstep : flow.step .checkpoint (ctx.enter stage) =
      .done (.ok (), { checkpoints := [stage] }) := checkpoint_eq rfl
  have hinvoke : (toolPlatform behave).invoke (.own stage (.call flow .checkpoint))
      (ctx.enter stage) = .done (.ok (), { checkpoints := [stage] }) := hstep
  have hrun : Instance.runHooks (toolPlatform behave)
      ((Instance.admitting flow observers).hooks.resolve stage ctx.scope ctx.attached)
      (ctx.enter stage) = (gate.handler.run behave recorded).map fun answer =>
        (answer.1, recorded.apply answer.2) := by
    rw [hattached, resolve_admitting hcomes, hgates, Instance.runHooks_cons_of_done hinvoke,
      Instance.runHooks_singleton]
    rfl
  rw [remaining, hcomes.drop_eq] at h
  simp only [past, ← hcomes.enterBrackets_eq]
  exact (Instance.canEnd_of_rest hrun hkept h).bind

/-- A call asks for a permit, and whether one is free decides what it gets. -/
theorem eq_of_acquire {free : Nat} {answer : Except Interrupt Unit × _}
    (h : ((Admission.acquire : ToolM X L Unit) ctx).CanEnd (·.permits = free) answer) :
    answer = if free = 0 then (.error (.signal (.fail (some Admission.refusal))), .none)
      else (.ok (), { state := some (ctx.state.insert .permit ()) }) := by
  obtain ⟨others, w, hfree, rfl⟩ := h
  subst hfree
  rw [Admission.acquire_eq, Task.amid]
  by_cases hnone : w.permits = 0
  · simp [hnone]
  · rw [if_neg hnone, if_neg hnone, Task.amid]
    split <;> rfl

theorem eq_of_release {answer : Except Interrupt Unit × _}
    (h : ((Admission.release : ToolM X L Unit) ctx).CanEnd P answer) :
    answer = (.ok (), { state := some (ctx.state.erase .permit) }) := by
  obtain ⟨others, w, -, rfl⟩ := h
  rw [Admission.release_eq]
  split <;> rfl

/-- What a gate leaves is plain for a caller who had the permit that the state has now. -/
theorem plain_exchanged (hplain : ctx.Plain call deps) {state deps' : CallState X L}
    (hstate : ∀ slot, slot ≠ .permit → state.get? slot = ctx.state.get? slot)
    (hdeps : ∀ slot, slot ≠ .permit → deps'.get? slot = deps.get? slot)
    (hpermit : state.get? .permit = deps'.get? .permit) :
    (((ctx.enter stage).apply { checkpoints := [stage] }).apply { state := some state }).Plain
      call deps' where
  callId := hplain.callId
  attached := by
    simp [Context.apply, Context.enter, hplain.attached]
  given slot hslot := by
    by_cases heq : slot = .permit
    · subst heq
      exact hpermit
    · exact (hstate slot heq).trans ((hplain.given slot hslot).trans (hdeps slot heq).symm)

theorem exists_acquired {free : Nat} (hplain : ctx.Plain call deps)
    (hkept : Kept observers fun w => w.permits = free)
    (h : (remaining behave flow observers call 5 ctx).CanEnd (fun w => w.permits = free) v) :
    if free = 0 then v = .ok (.failed (some Admission.refusal))
    else ∃ after : Context (CallState X L) (Handler X L),
      after.Plain call (deps.insert .permit ()) ∧
      (∀ slot, slot ≠ .permit → after.state.get? slot = ctx.state.get? slot) ∧
      (remaining behave flow observers call 6 after).CanEnd Task.Anywhere v := by
  have hcomes : Comes flow 5 .pre "acquireSemaphore" .checkpoint := ⟨rfl, rfl, rfl⟩
  have hgates : gates X L "acquireSemaphore" =
      [⟨"concurrency:acquire", "acquireSemaphore", 0, none, .acquire⟩] := rfl
  obtain ⟨answer, hanswer, hpast⟩ :=
    exists_canEnd_past_gate hcomes hgates hplain.attached hkept h
  obtain rfl := eq_of_acquire hanswer
  split
  case isTrue hnone =>
    simp only [if_pos hnone] at hpast
    exact Instance.eq_of_interrupted hpast
  case isFalse hsome =>
    simp only [if_neg hsome] at hpast
    exact ⟨_, plain_exchanged hplain (fun slot hne => Bag.get?_insert_of_ne _ _ hne)
      (fun slot hne => Bag.get?_insert_of_ne _ _ hne)
      ((Bag.get?_insert_self _ _ _).trans (Bag.get?_insert_self _ _ _).symm),
      fun slot hne => Bag.get?_insert_of_ne _ _ hne, hpast⟩

theorem exists_released (hplain : ctx.Plain call deps)
    (h : (remaining behave flow observers call 9 ctx).CanEnd Task.Anywhere v) :
    ∃ after : Context (CallState X L) (Handler X L), after.Plain call (deps.erase .permit) ∧
      (∀ slot, slot ≠ .permit → after.state.get? slot = ctx.state.get? slot) ∧
      (remaining behave flow observers call 10 after).CanEnd Task.Anywhere v := by
  have hcomes : Comes flow 9 .finalize "releaseSemaphore" .checkpoint := ⟨rfl, rfl, rfl⟩
  have hgates : gates X L "releaseSemaphore" =
      [⟨"concurrency:release", "releaseSemaphore", 0, none, .release⟩] := rfl
  obtain ⟨answer, hanswer, hpast⟩ :=
    exists_canEnd_past_gate hcomes hgates hplain.attached kept_anywhere h
  obtain rfl := eq_of_release hanswer
  exact ⟨_, plain_exchanged hplain (fun slot hne => Bag.get?_erase_of_ne _ hne)
    (fun slot hne => Bag.get?_erase_of_ne _ hne)
    ((Bag.get?_erase_self _ _).trans (Bag.get?_erase_self _ _).symm),
    fun slot hne => Bag.get?_erase_of_ne _ hne, hpast⟩

/-! ### Before the permit -/

/-- What is found out about a call before it asks for a permit: its tool and its parameters. -/
def welcome (tools : ToolRegistry X (World L)) (auth : AuthConfig) (caller : Option AuthInfo)
    (input : Json) : Except FlowFault (Tool X (World L) × CallParams) :=
  match CallParams.ofEnvelope input with
  | .error fault => .error fault
  | .ok params =>
    match tools.find? params.name with
    | none => .error (.notFound "tool" params.name)
    | some tool =>
      match refusal? auth caller tool with
      | some fault => .error fault
      | none => .ok (tool, params)

def work (call : String) (tool : Tool X (World L)) (params : CallParams) :
    Task (World L) (Except FlowFault (Served X L)) :=
  let arguments := params.argumentsOrNone
  if tool.inputViolations arguments ≠ [] then
    .done (.error (.invalidInput ("invalid arguments for '" ++ tool.name ++ "': " ++
      Violation.join (tool.inputViolations arguments))))
  else
    (tool.execute arguments ⟨call, tool.name, tool.owner, params.metadata⟩).map
      (checked tool arguments)

/-- In direct style nothing comes between the two. -/
theorem serve_eq (tools : ToolRegistry X (World L)) (auth : AuthConfig) (call : String)
    (deps : CallState X L) (input : Json) :
    serve tools auth call deps input =
      match welcome tools auth (deps.get? .auth) input with
      | .error fault => .done (.error fault)
      | .ok (tool, params) => work call tool params := by
  unfold serve welcome
  rw [ofEnvelope_eq]
  cases hread : CallRequest.read input with
  | error fault => rfl
  | ok request =>
    dsimp only
    by_cases hmethod : request.method ≠ "tools/call"
    · rw [if_pos hmethod, if_pos hmethod]
    · rw [if_neg hmethod, if_neg hmethod]
      dsimp only
      cases tools.find? request.params.name with
      | none => rfl
      | some tool =>
        simp only [serveFound, work, argumentsOf_eq (request_arguments_ne_null hread)]
        cases refusal? auth (deps.get? .auth) tool <;> rfl

structure Introduced (call : String) (tool : Tool X (World L)) (params : CallParams)
    (state : CallState X L) : Prop where
  tool_eq : state.get? .tool = some tool
  params_eq : state.get? .params = some params
  call_eq : state.get? .call = some ⟨call, tool.name, tool.owner, params.metadata⟩

theorem exists_introduced (hplain : ctx.Plain call deps) {tool : Tool X (World L)}
    {params : CallParams} (htool : ctx.state.get? .tool = some tool)
    (hparams : ctx.state.get? .params = some params) (hhooks : tool.hooks = [])
    (hkept : Kept observers P) (h : (remaining behave flow observers call 2 ctx).CanEnd P v) :
    match refusal? flow.auth (deps.get? .auth) tool with
    | some fault => v = .error fault
    | none => ∃ after : Context (CallState X L) (Handler X L), after.Plain call deps ∧
      Introduced call tool params after.state ∧
      (remaining behave flow observers call 5 after).CanEnd P v := by
  have hcheck : Comes flow 2 .pre "checkToolAuthorization" .checkAuthorization := ⟨rfl, rfl, rfl⟩
  have hcreate : Comes flow 3 .pre "createToolCallContext" .createContext := ⟨rfl, rfl, rfl⟩
  have hquota : Comes flow 4 .pre "acquireQuota" .checkpoint := ⟨rfl, rfl, rfl⟩
  have hcaller : (ctx.enter "checkToolAuthorization").state.get? .auth = deps.get? .auth :=
    hplain.given .auth (by decide)
  have hstep := checkAuthorization_eq flow (ctx.enter "checkToolAuthorization") htool
  rw [hcaller] at hstep
  cases hrefusal : refusal? flow.auth (deps.get? .auth) tool with
  | some fault =>
    rw [hrefusal] at hstep
    exact eq_of_failed hcheck rfl hplain hstep hkept h
  | none =>
    rw [hrefusal] at hstep
    obtain ⟨changes, hstep, hattached, hkeep⟩ := hstep
    obtain ⟨ctx₁, hplain₁, hstate₁, h₁⟩ := exists_remaining hcheck rfl hplain hstep hattached
      (fun slot hslot => hkeep slot fun heq => absurd (heq ▸ hslot) (by decide)) hkept h
    have htool₁ : ctx₁.state.get? .tool = some tool := by
      rw [hstate₁]
      exact (hkeep .tool (by decide)).trans htool
    have hparams₁ : ctx₁.state.get? .params = some params := by
      rw [hstate₁]
      exact (hkeep .params (by decide)).trans hparams
    obtain ⟨ctx₂, hplain₂, hcall₂, hkeep₂, h₂⟩ := exists_remaining_insert hcreate rfl hplain₁
      (createContext_eq htool₁ hparams₁ hhooks) (by decide) hkept h₁
    obtain ⟨ctx₃, hplain₃, hstate₃, h₃⟩ := exists_remaining hquota rfl hplain₂ (checkpoint_eq rfl)
      rfl (fun _ _ => rfl) hkept h₂
    have hcallId : (ctx₁.enter "createToolCallContext").callId = call := hplain₁.callId
    have hstate : ctx₃.state = ctx₂.state := hstate₃
    rw [hcallId] at hcall₂
    refine ⟨ctx₃, hplain₃, ?_, h₃⟩
    rw [hstate]
    exact ⟨(hkeep₂ .tool (by decide)).trans htool₁, (hkeep₂ .params (by decide)).trans hparams₁,
      hcall₂⟩

/-- From the start of a call up to its permit. -/
theorem exists_welcomed (hplain : ctx.Plain call deps)
    (hhooks : ∀ tool ∈ flow.tools.tools, tool.hooks = []) (hkept : Kept observers P)
    (h : (remaining behave flow observers call 0 ctx).CanEnd P v) :
    match welcome flow.tools flow.auth (deps.get? .auth) ctx.input with
    | .error fault => v = .error fault
    | .ok (tool, params) => ∃ after : Context (CallState X L) (Handler X L),
      after.Plain call deps ∧ Introduced call tool params after.state ∧
        (remaining behave flow observers call 5 after).CanEnd P v := by
  have hparse : Comes flow 0 .pre "parseInput" .parseInput := ⟨rfl, rfl, rfl⟩
  have hfind : Comes flow 1 .pre "findTool" .findTool := ⟨rfl, rfl, rfl⟩
  have hstep := parseInput_eq flow (ctx.enter "parseInput")
  have hinput : (ctx.enter "parseInput").input = ctx.input := rfl
  rw [hinput] at hstep
  unfold welcome
  cases hread : CallParams.ofEnvelope ctx.input with
  | error fault =>
    rw [hread] at hstep
    exact eq_of_failed hparse rfl hplain hstep hkept h
  | ok params =>
    rw [hread] at hstep
    obtain ⟨ctx₁, hplain₁, hparams₁, -, h₁⟩ :=
      exists_remaining_insert hparse rfl hplain hstep (by decide) hkept h
    have hstep₁ : flow.step .findTool (ctx₁.enter "findTool") = _ := findTool_eq hparams₁
    dsimp only
    cases hfound : flow.tools.find? params.name with
    | none =>
      rw [hfound] at hstep₁
      exact eq_of_failed hfind rfl hplain₁ hstep₁ hkept h₁
    | some tool =>
      rw [hfound] at hstep₁
      obtain ⟨ctx₂, hplain₂, htool₂, hkeep₂, h₂⟩ :=
        exists_remaining_insert hfind rfl hplain₁ hstep₁ (by decide) hkept h₁
      have hparams₂ : ctx₂.state.get? .params = some params :=
        (hkeep₂ .params (by decide)).trans hparams₁
      have hnext := exists_introduced hplain₂ htool₂ hparams₂
        (hhooks tool (List.mem_of_find?_eq_some hfound)) hkept h₂
      dsimp only
      cases hrefusal : refusal? flow.auth (deps.get? .auth) tool with
      | some fault => rwa [hrefusal] at hnext
      | none => rwa [hrefusal] at hnext

/-! ### Behind the permit -/

/-- The last stage: the output is checked and becomes the result. -/
theorem canEnd_present (hplain : ctx.Plain call deps) {tool : Tool X (World L)}
    {arguments output : Json} (htool : ctx.state.get? .tool = some tool)
    (harguments : ctx.state.get? .validated = some arguments)
    (houtput : ctx.state.get? .raw = some output)
    (h : (remaining behave flow observers call 11 ctx).CanEnd Task.Anywhere v) :
    (present flow.renderer deps (checked tool arguments (.ok output))).CanEnd Task.Anywhere v := by
  have hfinalize : Comes flow 11 .finalize "finalize" .finalize := ⟨rfl, rfl, rfl⟩
  have hstep : flow.step .finalize (ctx.enter "finalize") = _ := finalize_eq htool houtput
  rw [checked]
  by_cases hviolations : tool.outputViolations output ≠ []
  · rw [if_pos hviolations] at hstep ⊢
    obtain rfl := eq_of_failed hfinalize rfl hplain hstep kept_anywhere h
    exact h.done
  · rw [if_neg hviolations] at hstep ⊢
    have hrendered := rendered_eq_result flow ⟨tool, arguments, output⟩ harguments
      hplain.sessionOf_eq
    have hresult := canEnd_past hfinalize rfl hplain.attached hstep kept_anywhere h
    rw [show (ctx.enter "finalize").state = ctx.state from rfl, hrendered] at hresult
    obtain ⟨result, hended, hcompleted⟩ := hresult.bind
    -- No bracket is open any more, and no stage is left.
    have hpending : callPlan.pending (callPlan.stages.take 12) = [] :=
      wellFormed_callPlan.pending_stages
    rw [past, hpending] at hcompleted
    obtain rfl := Instance.eq_of_completed hcompleted
    exact hended.map fun result : CallResult =>
      (.ok (.completed (some result.toJson)) : Except FlowFault Outcome)

theorem canEnd_present_of_answered (hplain : ctx.Plain call deps) {tool : Tool X (World L)}
    {arguments output : Json} (htool : ctx.state.get? .tool = some tool)
    (harguments : ctx.state.get? .validated = some arguments)
    (houtput : ctx.state.get? .execution = some output)
    (h : (remaining behave flow observers call 8 ctx).CanEnd Task.Anywhere v) :
    (present flow.renderer (deps.erase .permit) (checked tool arguments (.ok output))).CanEnd
      Task.Anywhere v := by
  have hvalidate : Comes flow 8 .execute "validateOutput" .validateOutput := ⟨rfl, rfl, rfl⟩
  have hquota : Comes flow 10 .finalize "releaseQuota" .checkpoint := ⟨rfl, rfl, rfl⟩
  have hkeep : ∀ slot : Slot, slot ≠ .execution → slot ≠ .raw →
      ((ctx.state.erase .execution).insert .raw output).get? slot = ctx.state.get? slot := by
    intro slot hexecution hraw
    exact (Bag.get?_insert_of_ne _ _ hraw).trans (Bag.get?_erase_of_ne _ hexecution)
  obtain ⟨ctx₁, hplain₁, hstate₁, h₁⟩ := exists_remaining hvalidate rfl hplain
    (validateOutput_eq houtput) rfl
    (fun slot hslot => hkeep slot (fun heq => absurd (heq ▸ hslot) (by decide))
      fun heq => absurd (heq ▸ hslot) (by decide)) kept_anywhere h
  obtain ⟨ctx₂, hplain₂, hkeep₂, h₂⟩ := exists_released hplain₁ h₁
  obtain ⟨ctx₃, hplain₃, hstate₃, h₃⟩ := exists_remaining hquota rfl hplain₂ (checkpoint_eq rfl)
    rfl (fun _ _ => rfl) kept_anywhere h₂
  have hstate : ∀ slot : Slot, slot ≠ .permit →
      ctx₃.state.get? slot = ((ctx.state.erase .execution).insert .raw output).get? slot := by
    intro slot hne
    have hlast : ctx₃.state = ctx₂.state := hstate₃
    have hfirst : ctx₁.state = (ctx.state.erase .execution).insert .raw output := hstate₁
    rw [hlast, hkeep₂ slot hne, hfirst]
  refine canEnd_present hplain₃ ?_ ?_ ?_ h₃
  · rw [hstate .tool (by decide), hkeep .tool (by decide) (by decide), htool]
  · rw [hstate .validated (by decide), hkeep .validated (by decide) (by decide), harguments]
  · rw [hstate .raw (by decide)]
    exact Bag.get?_insert_self _ _ _

theorem exists_worked (hplain : ctx.Plain call deps) {tool : Tool X (World L)}
    {params : CallParams} (hintroduced : Introduced call tool params ctx.state)
    (h : (remaining behave flow observers call 6 ctx).CanEnd Task.Anywhere v) :
    ∃ served, (work call tool params).CanEnd Task.Anywhere served ∧
      (present flow.renderer (deps.erase .permit) served).CanEnd Task.Anywhere v := by
  obtain ⟨htool, hparams, hcall⟩ := hintroduced
  have hvalidate : Comes flow 6 .execute "validateInput" .validateInput := ⟨rfl, rfl, rfl⟩
  have hexecute : Comes flow 7 .execute "execute" .execute := ⟨rfl, rfl, rfl⟩
  have hstep : flow.step .validateInput (ctx.enter "validateInput") = _ :=
    validateInput_eq htool hparams
  rw [work]
  by_cases hviolations : tool.inputViolations params.argumentsOrNone ≠ []
  · rw [if_pos hviolations] at hstep
    simp only [if_pos hviolations]
    obtain rfl := eq_of_failed hvalidate rfl hplain hstep kept_anywhere h
    obtain ⟨others, w, -, -⟩ := h
    exact ⟨_, ⟨others, w, trivial, rfl⟩, others, w, trivial, rfl⟩
  · rw [if_neg hviolations] at hstep
    simp only [if_neg hviolations]
    obtain ⟨ctx₁, hplain₁, harguments₁, hkeep₁, h₁⟩ :=
      exists_remaining_insert hvalidate rfl hplain hstep (by decide) kept_anywhere h
    have htool₁ : ctx₁.state.get? .tool = some tool := (hkeep₁ .tool (by decide)).trans htool
    have hcall₁ : ctx₁.state.get? .call = some _ := (hkeep₁ .call (by decide)).trans hcall
    have hstep₁ : flow.step .execute (ctx₁.enter "execute") = _ :=
      execute_eq htool₁ harguments₁ hcall₁
    -- The tool may pause, and the world may be another one when it answers.
    obtain ⟨answer, hanswer, hpast⟩ :=
      (canEnd_past hexecute rfl hplain₁.attached hstep₁ kept_anywhere h₁).bind
    refine ⟨_, hanswer.map (checked tool params.argumentsOrNone), ?_⟩
    cases answer with
    | error fault =>
      obtain rfl := Instance.eq_of_interrupted hpast
      exact h.done
    | ok output =>
      have hkeep₂ : ∀ slot : Slot, slot ≠ .execution →
          (ctx₁.state.insert .execution output).get? slot = ctx₁.state.get? slot :=
        fun slot hne => Bag.get?_insert_of_ne _ _ hne
      have hplain₂ : ((ctx₁.enter "execute").apply
          { state := some (ctx₁.state.insert .execution output) }).Plain call deps :=
        hplain₁.apply rfl fun slot hslot => hkeep₂ slot fun heq => absurd (heq ▸ hslot) (by decide)
      exact canEnd_present_of_answered hplain₂ ((hkeep₂ .tool (by decide)).trans htool₁)
        ((hkeep₂ .validated (by decide)).trans harguments₁)
        (Bag.get?_insert_self ctx₁.state .execution output) hpast

theorem present_congr (renderer : Option (Renderer (World L))) {deps' : CallState X L}
    (h : ∀ slot, slot ≠ .permit → deps.get? slot = deps'.get? slot)
    (served : Except FlowFault (Served X L)) :
    present renderer deps served = present renderer deps' served := by
  have hsession : sessionOf deps = sessionOf deps' := by
    unfold sessionOf
    rw [h .auth (by decide), h .session (by decide)]
  cases served with
  | error fault => rfl
  | ok served => simp only [present, Served.result, Served.request, hsession]

/-- **Admitted calls are served directly.** Let the hooks that admit calls be the only ones of
others on the call flow, let tools have no hooks and let observers leave the permits alone. If a
permit is free, a call ends as the direct function serves it, and as the renderer presents what was
served. If none is free, it ends with what was found out before it asked for one, or else it fails
for want of a permit. -/
theorem admitting_serves (behave : X → ToolM X L Unit) (flow : CallFlow X L)
    (observers : List (Observer (World L)))
    (hspare : ∀ event w, (Observer.emit observers event w).permits = w.permits)
    (hhooks : ∀ tool ∈ flow.tools.tools, tool.hooks = [])
    (setting : Setting (CallState X L) (World L)) :
    let outcome := (((Instance.admitting flow observers).run (toolPlatform behave) setting.input
      setting.deps).amid setting.others setting.world).value
    if setting.world.permits = 0 then
      outcome =
        match welcome flow.tools flow.auth (setting.deps.get? .auth) setting.input with
        | .error fault => .error fault
        | .ok _ => .ok (.failed (some Admission.refusal))
    else ∃ served,
      (serve flow.tools flow.auth setting.world.nextId setting.deps setting.input).CanEnd
        Task.Anywhere served ∧
      (present flow.renderer setting.deps served).CanEnd Task.Anywhere outcome := by
  intro outcome
  let call := setting.world.nextId
  let start : Context (CallState X L) (Handler X L) :=
    .start call callToken setting.input (setting.deps.get? .scope) setting.deps
  have hplain : start.Plain call setting.deps := ⟨rfl, rfl, fun _ _ => rfl⟩
  have hkept : Kept observers fun w => w.permits = setting.world.permits :=
    fun event w hw => (hspare event w).trans hw
  have hrun : (remaining behave flow observers call 0 start).CanEnd
      (fun w => w.permits = setting.world.permits) outcome :=
    ⟨setting.others, Observer.emit observers (.started callToken.name call)
      setting.world.countCall, hspare _ _, rfl⟩
  have hwelcomed := exists_welcomed hplain hhooks hkept hrun
  rw [show start.input = setting.input from rfl] at hwelcomed
  rw [serve_eq]
  cases hwelcome : welcome flow.tools flow.auth (setting.deps.get? .auth) setting.input with
  | error fault =>
    rw [hwelcome] at hwelcomed
    split
    · exact hwelcomed
    · exact ⟨.error fault, ⟨[], setting.world, trivial, rfl⟩, hwelcomed ▸ hrun.done⟩
  | ok found =>
    obtain ⟨tool, params⟩ := found
    rw [hwelcome] at hwelcomed
    obtain ⟨ctx, hctx, hintroduced, hrest⟩ := hwelcomed
    -- Nothing has paused so far, so that as many permits are free as at the start.
    have hacquired := exists_acquired hctx hkept hrest
    split
    case isTrue hnone => rwa [if_pos hnone] at hacquired
    case isFalse hsome =>
      rw [if_neg hsome] at hacquired
      obtain ⟨after, hafter, hkeep, hlast⟩ := hacquired
      have hintroduced' : Introduced call tool params after.state :=
        ⟨(hkeep .tool (by decide)).trans hintroduced.tool_eq,
          (hkeep .params (by decide)).trans hintroduced.params_eq,
          (hkeep .call (by decide)).trans hintroduced.call_eq⟩
      obtain ⟨served, hserved, hpresented⟩ := exists_worked hafter hintroduced' hlast
      have hsame : present flow.renderer ((setting.deps.insert .permit ()).erase .permit) served =
          present flow.renderer setting.deps served :=
        present_congr flow.renderer (fun slot hne =>
          (Bag.get?_erase_of_ne _ hne).trans (Bag.get?_insert_of_ne _ _ hne)) served
      exact ⟨served, hserved, hsame ▸ hpresented⟩

end CallFlow

end StagedFlow
