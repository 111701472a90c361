import StagedFlow.Proofs.Handlers
import StagedFlow.Proofs.History

/-!
# Calls stage by stage

What is left of a call from a stage on is a task of its own, `Instance.rest`. Stage by stage it
becomes what is left from the next one, after events that only observers hear; where a stage stops
the call, what is left is to end it. `Leads` is this relation between tasks. It is about several
tasks at once, so that calls which differ in one stage only share all events up to it.
-/

namespace StagedFlow

variable {K : Type} {V : K → Type} {S W H : Type}

def Observer.tell (observers : List (Observer W)) (events : List FlowEvent) (w : W) : W :=
  events.foldl (fun w event => Observer.emit observers event w) w

theorem Observer.tell_append (observers : List (Observer W)) (events later : List FlowEvent)
    (w : W) : tell observers (events ++ later) w = tell observers later (tell observers events w) :=
  List.foldl_append

/-- Each of the first tasks is the second one of the same index, after events that observers hear
in all of them. -/
def Leads {ι α : Type} (observers : List (Observer W)) (t t' : ι → Task W α) : Prop :=
  ∃ events, ∀ i others w,
    (t i).amid others w = (t' i).amid others (Observer.tell observers events w)

namespace Leads

variable {ι α : Type} {observers : List (Observer W)} {t t' t'' : ι → Task W α}

theorem of_eq (h : ∀ i others w, (t i).amid others w = (t' i).amid others w) :
    Leads observers t t' := ⟨[], h⟩

theorem trans (h : Leads observers t t') (h' : Leads observers t' t'') :
    Leads observers t t'' := by
  obtain ⟨events, hevents⟩ := h
  obtain ⟨later, hlater⟩ := h'
  refine ⟨events ++ later, fun i others w => ?_⟩
  rw [hevents, hlater, Observer.tell_append]

end Leads

/-- Each of the first tasks is the task `u` and what `k` makes of its value, with events before and
after `u` that observers hear in all of them. -/
def Frames {ι α β : Type} (observers : List (Observer W)) (t : ι → Task W α) (u : Task W β)
    (k : ι → β → Task W α) : Prop :=
  ∀ others w, ∃ early late, ∀ i, (t i).amid others w =
    (do
      Task.change (Observer.tell observers early)
      let b ← u
      Task.change (Observer.tell observers late)
      k i b : Task W α).amid others w

namespace Frames

variable {ι α β γ : Type} {observers : List (Observer W)} {t t' : ι → Task W α} {u : Task W β}
  {k : ι → β → Task W α}

theorem of_leads (h : Leads observers t t') (h' : Frames observers t' u k) :
    Frames observers t u k := by
  obtain ⟨events, hevents⟩ := h
  intro others w
  obtain ⟨early, late, hlater⟩ := h' others (Observer.tell observers events w)
  refine ⟨events ++ early, late, fun i => ?_⟩
  rw [hevents, hlater]
  simp only [Task.bind_eq, Task.amid_bind, Task.amid_change, Observer.tell_append]

theorem done {b : β} (h : Leads observers t fun i => k i b) :
    Frames observers t (.done b) k := by
  obtain ⟨events, hevents⟩ := h
  exact fun others w => ⟨events, [], fun i => hevents i others w⟩

theorem map {v : Task W γ} {f : γ → β} {next : ι → γ → Task W α}
    (h : Leads observers t fun i => v.bind (next i))
    (hnext : ∀ c, Leads observers (fun i => next i c) fun i => k i (f c)) :
    Frames observers t (v.map f) k := by
  obtain ⟨early, hearly⟩ := h
  intro others w
  obtain ⟨late, hlate⟩ := hnext (v.amid others (Observer.tell observers early w)).value
  refine ⟨early, late, fun i => ?_⟩
  rw [hearly, Task.amid_bind, hlate]
  simp only [Task.bind_eq, Task.amid_bind, Task.amid_change, Task.amid_map]

end Frames

namespace Instance

def finish (p : Platform S W H) (inst : Instance K V W H) (call : String) (walked : Walked S H) :
    Task W (Except FlowFault Outcome) := do
  let ctx ← closeAll p inst walked.opened walked.context
  let outcome := conclude walked.result ctx.output
  inst.emit (finalEvent inst.name call outcome)
  Task.change (p.retire ctx.state)
  pure outcome

def rest (p : Platform S W H) (inst : Instance K V W H) (call : String)
    (steps : List (Phase × Stage)) (opened : List Bracket) (ctx : Context S H) :
    Task W (Except FlowFault Outcome) := do
  let walked ← walk p inst steps opened ctx
  finish p inst call walked

def leave (p : Platform S W H) (observers : List (Observer W)) (flow call : String) (state : S)
    (outcome : Except FlowFault Outcome) : Task W (Except FlowFault Outcome) := do
  Task.change (Observer.emit observers (finalEvent flow call outcome))
  Task.change (p.retire state)
  pure outcome

variable {p : Platform S W H} {inst : Instance K V W H} {call : String} {phase : Phase}
  {stage : Stage} {steps : List (Phase × Stage)} {opened : List Bracket} {ctx after : Context S H}

/-- A call is what is left of it at its start. -/
theorem amid_run_rest (p : Platform S W H) (inst : Instance K V W H) (input : Json) (deps : S)
    (others : List (W → W)) (w : W) :
    (inst.run p input deps).amid others w =
      (rest p inst (p.nextId w) inst.plan.steps []
        (.start (p.nextId w) inst.definition.token input (p.scope deps) deps)).amid others
          (Observer.emit inst.observers (.started inst.name (p.nextId w)) (p.countCall w)) :=
  rfl

/-- Past a stage that runs a task, the walk goes on, or the call is closed. -/
def onward (p : Platform S W H) (inst : Instance K V W H) (call : String)
    (steps : List (Phase × Stage)) (opened : List Bracket) :
    Except Interrupt Unit × Context S H → Task W (Except FlowFault Outcome)
  | (.ok (), ctx) => rest p inst call steps opened ctx
  | (.error interrupt, ctx) => finish p inst call ⟨.error interrupt, opened, ctx⟩

/-- A stage whose hooks amount to a task runs that task after its event. -/
theorem amid_rest_of_runHooks {α : Type} {t : Task W α}
    {answer : α → Except Interrupt Unit × Context S H}
    (hrun : runHooks p (inst.hooks.resolve stage ctx.scope ctx.attached) (ctx.enter stage) =
      t.map answer) (others : List (W → W)) (w : W) :
    (rest p inst call ((phase, stage) :: steps) opened ctx).amid others w =
      (t.bind fun a =>
        onward p inst call steps (enterBrackets inst.plan stage opened) (answer a)).amid others
          (Observer.tell inst.observers [.entered inst.name ctx.callId phase stage] w) := by
  have hhooks : inst.hooks.resolve stage (ctx.enter stage).scope (ctx.enter stage).attached =
      inst.hooks.resolve stage ctx.scope ctx.attached := rfl
  simp only [rest, walk, runStage, emit, Task.bind_eq, Task.amid_bind, Task.amid_change, hhooks,
    hrun, Task.amid_map]
  rw [show Observer.tell inst.observers [.entered inst.name ctx.callId phase stage] w =
    Observer.emit inst.observers (.entered inst.name (ctx.enter stage).callId phase stage) w from
    rfl]
  generalize t.amid others _ = ending
  obtain ⟨a, others, w⟩ := ending
  rcases hanswer : answer a with ⟨result, after⟩
  cases result with
  | ok _ => simp only [onward, rest, Task.bind_eq, Task.amid_bind]
  | error interrupt => simp only [onward, Task.amid_done]

theorem runHooks_singleton (p : Platform S W H) (hook : HookBinding H) (ctx : Context S H) :
    runHooks p [hook] ctx =
      (p.invoke hook ctx).map fun answer => (answer.1, ctx.apply answer.2) := by
  rw [← Task.bind_done]
  refine congrArg (p.invoke hook ctx).bind (funext fun answer => ?_)
  obtain ⟨result, changes⟩ := answer
  cases result <;> rfl

/-- A stage with one hook runs what this hook amounts to. -/
theorem amid_rest_of_singleton {α : Type} {hook : HookBinding H} {t : Task W α}
    {answer : α → Except Interrupt Unit × Changes S H}
    (hhooks : inst.hooks.resolve stage ctx.scope ctx.attached = [hook])
    (hinvoke : p.invoke hook (ctx.enter stage) = t.map answer) (others : List (W → W)) (w : W) :
    (rest p inst call ((phase, stage) :: steps) opened ctx).amid others w =
      (t.bind fun a => onward p inst call steps (enterBrackets inst.plan stage opened)
        ((answer a).1, (ctx.enter stage).apply (answer a).2)).amid others
          (Observer.tell inst.observers [.entered inst.name ctx.callId phase stage] w) := by
  have hrun : runHooks p (inst.hooks.resolve stage ctx.scope ctx.attached) (ctx.enter stage) =
      t.map fun a => ((answer a).1, (ctx.enter stage).apply (answer a).2) := by
    rw [hhooks, runHooks_singleton, hinvoke, Task.map_map]
  exact amid_rest_of_runHooks hrun others w

/-- A walk ends at a stage where the only hook interrupts it. -/
theorem result_walk_of_interrupt {hook : HookBinding H} {interrupt : Interrupt}
    {changes : Changes S H}
    (hhooks : inst.hooks.resolve stage ctx.scope ctx.attached = [hook])
    (hinvoke : p.invoke hook (ctx.enter stage) = .done (.error interrupt, changes))
    (others : List (W → W)) (w : W) :
    ((walk p inst ((phase, stage) :: steps) opened ctx).amid others w).value.result =
      .error interrupt := by
  have hrun : runHooks p (inst.hooks.resolve stage ctx.scope ctx.attached) (ctx.enter stage) =
      .done (.error interrupt, (ctx.enter stage).apply changes) := by
    rw [hhooks, runHooks_singleton, hinvoke]
    rfl
  have hstage : runStage p inst phase stage ctx =
      (inst.emit (.entered inst.name ctx.callId phase stage)).bind fun _ =>
        .done (.error interrupt, (ctx.enter stage).apply changes) :=
    congrArg (Task.bind _) (funext fun _ => hrun)
  rw [walk, hstage, Task.bind_eq, Task.amid_bind, Task.amid_bind]
  rfl

/-- The stage only records checkpoints for calls to which nothing is attached. -/
def Idle (p : Platform S W H) (inst : Instance K V W H) (stage : Stage) : Prop :=
  ∀ ctx : Context S H, ctx.attached = [] → ∃ checkpoints,
    runHooks p (inst.hooks.resolve stage ctx.scope ctx.attached) (ctx.enter stage) =
      .done (.ok (), (ctx.enter stage).apply { checkpoints })

def closings (inst : Instance K V W H) (call : String) (opened : List Bracket) : List FlowEvent :=
  opened.map fun bracket => .entered inst.name call
    ((inst.plan.phaseOf? bracket.release).getD .finalize) bracket.release

/-- Closing brackets at idle stages is telling so. -/
theorem exists_amid_closeAll (hidle : ∀ b ∈ opened, Idle p inst b.release)
    (hattached : ctx.attached = []) :
    ∃ after, after.state = ctx.state ∧ after.output = ctx.output ∧ ∀ others w,
      (closeAll p inst opened ctx).amid others w =
        ⟨after, others, Observer.tell inst.observers (closings inst ctx.callId opened) w⟩ := by
  induction opened generalizing ctx with
  | nil => exact ⟨ctx, rfl, rfl, fun others w => rfl⟩
  | cons bracket opened ih =>
    obtain ⟨checkpoints, hrun⟩ := hidle bracket List.mem_cons_self ctx hattached
    have hnext :
        ((ctx.enter bracket.release).apply { checkpoints } : Context S H).attached = [] := by
      rw [Context.apply, Context.enter, hattached]
      rfl
    obtain ⟨after, hstate, houtput, hclose⟩ := ih (fun b hb => hidle b (List.mem_cons_of_mem _ hb))
      hnext
    refine ⟨after, hstate, houtput, fun others w => ?_⟩
    have hhooks : inst.hooks.resolve bracket.release (ctx.enter bracket.release).scope
        (ctx.enter bracket.release).attached =
          inst.hooks.resolve bracket.release ctx.scope ctx.attached := rfl
    simp only [closeAll, runStage, emit, Task.bind_eq, Task.amid_bind, Task.amid_change, hhooks,
      hrun, Task.amid_done]
    exact hclose others _

/-- With idle closing stages, the walk decides how the call ends. -/
theorem amid_finish {result : Except Interrupt Unit} (hidle : ∀ b ∈ opened, Idle p inst b.release)
    (hattached : ctx.attached = []) (others : List (W → W)) (w : W) :
    (finish p inst call ⟨result, opened, ctx⟩).amid others w =
      (leave p inst.observers inst.name call ctx.state (conclude result ctx.output)).amid others
        (Observer.tell inst.observers (closings inst ctx.callId opened) w) := by
  obtain ⟨after, hstate, houtput, hclose⟩ := exists_amid_closeAll hidle hattached
  simp only [finish, leave, emit, Task.bind_eq, Task.amid_bind, hclose, hstate, houtput,
    Task.amid_change]

/-- Every call of the flow is a call of the function on its identity, the state of the caller and
the input. Before and after it there is only what calls have in common: the call is counted,
observers hear of it, and the state is given up. -/
def Refines (p : Platform S W H) (inst : Instance K V W H)
    (direct : String → S → Json → Task W (Except FlowFault Outcome)) : Prop :=
  ∀ setting : Setting S W, ∃ early late,
    (inst.run p setting.input setting.deps).amid setting.others setting.world =
      (do
        Task.change p.countCall
        Task.change (Observer.tell inst.observers early)
        let outcome ← direct (p.nextId setting.world) setting.deps setting.input
        Task.change (Observer.tell inst.observers late)
        Task.change (p.retire setting.deps)
        pure outcome : Task W (Except FlowFault Outcome)).amid setting.others setting.world

end Instance

end StagedFlow
