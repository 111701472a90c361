import StagedFlow.Proofs.Access
import StagedFlow.Proofs.Dispatching
import StagedFlow.Proofs.HookOrder

/-!
# Flows that always answer

A call may complete without an output. It cannot if, at the last stage of its plan, a handler of the
flow sets the output whenever it returns, for every caller, and no other hook takes away there what
it has found: a walk that completes has come by that stage, where all hooks have returned. The flows
of a tool server have such a handler. So no request is answered without a body through them, unless
a hook takes the output away at the very end.
-/

namespace StagedFlow

variable {K : Type} {V : K → Type} {S W H : Type}

namespace HookM

variable {α β : Type}

def SetsOutput (m : HookM S W H α) : Prop :=
  ∀ ctx, (m ctx).Keeps .free fun answer =>
    ∀ a, answer.1 = .ok a → ∃ v, answer.2.output = some (some v)

def SparesOutput (m : HookM S W H α) : Prop :=
  ∀ ctx, (m ctx).Keeps .free fun answer => answer.2.output ≠ some none

namespace SetsOutput

theorem interrupt (i : Interrupt) : (HookM.interrupt i : HookM S W H α).SetsOutput :=
  fun _ => .done nofun

theorem setOutput (v : Json) : (HookM.setOutput v : HookM S W H Unit).SetsOutput :=
  fun _ => .done fun _ _ => ⟨v, rfl⟩

/-- It is enough that the output is set in the end. -/
theorem bind {m : HookM S W H α} {k : α → HookM S W H β} (h : ∀ a, (k a).SetsOutput) :
    (m >>= k).SetsOutput := by
  intro ctx
  have hfirst := (m ctx).keeps_free (Q := fun _ => True) fun _ => trivial
  refine hfirst.bind fun answer _ => ?_
  obtain ⟨result, changes⟩ := answer
  cases result with
  | ok a =>
    refine (h a _).map fun later hlater b hb => ?_
    obtain ⟨v, hv⟩ := hlater b hb
    refine ⟨v, ?_⟩
    change later.2.output.or changes.output = some (some v)
    rw [hv, Option.some_or]
  | error i => exact .done nofun

end SetsOutput

namespace SparesOutput

theorem pure (a : α) : (Pure.pure a : HookM S W H α).SparesOutput := fun _ => .done nofun

theorem interrupt (i : Interrupt) : (HookM.interrupt i : HookM S W H α).SparesOutput :=
  fun _ => .done nofun

theorem ofExcept (e : Except FlowFault α) : (HookM.ofExcept e : HookM S W H α).SparesOutput := by
  cases e with
  | ok a => exact pure a
  | error fault => exact interrupt _

theorem context : (HookM.context : HookM S W H _).SparesOutput := fun _ => .done nofun

theorem state : (HookM.state : HookM S W H S).SparesOutput := fun _ => .done nofun

theorem change {changes : Changes S H} (h : changes.output = none) :
    (HookM.change changes : HookM S W H Unit).SparesOutput :=
  fun _ => .done (by rw [h]; nofun)

theorem setState (s : S) : (HookM.setState s : HookM S W H Unit).SparesOutput := change rfl

theorem checkpoint (stage : Stage) : (HookM.checkpoint stage : HookM S W H Unit).SparesOutput :=
  change rfl

theorem setOutput (v : Json) : (HookM.setOutput v : HookM S W H Unit).SparesOutput :=
  fun _ => .done nofun

theorem lift (t : Task W α) : (HookM.lift t : HookM S W H α).SparesOutput := fun _ =>
  (t.keeps_free (Q := fun _ => True) fun _ => trivial).map fun _ _ => nofun

theorem bind {m : HookM S W H α} {k : α → HookM S W H β} (h : m.SparesOutput)
    (hk : ∀ a, (k a).SparesOutput) : (m >>= k).SparesOutput := by
  intro ctx
  refine (h ctx).bind fun answer hfirst => ?_
  obtain ⟨result, changes⟩ := answer
  cases result with
  | ok a =>
    refine (hk a _).map fun later hlater => ?_
    change later.2.output.or changes.output ≠ some none
    cases houtput : later.2.output with
    | none => exact hfirst
    | some output =>
      rw [houtput] at hlater
      exact hlater
  | error i => exact .done hfirst

theorem attach (hook : HookBinding H) : (HookM.attach hook : HookM S W H _).SparesOutput := by
  refine context.bind fun ctx => ?_
  split
  · exact (change rfl).bind fun _ => pure _
  · exact pure _

end SparesOutput

end HookM

namespace Instance

variable {p : Platform S W H} {inst : Instance K V W H} {hook : HookBinding H} {stage : Stage}

end Instance

/-- All hooks of these stages return at once, and leave a context that started like the first one
like the second one. -/
inductive Instance.Runs (p : Platform S W H) (inst : Instance K V W H) :
    List (Phase × Stage) → Context S H → Context S H → Prop
  | ended {ctx : Context S H} : Runs p inst [] ctx ctx
  | passed {phase : Phase} {stage : Stage} {steps : List (Phase × Stage)}
      {ctx next after : Context S H}
      (hrun : runHooks p (inst.hooks.resolve stage ctx.scope ctx.attached) (ctx.enter stage) =
        .done (.ok (), next))
      (h : Runs p inst steps next after) : Runs p inst ((phase, stage) :: steps) ctx after

namespace Instance.Runs

variable {p : Platform S W H} {inst : Instance K V W H} {steps : List (Phase × Stage)}
  {ctx after : Context S H} {setting : Setting S W}

theorem amid_walk (h : Runs p inst steps ctx after) (opened : List Bracket)
    (others : List (W → W)) (w : W) :
    ((walk p inst steps opened ctx).amid others w).value.result = .ok () ∧
      ((walk p inst steps opened ctx).amid others w).value.context = after := by
  induction h generalizing opened w with
  | ended => exact ⟨rfl, rfl⟩
  | @passed phase stage steps ctx next _ hrun _ ih =>
    have hstage : runStage p inst phase stage ctx =
        (inst.emit (.entered inst.name ctx.callId phase stage)).bind fun _ =>
          .done (.ok (), next) :=
      congrArg (Task.bind _) (funext fun _ => hrun)
    rw [walk, hstage, Task.bind_eq, Task.amid_bind, Task.amid_bind]
    exact ih _ _

/-- A call of which all stages come through completes with the output that is set then. -/
theorem outcome_eq (h : Runs p inst inst.plan.steps (inst.startContext p setting) after)
    (hplan : inst.plan.WellFormed) :
    inst.outcome p setting = .ok (.completed after.output) := by
  obtain ⟨history, -⟩ := exists_history p inst setting
  obtain ⟨hresult, hcontext⟩ := h.amid_walk [] setting.others
    (Observer.emit inst.observers (.started inst.name (p.nextId setting.world))
      (p.countCall setting.world))
  rw [history.outcome_eq_walk hplan]
  unfold walkOf
  rw [hresult, hcontext]
  rfl

end Instance.Runs

section Tools

variable {X L : Type}

namespace ToolM

end ToolM

variable {behave : X → ToolM X L Unit}

end Tools

/-- Tampers with the state of a call: an empty listing takes the place of the one that was found, or
all state is dropped. -/
def tamper (drops : Bool) : ToolM Bool Unit Unit :=
  if drops then HookM.setState .empty else ToolM.put .listing (⟨[]⟩ : Listing)

def Setting.listing (X : Type) : Setting (CallState X Unit) (World Unit) :=
  ⟨.obj [("method", .str "tools/list")], .empty, ⟨0, 0, ()⟩, []⟩

end StagedFlow
