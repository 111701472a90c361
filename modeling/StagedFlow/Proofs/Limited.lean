import StagedFlow.Proofs.Permits

/-!
# Calls of a server that limits them

The handlers of such a server spare the permits, except for the two that admit calls. So a call
accounts for every permit, turn by turn, and holds none in the end.
-/

namespace StagedFlow

variable {X L : Type}

def Tool.Spares (tool : Tool X (World L)) : Prop :=
  ∀ arguments call, (tool.execute arguments call).Keeps .sparing fun _ => True

theorem Tool.Spares.behaves {tool : Tool X (World L)} (h : tool.Spares) :
    CallFlow.Behaves .sparing HookBinding.Custom tool :=
  ⟨h, fun _ _ => ⟨_, rfl⟩⟩

structure CallFlow.Spares (flow : CallFlow X L) : Prop where
  tools : ∀ tool ∈ flow.tools.tools, tool.Spares
  renderer : ∀ renderer, flow.renderer = some renderer → ∀ request,
    (renderer.render request).Keeps .sparing fun _ => True

/-- The handlers of a limited server: those that admit calls, and others that leave the permits
alone. -/
def Handler.Limited : Handler X L → Prop
  | .custom _ => True
  | .call flow _ => flow.Spares
  | .list _ _ => False
  | .acquire => True
  | .release => True

theorem CallFlow.Spares.keeps_step {flow : CallFlow X L} (h : flow.Spares) (step : CallStep)
    (held : Bool) : (flow.step step).Keeps (.sparing held) fun _ => True := by
  refine CallFlow.keeps_step (CallFlow.accepts_of_behaves step ?_ h.renderer ?_ ?_)
  · exact fun tool htool => (h.tools tool htool).behaves
  · intro state slot v hne hstate
    rw [Bag.contains_eq_isSome, Bag.get?_insert_of_ne _ _ hne.symm, ← Bag.contains_eq_isSome,
      hstate]
  · intro state hstate
    rw [Bag.contains_eq_isSome, Bag.get?_erase_of_ne _ (by decide), ← Bag.contains_eq_isSome,
      hstate]

structure Instance.Limited {K : Type} {V : K → Type} (inst : Instance K V (World L) (Handler X L))
    (behave : X → ToolM X L Unit) : Prop where
  own : ∀ hook held, (behave hook).Keeps (.sparing held) fun _ => True
  hooks : ∀ hook ∈ inst.hooks.bindings, hook.handler.Limited
  observers : ∀ event w, (Observer.emit inst.observers event w).permits = w.permits

namespace Instance.Limited

variable {K : Type} {V : K → Type} {inst : Instance K V (World L) (Handler X L)}
  {behave : X → ToolM X L Unit} {ctx : Context (CallState X L) (Handler X L)} {marks : Marks X L}

theorem holds_invoke (h : inst.Limited behave) {hook : HookBinding (Handler X L)}
    (hhook : hook.handler.Limited) (hctx : Tracks ctx marks) :
    (Task.guarding .balance).Holds marks ((toolPlatform behave).recorded.invoke hook ctx)
      fun answer => Tracks (ctx.apply answer.2) := by
  obtain ⟨name, stage, priority, owner, handler⟩ := hook
  cases handler with
  | custom own => exact holds_of_sparing (fun _ _ => rfl) (h.own own) hctx
  | call flow step =>
    have hflow : flow.Spares := hhook
    exact holds_of_sparing (fun _ _ => rfl) (hflow.keeps_step step) hctx
  | list flow step => exact hhook.elim
  | acquire => exact holds_acquire rfl hctx
  | release => exact holds_release rfl hctx

theorem holds_emit (h : inst.Limited behave) (place : Nat) {event : FlowEvent}
    (hevent : (Mark.event event : Mark (CallState X L) (Handler X L)).matters = false)
    (hctx : Tracks ctx marks) :
    (Task.guarding .balance).Holds marks ((inst.recorded place).emit event)
      fun _ => Tracks ctx := by
  intro since w hJ
  have hemit := Observer.emit_recorded (S := CallState X L) (H := Handler X L) place inst.observers
    event w marks
  refine Task.Guards.change (f := Observer.emit (Observer.recorded place inst.observers) event)
    ?_ ?_
  · rw [hemit]
    exact Balanced.append_of_not_matters hJ hevent (h.observers event w)
  · rw [hemit, Tracks, holding_append_of_not_matters hevent]
    exact hctx

theorem follows (h : inst.Limited behave) (place : Nat) :
    (inst.recorded place).Follows (toolPlatform behave).recorded (Task.guarding .balance)
      (fun hook => hook.handler.Limited) Tracks fun _ => True where
  hooks := h.hooks
  attached ctx _ hctx hook hhook := by
    obtain ⟨own, hown⟩ := hctx.1 hook hhook
    rw [hown]
    trivial
  enter _ _ hctx _ := hctx
  emit _ _ hctx _ _ _ := h.holds_emit place rfl hctx
  invoke hook hhook ctx known hctx since w hJ :=
    (h.holds_invoke hhook hctx since w hJ).mono fun _ _ hafter => ⟨hafter, trivial⟩
  ends_ok := trivial

/-- At its end a call gives up its state, and with it the permit that it holds. -/
theorem guards_end (h : inst.Limited behave) (place : Nat) {call : String}
    (outcome : Except FlowFault Outcome) (hctx : Tracks ctx marks)
    {since : World L × Marks X L} {w : World L}
    (hJ : Balanced since (w, marks)) :
    (((inst.recorded place).emit (finalEvent inst.name call outcome)).bind fun _ =>
      (Task.change ((toolPlatform behave).recorded.retire ctx.state)).bind fun _ =>
        .done outcome).Guards .balance (fun _ later => holding later = false) since (w, marks) := by
  have hgives : (Mark.event (finalEvent inst.name call outcome) :
      Mark (CallState X L) (Handler X L)).gives = true := by
    cases outcome <;> rfl
  have hasks : (Mark.event (finalEvent inst.name call outcome) :
      Mark (CallState X L) (Handler X L)).asks = false := rfl
  have hheld : holding (marks ++ [.event (finalEvent inst.name call outcome)]) = false :=
    holding_append_of_gives hasks hgives
  have hspared := h.observers (finalEvent inst.name call outcome) w
  have hemitted : (Observer.emit inst.observers (finalEvent inst.name call outcome) w).permits ≤
      since.1.permits + (holding since.2).toNat := hspared ▸ hJ.within
  have hretired : Balanced since
      (Admission.retire ctx.state
          (Observer.emit inst.observers (finalEvent inst.name call outcome) w),
        marks ++ [.event (finalEvent inst.name call outcome)]) := by
    refine hJ.append_of_gives hasks hgives ?_
    rw [← hctx.contains_eq, Admission.retire]
    split
    case isTrue hpermit => simp [World.givePermit, hspared, hpermit]
    case isFalse hpermit => simp [hspared, hpermit]
  -- The event comes first: until the state is given up, its permit is not free.
  change Task.Duty.balance.moment since
      (Observer.emit (Observer.recorded place inst.observers) _ (w, marks)).1 ∧
    Task.Duty.balance.moment since (Prod.map (Admission.retire ctx.state) id
      (Observer.emit (Observer.recorded place inst.observers) _ (w, marks))).1 ∧
    Balanced since (Prod.map (Admission.retire ctx.state) id
      (Observer.emit (Observer.recorded place inst.observers) _ (w, marks))) ∧
    holding (Observer.emit (Observer.recorded place inst.observers) _ (w, marks)).2 = false
  rw [Observer.emit_recorded]
  exact ⟨hemitted, hretired.within, hretired, hheld⟩

/-- A call that starts without a permit accounts for every permit, and it holds none in the end. -/
theorem holds_run (h : inst.Limited behave) (place : Nat) (input : Json) {deps : CallState X L}
    (hdeps : CallFlow.Carries .sparing HookBinding.Custom deps)
    (hpermit : deps.contains .permit = false) :
    (Task.guarding .balance).Holds []
      ((inst.recorded place).run (toolPlatform behave).recorded input deps)
      fun _ later => holding later = false := by
  have hstart : ∀ call, Tracks (.start call inst.definition.token input (deps.get? .scope) deps)
      ([] : Marks X L) :=
    fun call => ⟨List.forall_mem_nil _, hdeps, hpermit⟩
  have hlook : (Task.guarding .balance).Holds ([] : Marks X L) Task.look
      fun _ later => later = [] := fun _ _ hJ => ⟨Balanced.within hJ, hJ, rfl⟩
  have hcount : (Task.guarding .balance).Holds ([] : Marks X L)
      (Task.change (toolPlatform behave).recorded.countCall) fun _ later => later = [] :=
    fun _ _ hJ => .change (Balanced.spare hJ rfl) rfl
  rw [Instance.run_eq_look]
  refine (Task.guarding .balance).bind hlook fun w later hlater => ?_
  subst hlater
  refine (Task.guarding .balance).bind hcount fun _ later hlater => ?_
  subst hlater
  refine (Task.guarding .balance).bind
    (h.holds_emit place rfl (hstart ((toolPlatform behave).nextId w.1))) fun _ later hlater => ?_
  refine (Task.guarding .balance).bind ((h.follows place).walk later _ _ hlater)
    fun walked later hwalked => ?_
  refine (Task.guarding .balance).bind ((h.follows place).closeAll later _ hwalked.1)
    fun ctx later hctx => ?_
  exact fun since w hJ => h.guards_end place _ hctx hJ

end Instance.Limited

end StagedFlow
