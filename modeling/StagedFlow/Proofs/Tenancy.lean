import StagedFlow.Proofs.Keeping

/-!
# Tenants do not notice one another

A call runs under a scope, and a hook with an owner fires under the scope of its owner only. What is
shown here is that the hooks of other owners leave no trace in a call at all: the call takes the
same steps without them. The scope of a context never changes, so that at every stage the same hooks
are left after both sorts, whatever was attached in between.
-/

namespace StagedFlow

variable {K : Type} {V : K → Type} {S W H : Type}

def underScope (scope : Option String) (hooks : List (HookBinding H)) : List (HookBinding H) :=
  hooks.filter fun hook => hook.owner = none ∨ hook.owner = scope

theorem eligible_eq_filter_underScope (hooks : List (HookBinding H)) (stage : Stage)
    (scope : Option String) :
    eligible hooks stage scope =
      (underScope scope hooks).filter fun hook => hook.stage = stage := by
  rw [eligible, underScope, List.filter_filter]
  simp

@[simp]
theorem underScope_append (scope : Option String) (hooks rest : List (HookBinding H)) :
    underScope scope (hooks ++ rest) = underScope scope hooks ++ underScope scope rest :=
  List.filter_append ..

@[simp]
theorem underScope_underScope (scope : Option String) (hooks : List (HookBinding H)) :
    underScope scope (underScope scope hooks) = underScope scope hooks := by
  simp [underScope]

namespace HookMap

variable {token : FlowToken} {own others : List (HookBinding H)} {map other : HookMap H}

/-- Maps with the same hooks under a scope fire the same hooks at every stage. -/
theorem resolve_eq_of_underScope_eq {scope : Option String}
    (h : underScope scope other.bindings = underScope scope map.bindings) (stage : Stage)
    (attached : List (HookBinding H)) :
    other.resolve stage scope attached = map.resolve stage scope attached := by
  have heligible : eligible (other.bindings ++ attached) stage scope =
      eligible (map.bindings ++ attached) stage scope := by
    simp only [eligible_eq_filter_underScope, underScope_append, h]
  have hother := other.stablySorts_resolve stage scope attached
  rw [heligible] at hother
  exact hother.unique (map.stablySorts_resolve stage scope attached)

/-- Fewer hooks build as well. -/
theorem exists_build_underScope (scope : Option String)
    (h : build token own others = .ok map) :
    ∃ other, build token (underScope scope own) (underScope scope others) = .ok other := by
  rw [build] at h
  cases hfind : (own ++ others).find? fun hook => !token.kind.allows hook.stage with
  | some hook =>
    rw [hfind] at h
    cases h
  | none =>
    have hless : (underScope scope own ++ underScope scope others).find?
        (fun hook => !token.kind.allows hook.stage) = none := by
      rw [List.find?_eq_none] at hfind ⊢
      intro hook hmem
      rw [← underScope_append] at hmem
      exact hfind hook (List.mem_filter.mp hmem).1
    exact ⟨⟨token, underScope scope own ++ underScope scope others⟩, by rw [build, hless]⟩

end HookMap

/-! ### Calls -/

def Terms.scoped (scope : Option String) : Terms S W H where
  manner := .free
  good _ := True
  fine ctx := ctx.scope = scope
  raises _ := True

theorem Platform.upholds_scoped (p : Platform S W H) (scope : Option String) :
    p.Upholds (.scoped scope) where
  enter _ hctx _ := hctx
  attached _ _ _ _ := trivial
  invoke hook _ ctx hctx := Task.keeps_free _ fun answer => by
    refine ⟨hctx, ?_⟩
    cases answer.1 <;> trivial

namespace Instance

theorem suits_scoped (inst : Instance K V W H) (scope : Option String) :
    inst.Suits (.scoped scope : Terms S W H) where
  hooks _ _ := trivial
  emits _ := trivial

section Congr

variable (p : Platform S W H) (inst : Instance K V W H) {hooks : HookMap H}
  {scope : Option String} (hresolve : ∀ stage attached,
    hooks.resolve stage scope attached = inst.hooks.resolve stage scope attached)

include hresolve

theorem runStage_withHooks_of_resolve (phase : Phase) (stage : Stage) {ctx : Context S H}
    (hscope : ctx.scope = scope) :
    runStage p (inst.withHooks hooks) phase stage ctx = runStage p inst phase stage ctx := by
  subst hscope
  have hfired := hresolve stage ctx.attached
  unfold runStage
  exact congrArg (fun fired => Task.bind (inst.emit _) fun _ => runHooks p fired (ctx.enter stage))
    hfired

theorem walk_withHooks_of_resolve (steps : List (Phase × Stage)) (opened : List Bracket)
    {ctx : Context S H} (hscope : ctx.scope = scope) :
    walk p (inst.withHooks hooks) steps opened ctx = walk p inst steps opened ctx := by
  induction steps generalizing opened ctx with
  | nil => rfl
  | cons step rest ih =>
    rw [walk, walk, inst.runStage_withHooks_of_resolve p hresolve step.1 step.2 hscope]
    -- What follows the stage starts in a context under the same scope.
    refine ((p.upholds_scoped scope).runStage (inst.suits_scoped scope) step.1 step.2
      hscope).bind_congr ?_
    rintro ⟨result, after⟩ ⟨hafter, -⟩
    cases result with
    | ok _ => exact ih _ hafter
    | error interrupt => rfl

theorem closeAll_withHooks_of_resolve (brackets : List Bracket) {ctx : Context S H}
    (hscope : ctx.scope = scope) :
    closeAll p (inst.withHooks hooks) brackets ctx = closeAll p inst brackets ctx := by
  induction brackets generalizing ctx with
  | nil => rfl
  | cons bracket rest ih =>
    rw [closeAll, closeAll, inst.runStage_withHooks_of_resolve p hresolve _ bracket.release hscope]
    refine ((p.upholds_scoped scope).runStage (inst.suits_scoped scope) _ bracket.release
      hscope).bind_congr ?_
    exact fun answer hanswer => ih hanswer.1

theorem run_withHooks_of_resolve (input : Json) {deps : S} (hscope : p.scope deps = scope) :
    run p (inst.withHooks hooks) input deps = run p inst input deps := by
  have hstart : ∀ callId, (Context.start callId inst.definition.token input (p.scope deps) deps :
      Context S H).scope = scope := fun _ => hscope
  refine congrArg (Task.bind Task.look) (funext fun w => ?_)
  refine congrArg (Task.bind (Task.change p.countCall)) (funext fun _ => ?_)
  refine congrArg (Task.bind (inst.emit _)) (funext fun _ => ?_)
  refine (congrArg (Task.bind · _)
    (inst.walk_withHooks_of_resolve p hresolve _ _ (hstart _))).trans ?_
  have hwalk := (p.upholds_scoped scope).walk (inst.suits_scoped scope) inst.plan.steps []
    (hstart (p.nextId w))
  refine hwalk.bind_congr fun walked hwalked => ?_
  rw [inst.closeAll_withHooks_of_resolve p hresolve _ hwalked.1]
  rfl

theorem walkOf_withHooks_of_resolve {setting : Setting S W}
    (hscope : p.scope setting.deps = scope) :
    (inst.withHooks hooks).walkOf p setting = inst.walkOf p setting := by
  have hstart : (inst.startContext p setting).scope = scope := hscope
  have hwalk := inst.walk_withHooks_of_resolve p hresolve inst.plan.steps [] hstart
  exact congrArg (fun t : Task W (Walked S H) => t.amid _ _) hwalk

theorem closingOf_withHooks_of_resolve {setting : Setting S W}
    (hscope : p.scope setting.deps = scope) :
    (inst.withHooks hooks).closingOf p setting = inst.closingOf p setting := by
  have hstart : (inst.startContext p setting).scope = scope := hscope
  have hwalk := (p.upholds_scoped scope).walk (inst.suits_scoped scope) inst.plan.steps [] hstart
  have hwalked : (inst.walkOf p setting).value.context.scope = scope := (hwalk.value _ _).1
  rw [closingOf, inst.walkOf_withHooks_of_resolve p hresolve hscope,
    inst.closeAll_withHooks_of_resolve p hresolve _ hwalked]
  rfl

end Congr

/-- A call cannot tell two flows apart: it takes the same steps in both. -/
structure Alike (p : Platform S W H) (inst other : Instance K V W H) (setting : Setting S W) :
    Prop where
  run_eq : other.run p setting.input setting.deps = inst.run p setting.input setting.deps
  outcome_eq : other.outcome p setting = inst.outcome p setting
  /-- The same events, and the same hooks in the same contexts with the same results. -/
  record_eq : ∀ place, other.record p place setting = inst.record p place setting
  delivered_eq : ∀ place, other.delivered p place setting = inst.delivered p place setting
  context_eq : (other.closingOf p setting).value = (inst.closingOf p setting).value

theorem alike_of_underScope_eq (p : Platform S W H) (inst : Instance K V W H)
    (setting : Setting S W) {hooks : HookMap H}
    (h : underScope (p.scope setting.deps) hooks.bindings =
      underScope (p.scope setting.deps) inst.hooks.bindings) :
    inst.Alike p (inst.withHooks hooks) setting := by
  have hresolve := fun stage attached => HookMap.resolve_eq_of_underScope_eq h stage attached
  have hrun := inst.run_withHooks_of_resolve p hresolve setting.input rfl
  have hrecord : ∀ place, (inst.withHooks hooks).record p place setting =
      inst.record p place setting := by
    intro place
    have hscope : p.recorded.scope setting.deps = p.scope setting.deps := rfl
    have hrecorded := (inst.recorded place).run_withHooks_of_resolve p.recorded hresolve
      setting.input hscope
    exact congrArg (fun t : Task (W × List (Mark S H)) (Except FlowFault Outcome) =>
      (t.amid _ _).world.2) hrecorded
  constructor
  case run_eq => exact hrun
  case outcome_eq => rw [outcome, hrun, outcome]
  case record_eq => exact hrecord
  case delivered_eq => exact fun place => by rw [delivered, hrecord, delivered]
  case context_eq => rw [inst.closingOf_withHooks_of_resolve p hresolve rfl]

/-- **Tenant isolation.** A call of a flow is the same without the hooks of other owners, and with
any others in their place. -/
theorem alike_without_other_owners (p : Platform S W H) (inst : Instance K V W H)
    (setting : Setting S W) (token : FlowToken) (own others : List (HookBinding H))
    (hbuild : HookMap.build token own others = .ok inst.hooks) :
    (∃ hooks, HookMap.build token (underScope (p.scope setting.deps) own)
        (underScope (p.scope setting.deps) others) = .ok hooks ∧
      inst.Alike p (inst.withHooks hooks) setting) ∧
    ∀ own' others' hooks, HookMap.build token own' others' = .ok hooks →
      underScope (p.scope setting.deps) (own' ++ others') =
        underScope (p.scope setting.deps) (own ++ others) →
      inst.Alike p (inst.withHooks hooks) setting := by
  have hbindings := HookMap.bindings_of_build hbuild
  have hany : ∀ own' others' hooks, HookMap.build token own' others' = .ok hooks →
      underScope (p.scope setting.deps) (own' ++ others') =
        underScope (p.scope setting.deps) (own ++ others) →
      inst.Alike p (inst.withHooks hooks) setting := by
    intro own' others' hooks hbuild' heq
    rw [← HookMap.bindings_of_build hbuild', ← hbindings] at heq
    exact inst.alike_of_underScope_eq p setting heq
  refine ⟨?_, hany⟩
  obtain ⟨hooks, hless⟩ := HookMap.exists_build_underScope (p.scope setting.deps) hbuild
  refine ⟨hooks, hless, hany _ _ hooks hless ?_⟩
  simp only [underScope_append, underScope_underScope]

/-- A call without a scope, and a hook that would end the calls of a tenant. -/
theorem alike_without_guard :
    HookMap.build ⟨"crossed", ⟨"demo", Plan.crossed.stages⟩⟩ [.own "work" none] [.guard] =
        .ok (Instance.crossed [.own "work" none, .guard]).hooks ∧
      HookMap.build ⟨"crossed", ⟨"demo", Plan.crossed.stages⟩⟩ [.own "work" none] [] =
        .ok (Instance.crossed [.own "work" none]).hooks ∧
      underScope none [.own "work" none, .guard] = [.own "work" none] ∧
      (Instance.crossed [.own "work" none, .guard]).Alike .plain
        (Instance.crossed [.own "work" none]) .plain :=
  ⟨rfl, rfl, rfl, (alike_without_other_owners .plain (Instance.crossed [.own "work" none, .guard])
    .plain ⟨"crossed", ⟨"demo", Plan.crossed.stages⟩⟩ [.own "work" none] [.guard] rfl).2
    [.own "work" none] [] (Instance.crossed [.own "work" none]).hooks rfl rfl⟩

end Instance

end StagedFlow
