import StagedFlow.Proofs.CallSteps
import StagedFlow.Proofs.Outcome

/-!
# What the hooks of a record did

A record tells which hooks ran and what came of them. `Platform.Does` ties this to the platform:
what came of a hook is something that the hook can do. So a record can be read from front to back,
with what is known of each hook. A stage with a single hook is read off at once.
-/

namespace StagedFlow

variable {K : Type} {V : K → Type} {S W H : Type}

/-- What came of the hook is of every kind that the hook keeps to. -/
def Platform.Does (p : Platform S W H) (firing : Firing S H) : Prop :=
  ∀ Q, (p.invoke firing.hook firing.seen).Keeps .free Q → Q (firing.result, firing.changes)

def Platform.Tells (p : Platform S W H) (marks : List (Mark S H)) : Prop :=
  ∀ firing, .fired firing ∈ marks → p.Does firing

namespace Platform

variable {p : Platform S W H} {marks : List (Mark S H)}

theorem Tells.append_event (h : p.Tells marks) (event : FlowEvent) :
    p.Tells (marks ++ [.event event]) := by
  intro firing hfiring
  rcases List.mem_append.mp hfiring with hold | hnew
  · exact h firing hold
  · cases List.mem_singleton.mp hnew

theorem Tells.append_fired (h : p.Tells marks) {firing : Firing S H} (hdoes : p.Does firing) :
    p.Tells (marks ++ [.fired firing]) := by
  intro other hother
  rcases List.mem_append.mp hother with hold | hnew
  · exact h other hold
  · cases List.mem_singleton.mp hnew
    exact hdoes

def telling (p : Platform S W H) : Terms S (W × List (Mark S H)) H where
  manner := ⟨fun f => ∀ w, p.Tells w.2 → p.Tells (f w).2, True⟩
  good _ := True
  fine _ := True
  raises _ := True

theorem upholds_telling (p : Platform S W H) : p.recorded.Upholds p.telling where
  enter _ _ _ := trivial
  attached _ _ _ _ := trivial
  invoke hook _ ctx _ := by
    have hinvoke : ((p.invoke hook ctx).beside : Task (W × List (Mark S H)) _).Keeps
        p.telling.manner fun answer => ∀ Q, (p.invoke hook ctx).Keeps .free Q → Q answer :=
      (Task.keeps_all _).beside (fun _ _ _ => id) fun _ => trivial
    refine hinvoke.bind fun answer hanswer => ?_
    refine (Task.Keeps.change (Q := fun _ => True) (fun w hw => ?_) trivial).bind fun _ _ => ?_
    · exact hw.append_fired hanswer
    · refine .done ⟨trivial, ?_⟩
      cases answer.1 <;> trivial

theorem suits_telling (p : Platform S W H) (inst : Instance K V W H) (place : Nat) :
    (inst.recorded place).Suits p.telling where
  hooks _ _ := trivial
  emits event w hw := by
    have hemit : (Observer.emit (inst.recorded place).observers event w).2 =
        w.2 ++ [.event event] :=
      congrArg Prod.snd (Observer.emit_recorded place inst.observers event w.1 w.2)
    rw [hemit]
    exact hw.append_event event

end Platform

/-- The record of a call tells what its hooks did. -/
theorem Instance.tells_record (p : Platform S W H) (inst : Instance K V W H) (place : Nat)
    (setting : Setting S W) : p.Tells (inst.record p place setting) := by
  have hbody : ∀ call, ((inst.recorded place).runAs p.recorded call setting.input
      setting.deps).Keeps p.telling.manner fun _ => True := fun call =>
    p.upholds_telling.runAs (p.suits_telling inst place) (fun _ => id) (fun _ _ _ => id) trivial
  have hlook : (Task.look : Task (W × List (Mark S H)) _).Keeps p.telling.manner fun _ => True :=
    .look trivial (fun _ => id) fun _ => trivial
  have hrun := hlook.bind fun w _ => hbody (p.recorded.nextId w)
  rw [← Instance.run_eq_look] at hrun
  have hothers : ∀ f ∈ setting.others.map (Prod.map · id), ∀ w : W × List (Mark S H),
      p.Tells w.2 → p.Tells (f w).2 := by
    intro f hf w hw
    obtain ⟨g, -, rfl⟩ := List.mem_map.mp hf
    exact hw
  have hempty : p.Tells [] := fun firing hfiring => absurd hfiring List.not_mem_nil
  exact hrun.world (P := fun w : W × List (Mark S H) => p.Tells w.2) (fun _ hf => hf) hothers hempty

theorem Instance.does_of_record_eq {p : Platform S W H} {inst : Instance K V W H}
    {setting : Setting S W} {visits : List (Visit S H)}
    (hrecord : ∀ place, inst.record p place setting = inst.marksOf p setting visits)
    {visit : Visit S H} (hvisit : visit ∈ visits) {firing : Firing S H}
    (hfiring : firing ∈ visit.firings) : p.Does firing := by
  have htells := inst.tells_record p 0 setting
  rw [hrecord, Instance.marksOf] at htells
  refine htells firing (List.mem_append_left _ (List.mem_cons_of_mem _ ?_))
  exact List.mem_flatMap.mpr
    ⟨visit, hvisit, List.mem_cons_of_mem _ (List.mem_map_of_mem hfiring)⟩

theorem Firing.interrupt?_eq_some_iff (firing : Firing S H) {interrupt : Interrupt} :
    firing.interrupt? = some interrupt ↔ firing.result = .error interrupt := by
  unfold Firing.interrupt?
  cases firing.result <;> simp

theorem Fires.exists_eq_of_singleton {hook : HookBinding H} {ctx after : Context S H}
    {firings : List (Firing S H)} {result : Except Interrupt Unit}
    (h : Fires [hook] ctx firings result after) :
    ∃ changes, firings = [⟨hook, ctx, result, changes⟩] ∧ after = ctx.apply changes := by
  cases h with
  | @passed _ _ _ _ changes _ _ hrest =>
    cases hrest
    exact ⟨changes, rfl, rfl⟩
  | stopped _ _ _ changes interrupt => exact ⟨changes, rfl, rfl⟩

section Walks

variable {p : Platform S W H} {plan : Plan} {hooks : HookMap H} {phase : Phase} {stage : Stage}
  {rest : List (Phase × Stage)} {opened : List Bracket} {ctx : Context S H}
  {visits : List (Visit S H)} {walked : Instance.Walked S H} {hook : HookBinding H}
  {changes : Changes S H}

theorem Walks.eq_of_nil (h : Walks plan hooks [] opened ctx visits walked) :
    visits = [] ∧ walked = ⟨.ok (), opened, ctx⟩ := by
  cases h
  exact ⟨rfl, rfl⟩

/-- A walk that enters a stage with a single hook, which returns at once. -/
theorem Walks.exists_later (h : Walks plan hooks ((phase, stage) :: rest) opened ctx visits walked)
    (hdoes : ∀ visit ∈ visits, ∀ firing ∈ visit.firings, p.Does firing)
    (hresolve : hooks.resolve stage ctx.scope ctx.attached = [hook])
    (hinvoke : p.invoke hook (ctx.enter stage) = .done (.ok (), changes)) :
    ∃ later, visits = ⟨phase, stage, [⟨hook, ctx.enter stage, .ok (), changes⟩]⟩ :: later ∧
      Walks plan hooks rest (Instance.enterBrackets plan stage opened)
        ((ctx.enter stage).apply changes) later walked := by
  have hkeeps : (p.invoke hook (ctx.enter stage)).Keeps .free (· = (.ok (), changes)) := by
    rw [hinvoke]
    exact .done rfl
  cases h with
  | @passed visit _ _ _ _ later _ hvisit hrest =>
    rw [Visit.Happens, hresolve] at hvisit
    obtain ⟨made, hfirings, rfl⟩ := hvisit.exists_eq_of_singleton
    have hmade := hdoes visit List.mem_cons_self _ (hfirings ▸ List.mem_singleton_self _) _ hkeeps
    obtain ⟨-, rfl⟩ := Prod.mk.inj hmade
    exact ⟨later, by rw [← hfirings], hrest⟩
  | @stopped visit _ _ _ _ interrupt hvisit =>
    rw [Visit.Happens, hresolve] at hvisit
    obtain ⟨made, hfirings, -⟩ := hvisit.exists_eq_of_singleton
    have hmade := hdoes visit List.mem_cons_self _ (hfirings ▸ List.mem_singleton_self _) _ hkeeps
    cases hmade

/-- A walk that enters a stage with a single hook, which interrupts at once. -/
theorem Walks.eq_of_interrupt
    (h : Walks plan hooks ((phase, stage) :: rest) opened ctx visits walked)
    (hdoes : ∀ visit ∈ visits, ∀ firing ∈ visit.firings, p.Does firing)
    (hresolve : hooks.resolve stage ctx.scope ctx.attached = [hook]) {interrupt : Interrupt}
    (hinvoke : p.invoke hook (ctx.enter stage) = .done (.error interrupt, changes)) :
    visits = [⟨phase, stage, [⟨hook, ctx.enter stage, .error interrupt, changes⟩]⟩] ∧
      walked.result = .error interrupt := by
  have hkeeps : (p.invoke hook (ctx.enter stage)).Keeps .free
      (· = (.error interrupt, changes)) := by
    rw [hinvoke]
    exact .done rfl
  cases h with
  | @passed visit _ _ _ _ _ _ hvisit _ =>
    rw [Visit.Happens, hresolve] at hvisit
    obtain ⟨made, hfirings, -⟩ := hvisit.exists_eq_of_singleton
    have hmade := hdoes visit List.mem_cons_self _ (hfirings ▸ List.mem_singleton_self _) _ hkeeps
    cases hmade
  | @stopped visit _ _ _ _ other hvisit =>
    rw [Visit.Happens, hresolve] at hvisit
    obtain ⟨made, hfirings, -⟩ := hvisit.exists_eq_of_singleton
    have hmade := hdoes visit List.mem_cons_self _ (hfirings ▸ List.mem_singleton_self _) _ hkeeps
    obtain ⟨hresult, rfl⟩ := Prod.mk.inj hmade
    refine ⟨?_, hresult⟩
    rw [← hresult, ← hfirings]

end Walks

/-! ### Terms along a walk -/

section Terms

variable {p : Platform S W H} {terms : Terms S W H}

theorem Fires.upheld (h : p.Upholds terms) {hooks : List (HookBinding H)}
    {ctx after : Context S H} {firings : List (Firing S H)} {result : Except Interrupt Unit}
    (hfires : Fires hooks ctx firings result after) (hdoes : ∀ firing ∈ firings, p.Does firing)
    (hgood : ∀ hook ∈ hooks, terms.good hook) (hctx : terms.fine ctx) :
    terms.fine after ∧ ∀ firing ∈ firings, terms.good firing.hook := by
  induction hfires with
  | done => exact ⟨hctx, List.forall_mem_nil _⟩
  | @passed hook _ ctx _ _ _ _ _ ih =>
    obtain ⟨hfirst, hdoes⟩ := List.forall_mem_cons.mp hdoes
    obtain ⟨hhook, hgood⟩ := List.forall_mem_cons.mp hgood
    have hnext := hfirst _ (h.invoke hook hhook ctx hctx).free
    obtain ⟨hafter, hrest⟩ := ih hdoes hgood hnext.1
    exact ⟨hafter, List.forall_mem_cons.mpr ⟨hhook, hrest⟩⟩
  | stopped hook _ ctx _ _ =>
    have hhook := hgood hook List.mem_cons_self
    have hnext := hdoes _ List.mem_cons_self _ (h.invoke hook hhook ctx hctx).free
    exact ⟨hnext.1, List.forall_mem_singleton.mpr hhook⟩

/-- Along visits every context is fine, and only hooks run that may run on these terms. -/
theorem Proceeds.upheld (h : p.Upholds terms) {hooks : HookMap H} {ctx after : Context S H}
    {visits : List (Visit S H)} (hproceeds : Proceeds hooks ctx visits after)
    (hdoes : ∀ visit ∈ visits, ∀ firing ∈ visit.firings, p.Does firing)
    (hstatic : ∀ visit ∈ visits, ∀ hook ∈ hooks.bindings, hook.stage = visit.stage →
      terms.good hook) (hctx : terms.fine ctx) :
    ∀ visit ∈ visits, (∃ seen result next, visit.Happens hooks seen result next ∧
      terms.fine seen) ∧ ∀ firing ∈ visit.firings, terms.good firing.hook := by
  induction hproceeds with
  | done => exact List.forall_mem_nil _
  | @next visit ctx _ _ _ _ hvisit _ ih =>
    obtain ⟨hfirst, hdoes⟩ := List.forall_mem_cons.mp hdoes
    obtain ⟨hhere, hstatic⟩ := List.forall_mem_cons.mp hstatic
    have hgood : ∀ hook ∈ hooks.resolve visit.stage ctx.scope ctx.attached, terms.good hook := by
      intro hook hhook
      rcases HookMap.mem_of_mem_resolve hhook with hbound | hattached
      · have heligible := ((hooks.stablySorts_resolve _ _ _).mem_iff hook).mp hhook
        exact hhere hook hbound (of_decide_eq_true (List.mem_filter.mp heligible).2).1
      · exact h.attached ctx hctx hook hattached
    obtain ⟨hafter, hfired⟩ := Fires.upheld h hvisit hfirst hgood (h.enter ctx hctx visit.stage)
    exact List.forall_mem_cons.mpr ⟨⟨⟨_, _, _, hvisit, hctx⟩, hfired⟩, ih hdoes hstatic hafter⟩

theorem Proceeds.good (h : p.Upholds terms) {hooks : HookMap H} {ctx after : Context S H}
    {visits : List (Visit S H)} (hproceeds : Proceeds hooks ctx visits after)
    (hdoes : ∀ visit ∈ visits, ∀ firing ∈ visit.firings, p.Does firing)
    (hstatic : ∀ visit ∈ visits, ∀ hook ∈ hooks.bindings, hook.stage = visit.stage →
      terms.good hook) (hctx : terms.fine ctx) :
    ∀ visit ∈ visits, ∀ firing ∈ visit.firings, terms.good firing.hook :=
  fun visit hvisit => (hproceeds.upheld h hdoes hstatic hctx visit hvisit).2

end Terms

def Passed (stage : Stage) (marks : List (Mark S H)) : Prop :=
  (∃ flow call phase, .event (.entered flow call phase stage) ∈ marks) ∧
    ∀ firing, .fired firing ∈ marks → firing.seen.stage = some stage → firing.Passes

theorem fired_mem_marksOf_iff {p : Platform S W H} {inst : Instance K V W H}
    {setting : Setting S W} {visits : List (Visit S H)} {firing : Firing S H} :
    .fired firing ∈ inst.marksOf p setting visits ↔ ∃ visit ∈ visits, firing ∈ visit.firings := by
  simp [Instance.marksOf, Visit.marks]

theorem entered_mem_marksOf {p : Platform S W H} {inst : Instance K V W H}
    {setting : Setting S W} {visits : List (Visit S H)} {visit : Visit S H} (h : visit ∈ visits) :
    .event (visit.event inst.name (p.nextId setting.world)) ∈ inst.marksOf p setting visits := by
  simp only [Instance.marksOf, List.cons_append, List.mem_cons, List.mem_append, List.mem_flatMap]
  exact .inr (.inl ⟨visit, h, List.mem_cons_self⟩)

theorem exists_visit_of_entered {p : Platform S W H} {inst : Instance K V W H}
    {setting : Setting S W} {visits : List (Visit S H)} {flow call : String} {phase : Phase}
    {stage : Stage} (h : .event (.entered flow call phase stage) ∈ inst.marksOf p setting visits) :
    ∃ visit ∈ visits, visit.stage = stage := by
  rw [Instance.marksOf, List.cons_append] at h
  rcases List.mem_cons.mp h with hstart | h
  · cases hstart
  rcases List.mem_append.mp h with hvisited | hend
  · obtain ⟨visit, hvisit, hmark⟩ := List.mem_flatMap.mp hvisited
    rcases List.mem_cons.mp hmark with hevent | hfired
    · cases hevent
      exact ⟨visit, hvisit, rfl⟩
    · obtain ⟨_, -, hfired⟩ := List.mem_map.mp hfired
      cases hfired
  · have hfinal := List.mem_singleton.mp hend
    cases houtcome : inst.outcome p setting <;> rw [houtcome] at hfinal <;> cases hfinal

namespace History

variable {p : Platform S W H} {inst : Instance K V W H} {setting : Setting S W}

theorem stage_seen (history : History p inst setting) {visit : Visit S H}
    (hvisit : visit ∈ history.visits ++ history.closing) {firing : Firing S H}
    (hfiring : firing ∈ visit.firings) : firing.seen.stage = some visit.stage := by
  obtain ⟨before, later, hsplit⟩ := List.append_of_mem hvisit
  obtain ⟨seen, result, next, hhappens, -⟩ := history.proceeds.exists_happens hsplit
  exact hhappens.ordered.seen firing hfiring

theorem stage_hook (history : History p inst setting) {visit : Visit S H}
    (hvisit : visit ∈ history.visits ++ history.closing) {firing : Firing S H}
    (hfiring : firing ∈ visit.firings) : firing.hook.stage = visit.stage := by
  obtain ⟨before, later, hsplit⟩ := List.append_of_mem hvisit
  obtain ⟨seen, result, next, hhappens, -⟩ := history.proceeds.exists_happens hsplit
  exact hhappens.ordered.stage_eq hfiring

/-- Some hook of the walk has raised the fault that a call ends with. -/
theorem exists_raised (history : History p inst setting) (hplan : inst.plan.WellFormed)
    {fault : FlowFault} (h : inst.outcome p setting = .error fault) :
    ∃ visit ∈ history.visits, ∃ firing ∈ visit.firings,
      firing.result = .error (.fault fault) := by
  rw [history.outcome_eq_walk hplan, history.result_eq] at h
  cases hfirst : firstInterrupt? history.visits with
  | none =>
    rw [hfirst] at h
    cases h
  | some interrupt =>
    obtain ⟨firing, hfiring, hstop⟩ := List.exists_of_findSome?_eq_some hfirst
    obtain ⟨visit, hvisit, hfiring⟩ := List.mem_flatMap.mp hfiring
    have hresult := firing.interrupt?_eq_some_iff.mp hstop
    rw [hfirst] at h
    cases interrupt with
    | signal signal => cases h
    | fault other =>
      cases h
      exact ⟨visit, hvisit, firing, hfiring, hresult⟩

/-- A plan visits a stage once at most, so that the record tells whether the visit passed. -/
theorem passed_iff (history : History p inst setting) (hplan : inst.plan.WellFormed)
    {visit : Visit S H} (hvisit : visit ∈ history.visits ++ history.closing) :
    Passed visit.stage (inst.marksOf p setting (history.visits ++ history.closing)) ↔
      visit.Passes := by
  have hunique := List.inj_on_of_nodup_map (history.stages_nodup hplan)
  constructor
  · rintro ⟨-, hpasses⟩ firing hfiring
    exact hpasses firing (fired_mem_marksOf_iff.mpr ⟨visit, hvisit, hfiring⟩)
      (history.stage_seen hvisit hfiring)
  · intro hpasses
    refine ⟨⟨_, _, _, entered_mem_marksOf hvisit⟩, fun firing hfiring hstage => ?_⟩
    obtain ⟨other, hother, hmem⟩ := fired_mem_marksOf_iff.mp hfiring
    have hsame : other.stage = visit.stage :=
      Option.some.inj ((history.stage_seen hother hmem).symm.trans hstage)
    rw [hunique hother hvisit hsame] at hmem
    exact hpasses firing hmem

end History

end StagedFlow
