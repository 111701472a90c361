import StagedFlow.Proofs.Events

/-!
# How a call ends

The outcome of a call of a validated plan is that of its walk. Brackets are closed in between, on
the same context, but either there is nothing to close or the outcome no longer depends on the
context. Hence hooks that only run while brackets are closed have no say in it.
-/

namespace StagedFlow

variable {K : Type} {V : K → Type} {S W H : Type}

def firstInterrupt? (visits : List (Visit S H)) : Option Interrupt :=
  (visits.flatMap Visit.firings).findSome? Firing.interrupt?

/-- The last output that was set during visits, unless it was taken away later. -/
def lastOutput? (visits : List (Visit S H)) : Option Json :=
  ((visits.flatMap Visit.changes).filterMap Changes.output).getLast?.getD none

theorem firstInterrupt?_eq_none_iff (visits : List (Visit S H)) :
    firstInterrupt? visits = none ↔ ∀ visit ∈ visits, visit.Passes := by
  simp only [firstInterrupt?, List.findSome?_eq_none_iff, List.mem_flatMap, ← Firing.passes_iff,
    Visit.Passes]
  exact ⟨fun h visit hvisit firing hfiring => h firing ⟨visit, hvisit, hfiring⟩,
    fun h firing ⟨visit, hvisit, hfiring⟩ => h visit hvisit firing hfiring⟩

namespace History

variable {p : Platform S W H} {inst : Instance K V W H} {setting : Setting S W}

/-- The result of the walk is its first interrupt. -/
theorem result_eq (history : History p inst setting) :
    (inst.walkOf p setting).value.result =
      match firstInterrupt? history.visits with
      | none => .ok ()
      | some interrupt => .error interrupt := by
  rw [history.walks.result_eq]
  rfl

theorem output_walk (history : History p inst setting) :
    (inst.walkOf p setting).value.context.output = lastOutput? history.visits := by
  rw [history.walks.proceeds.output_eq]
  rfl

/-- What happens after the walk does not count. -/
theorem outcome_eq_walk (history : History p inst setting) (hplan : inst.plan.WellFormed) :
    inst.outcome p setting = Instance.conclude (inst.walkOf p setting).value.result
      (inst.walkOf p setting).value.context.output := by
  rw [Instance.outcome_eq, history.result_eq]
  cases hstop : firstInterrupt? history.visits with
  | none =>
    have hnothing : history.closing = [] :=
      history.closing_eq_nil hplan ((firstInterrupt?_eq_none_iff _).mp hstop)
    have houtput := history.closes.proceeds.output_eq
    rw [hnothing] at houtput
    exact congrArg (Instance.conclude (.ok ())) houtput
  | some interrupt => cases interrupt <;> rfl

end History

/-- How a call of a validated plan ends that has made visits in its walk. -/
structure Instance.Ends (p : Platform S W H) (inst : Instance K V W H) (setting : Setting S W)
    (visits closing : List (Visit S H)) : Prop where
  record_eq : ∀ place, inst.record p place setting = inst.marksOf p setting (visits ++ closing)
  walk : UpToStop Visit.step Visit.Passes inst.plan.steps visits
  /-- A walk that nothing interrupts completes the call, and nothing is closed after it. -/
  completed : (∀ visit ∈ visits, visit.Passes) →
    inst.outcome p setting = .ok (.completed (lastOutput? visits)) ∧ closing = []
  /-- A signal becomes the outcome, with all that it carries. -/
  signalled : ∀ signal, firstInterrupt? visits = some (.signal signal) →
    inst.outcome p setting = .ok (match signal with
      | .respond value => .responded value
      | .next => .noMatch
      | .abort reason => .aborted reason
      | .fail reason => .failed reason
      | .handled => .handled)
  /-- A fault is returned as it is. -/
  failed : ∀ fault, firstInterrupt? visits = some (.fault fault) →
    inst.outcome p setting = .error fault
  /-- Only the hooks of the visited stages matter. -/
  alike : ∀ hooks : HookMap H,
    (∀ visit ∈ visits, hooks.hooksAt visit.stage = inst.hooks.hooksAt visit.stage) →
      (inst.withHooks hooks).outcome p setting = inst.outcome p setting

/-- **Cleanup never changes the result.** The walk of a call decides how the call ends. -/
theorem exists_ends (p : Platform S W H) (inst : Instance K V W H) (setting : Setting S W)
    (hplan : inst.plan.validate = .ok ()) :
    ∃ visits closing, inst.Ends p setting visits closing := by
  have hplan : inst.plan.WellFormed := (Plan.validate_eq_ok_iff inst.plan).mp hplan
  obtain ⟨history, hrecord⟩ := exists_history p inst setting
  have houtcome : inst.outcome p setting =
      Instance.conclude (match firstInterrupt? history.visits with
        | none => .ok ()
        | some interrupt => .error interrupt) (lastOutput? history.visits) := by
    rw [history.outcome_eq_walk hplan, history.result_eq, history.output_walk]
  refine ⟨history.visits, history.closing, ?_⟩
  constructor
  case record_eq => exact hrecord
  case walk => exact history.walks.upToStop
  case completed =>
    intro hpasses
    have hstop := (firstInterrupt?_eq_none_iff history.visits).mpr hpasses
    rw [houtcome, hstop]
    exact ⟨rfl, history.closing_eq_nil hplan hpasses⟩
  case signalled =>
    intro signal hstop
    rw [houtcome, hstop]
    cases signal <;> rfl
  case failed =>
    intro fault hstop
    rw [houtcome, hstop]
    rfl
  case alike =>
    intro hooks hagree
    obtain ⟨other, -⟩ := exists_history p (inst.withHooks hooks) setting
    rw [other.outcome_eq_walk hplan, history.outcome_eq_walk hplan,
      history.walkOf_withHooks hooks hagree]

/-- A call that a hook ends early, with both brackets open. -/
theorem exists_ends_crossed :
    Plan.crossed.validate = .ok () ∧
      ∃ visits closing,
        (Instance.crossed [.own "work" (some (.signal (.respond .null))),
          .own "unlock" none]).Ends .plain .plain visits closing :=
  ⟨by decide, exists_ends _ _ _ (by decide)⟩

end StagedFlow
