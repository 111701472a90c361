import StagedFlow.Proofs.Dispatching
import StagedFlow.Proofs.Interleaving
import StagedFlow.Proofs.Keeping

/-!
# Calls under way

What a call in a pool has left in its record so far is the first part of the record of a whole call,
among whatever the others do to the world. So what holds of all records of whole calls, and of all
their first parts, holds of the calls of a pool at any time.
-/

namespace StagedFlow

variable {K : Type} {V : K → Type} {S W H : Type}

/-- Recorded calls add to their records and do nothing else to them. -/
def Terms.growing : Terms S (W × List (Mark S H)) H where
  manner := ⟨fun change => ∀ w, w.2 <+: (change w).2, True⟩
  good _ := True
  fine _ := True
  raises _ := True

theorem Platform.upholds_growing (p : Platform S W H) :
    p.recorded.Upholds (.growing : Terms S (W × List (Mark S H)) H) where
  enter _ _ _ := trivial
  attached _ _ _ _ := trivial
  invoke hook _ ctx _ := by
    have hinvoke : ((p.invoke hook ctx).beside : Task (W × List (Mark S H)) _).Keeps
        Terms.growing.manner fun _ => True :=
      (Task.keeps_free _ fun _ => trivial).beside (fun _ _ w => List.prefix_refl w.2)
        fun _ => trivial
    refine hinvoke.bind fun answer _ => ?_
    have hwrite : (Task.change (Mark.fired ⟨hook, ctx, answer.1, answer.2⟩).write :
        Task (W × List (Mark S H)) Unit).Keeps Terms.growing.manner fun _ => True := by
      refine .change ?_ trivial
      exact fun w => List.prefix_append w.2 _
    refine hwrite.bind fun _ _ => .done ⟨trivial, ?_⟩
    cases answer.1 <;> trivial

theorem Instance.keeps_growing (p : Platform S W H) (inst : Instance K V W H) (place : Nat)
    (input : Json) (deps : S) :
    ((inst.recorded place).run p.recorded input deps).Keeps
      (Terms.growing : Terms S (W × List (Mark S H)) H).manner fun _ => True := by
  have hsuits : (inst.recorded place).Suits (.growing : Terms S (W × List (Mark S H)) H) := by
    refine ⟨fun _ _ => trivial, fun event w => ?_⟩
    have hemit : (Observer.emit (inst.recorded place).observers event w).2 =
        w.2 ++ [.event event] :=
      congrArg Prod.snd (Observer.emit_recorded place inst.observers event w.1 w.2)
    rw [hemit]
    exact List.prefix_append w.2 _
  have hlook : (Task.look : Task (W × List (Mark S H)) _).Keeps
      (Terms.growing : Terms S (W × List (Mark S H)) H).manner fun _ => True := by
    refine .look trivial ?_ fun _ => trivial
    exact fun w => List.prefix_refl w.2
  rw [Instance.run_eq_look]
  exact hlook.bind fun w _ => p.upholds_growing.runAs hsuits (fun w => List.prefix_refl w.2)
    (fun _ _ w => List.prefix_refl w.2) trivial

/-- A call of a pool is on its way through a whole call, whose record starts with what the call has
left in its own. -/
theorem Pool.exists_setting {p : Platform S W H} {inst : Instance K V W H} {place : Nat}
    {input : Json} {deps : S}
    {tasks : List (Task (W × List (Mark S H)) (Except FlowFault Outcome))} {i : Nat}
    (h : tasks[i]? = some ((inst.recorded place).run p.recorded input deps)) (start : W)
    (schedule : List (Step W)) {party : Party W (List (Mark S H)) (Except FlowFault Outcome)}
    (hparty : ((launch tasks [] start).run schedule).parties[i]? = some party) :
    ∃ setting : Setting S W, setting.input = input ∧ setting.deps = deps ∧
      party.record <+: inst.record p place setting ∧
      ∀ outcome, party.Ends outcome →
        outcome = inst.outcome p setting ∧ party.record = inst.record p place setting := by
  obtain ⟨first, others, hwhole⟩ := continues h schedule hparty start
  obtain ⟨hvalue, hrecord⟩ := hwhole []
  rw [List.append_nil] at hvalue hrecord
  let setting : Setting S W := ⟨input, deps, first, others⟩
  have hrun := inst.amid_run_recorded p place setting []
  have houtcome : (party.task.amid [] (start, party.record)).value = inst.outcome p setting :=
    hvalue.symm.trans (congrArg Task.Ending.value hrun)
  have hmarks : (party.task.amid [] (start, party.record)).world.2 =
      inst.record p place setting := hrecord.symm
  obtain ⟨later, hlater, hgrows⟩ := exists_run
    (P := fun party => party.task.Keeps (Terms.growing : Terms S (W × List (Mark S H)) H).manner
      fun _ => True) (fun party w hkeeps => hkeeps.poll (w, party.record))
    (getElem?_launch h) (inst.keeps_growing p place input deps) schedule
  cases hparty.symm.trans hlater
  refine ⟨setting, rfl, rfl, ?_, fun outcome hends => ?_⟩
  · rw [← hmarks]
    have hself : party.record <+: (start, party.record).2 := List.prefix_refl party.record
    exact hgrows.world (P := fun w => party.record <+: w.2)
      (fun change hchange w hw => hw.trans (hchange w)) (List.forall_mem_nil _) hself
  · rw [show party.task = .done outcome from hends] at houtcome hmarks
    exact ⟨houtcome, hmarks⟩

end StagedFlow
