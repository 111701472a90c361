import StagedFlow.Proofs.History
import StagedFlow.Proofs.Plans

/-!
# The events of a call

An observer of a call of a validated plan sees its start, the stages of a first part of the plan,
the closing stages of the brackets that are pending then, and one end. The invariant behind it is
that the open brackets of a walk are those that are pending for the stages entered so far.
-/

namespace StagedFlow

variable {K : Type} {V : K → Type} {S W H : Type}

/-- The walk keeps open what is pending. -/
theorem Walks.opened_eq {plan : Plan} (hplan : plan.WellFormed) {hooks : HookMap H}
    {steps : List (Phase × Stage)} {opened : List Bracket} {ctx : Context S H}
    {visits : List (Visit S H)} {walked : Instance.Walked S H}
    (h : Walks plan hooks steps opened ctx visits walked) {entered : List Stage}
    (hsteps : entered ++ steps.map Prod.snd = plan.stages)
    (hopened : opened = plan.pending entered) :
    walked.opened = plan.pending (entered ++ visits.map Visit.stage) := by
  have hstep : ∀ {visit : Visit S H} {rest : List (Phase × Stage)} {entered : List Stage},
      entered ++ (visit.step :: rest).map Prod.snd = plan.stages →
        plan.pending (entered ++ [visit.stage]) =
          Instance.enterBrackets plan visit.stage (plan.pending entered) := by
    intro visit rest entered hsteps
    refine hplan.pending_append ⟨rest.map Prod.snd, ?_⟩
    rw [← hsteps, List.append_assoc]
    rfl
  induction h generalizing entered with
  | done => rw [hopened, List.map_nil, List.append_nil]
  | @passed visit rest _ _ _ _ _ _ _ ih =>
    have hnext : (entered ++ [visit.stage]) ++ rest.map Prod.snd = plan.stages := by
      rw [← hsteps, List.append_assoc]
      rfl
    have hwalked := ih hnext (by rw [hopened, hstep hsteps])
    rw [hwalked, List.append_assoc]
    rfl
  | stopped _ => rw [hopened, ← hstep hsteps]; rfl

/-- Each bracket is closed at its closing stage, in its phase. -/
theorem Closes.map_step {plan : Plan} {hooks : HookMap H} {brackets : List Bracket}
    {ctx after : Context S H} {visits : List (Visit S H)}
    (h : Closes plan hooks brackets ctx visits after) :
    visits.map Visit.step =
      brackets.map fun b => ((plan.phaseOf? b.release).getD .finalize, b.release) := by
  induction h with
  | done => rfl
  | next hstep _ _ ih => rw [List.map_cons, List.map_cons, hstep, ih]

theorem Visit.map_stage (visits : List (Visit S H)) :
    (visits.map Visit.step).map Prod.snd = visits.map Visit.stage := by
  rw [List.map_map]
  rfl

namespace History

variable {p : Platform S W H} {inst : Instance K V W H} {setting : Setting S W}

/-- The stages of the walk are a first part of the plan. -/
theorem stages_initial (history : History p inst setting) :
    history.visits.map Visit.stage <+: inst.plan.stages := by
  rw [← Plan.map_steps, ← Visit.map_stage]
  exact history.walks.upToStop.isPrefix.map Prod.snd

/-- After the walk, what is pending is closed. -/
theorem map_step_closing (history : History p inst setting) (hplan : inst.plan.WellFormed) :
    history.closing.map Visit.step =
      (inst.plan.pending (history.visits.map Visit.stage)).map fun b =>
        ((inst.plan.phaseOf? b.release).getD .finalize, b.release) := by
  have hopened : (inst.walkOf p setting).value.opened =
      inst.plan.pending ([] ++ history.visits.map Visit.stage) :=
    history.walks.opened_eq hplan (by rw [List.nil_append, Plan.map_steps]) rfl
  rw [history.closes.map_step, hopened, List.nil_append]

theorem map_stage_closing (history : History p inst setting) (hplan : inst.plan.WellFormed) :
    history.closing.map Visit.stage =
      (inst.plan.pending (history.visits.map Visit.stage)).map Bracket.release := by
  rw [← Visit.map_stage, history.map_step_closing hplan, List.map_map]
  rfl

theorem step_mem_of_mem_closing (history : History p inst setting) (hplan : inst.plan.WellFormed)
    {visit : Visit S H} (hvisit : visit ∈ history.closing) : visit.step ∈ inst.plan.steps := by
  have hmem : visit.step ∈ history.closing.map Visit.step := List.mem_map_of_mem hvisit
  rw [history.map_step_closing hplan] at hmem
  obtain ⟨b, hb, hstep⟩ := List.mem_map.mp hmem
  rw [← hstep]
  exact Plan.step_mem (hplan.released b (Plan.mem_pending.mp hb).1)

/-- A walk that nothing interrupts leaves nothing to close. -/
theorem closing_eq_nil (history : History p inst setting) (hplan : inst.plan.WellFormed)
    (hpasses : ∀ visit ∈ history.visits, visit.Passes) : history.closing = [] := by
  have hsteps := history.walks.upToStop.complete hpasses
  have hstages : history.visits.map Visit.stage = inst.plan.stages := by
    rw [← Visit.map_stage, hsteps, Plan.map_steps]
  have hclosing := history.map_stage_closing hplan
  rw [hstages, hplan.pending_stages] at hclosing
  exact List.map_eq_nil_iff.mp hclosing

end History

/-! ### What observers see -/

def Instance.eventsOf (p : Platform S W H) (inst : Instance K V W H) (setting : Setting S W)
    (visits : List (Visit S H)) : List FlowEvent :=
  let call := p.nextId setting.world
  .started inst.name call :: visits.map (Visit.event inst.name call) ++
    [Instance.finalEvent inst.name call (inst.outcome p setting)]

theorem Visit.events_marks (flow call : String) (visit : Visit S H) :
    (visit.marks flow call).filterMap Mark.event? = [visit.event flow call] := by
  have hfirings : (visit.firings.map Mark.fired).filterMap Mark.event? = [] := by
    rw [List.filterMap_map, List.filterMap_eq_nil_iff]
    exact fun _ _ => rfl
  rw [Visit.marks, List.filterMap_cons, hfirings]
  rfl

theorem Instance.events_marksOf (p : Platform S W H) (inst : Instance K V W H)
    (setting : Setting S W) (visits : List (Visit S H)) :
    (inst.marksOf p setting visits).filterMap Mark.event? = inst.eventsOf p setting visits := by
  have hvisits : (visits.flatMap (Visit.marks inst.name (p.nextId setting.world))).filterMap
      Mark.event? = visits.map (Visit.event inst.name (p.nextId setting.world)) := by
    rw [List.filterMap_flatMap, List.map_eq_flatMap]
    exact List.flatMap_congr fun visit _ => visit.events_marks _ _
  rw [Instance.marksOf, List.filterMap_append, List.filterMap_cons, hvisits]
  rfl

/-- What a call of a validated plan shows: the visits of its walk, and those that close brackets
afterwards. -/
structure Instance.Shows (p : Platform S W H) (inst : Instance K V W H) (setting : Setting S W)
    (visits closing : List (Visit S H)) : Prop where
  /-- The visits are recorded, each with the hooks that were invoked there. -/
  record_eq : ∀ place, inst.record p place setting = inst.marksOf p setting (visits ++ closing)
  /-- An observer at any place sees the start, the stages and the end. -/
  delivered_eq : ∀ place,
    inst.delivered p place setting = inst.eventsOf p setting (visits ++ closing)
  /-- The walk goes through the plan, up to and including the first stage that interrupts. -/
  walk : UpToStop Visit.step Visit.Passes inst.plan.steps visits
  /-- Then what is pending is closed. -/
  closing_eq : closing.map Visit.stage =
    (inst.plan.pending (visits.map Visit.stage)).map Bracket.release
  /-- A closing stage is entered in its own phase. -/
  phase : ∀ visit ∈ closing, visit.step ∈ inst.plan.steps
  /-- A closing stage is entered once if its bracket was opened, and not at all otherwise. -/
  once : ∀ b ∈ inst.plan.brackets, ((visits ++ closing).map Visit.stage).count b.release =
    if b.acquire ∈ (visits ++ closing).map Visit.stage then 1 else 0

/-- **Exact events, guaranteed release.** Every call of a validated plan shows a walk and the
closing of what it has left open, whatever its hooks do and whatever happens beside it. -/
theorem exists_shows (p : Platform S W H) (inst : Instance K V W H) (setting : Setting S W)
    (hplan : inst.plan.validate = .ok ()) :
    ∃ visits closing, inst.Shows p setting visits closing := by
  have hplan : inst.plan.WellFormed := (Plan.validate_eq_ok_iff inst.plan).mp hplan
  obtain ⟨history, hrecord⟩ := exists_history p inst setting
  have hclosing := history.map_stage_closing hplan
  refine ⟨history.visits, history.closing, ?_⟩
  constructor
  case record_eq => exact hrecord
  case delivered_eq =>
    intro place
    rw [Instance.delivered, hrecord, Instance.events_marksOf]
  case walk => exact history.walks.upToStop
  case closing_eq => exact hclosing
  case phase => exact fun visit hvisit => history.step_mem_of_mem_closing hplan hvisit
  case once =>
    intro b hb
    rw [List.map_append, hclosing]
    exact hplan.count_release history.stages_initial hb

/-- A platform on which a handler is what it interrupts its call with. A handler that does not
interrupt sets the output to the name of its hook. -/
def Platform.plain : Platform (Option String) Nat (Option Interrupt) where
  scope := id
  invoke hook :=
    match hook.handler with
    | none => HookM.setOutput (.str hook.name)
    | some interrupt => HookM.interrupt interrupt
  nextId w := toString w
  countCall w := w + 1
  retire _ := id

def Plan.crossed : Plan where
  pre := ["connect"]
  execute := ["lock", "work"]
  post := ["disconnect"]
  finalize := ["unlock"]
  brackets := [⟨"connect", "disconnect"⟩, ⟨"lock", "unlock"⟩]

def Instance.crossed (hooks : List (HookBinding (Option Interrupt))) :
    Instance Empty (fun _ => Unit) Nat (Option Interrupt) :=
  let token : FlowToken := ⟨"crossed", ⟨"demo", Plan.crossed.stages⟩⟩
  ⟨⟨token, Plan.crossed, .everyone, none, none, none, fun _ => true, [],
    fun _ => .ok ⟨[], .done (.ok ())⟩⟩, ⟨token, hooks⟩, []⟩

def Setting.plain : Setting (Option String) Nat := ⟨.null, none, 0, []⟩

theorem exists_shows_crossed :
    Plan.crossed.validate = .ok () ∧
      ∃ visits closing,
        (Instance.crossed [.own "work" (some (.signal .next))]).Shows .plain .plain visits
          closing :=
  ⟨by decide, exists_shows _ _ _ (by decide)⟩

end StagedFlow
