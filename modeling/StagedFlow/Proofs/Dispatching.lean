import StagedFlow.Flow.Dispatch
import StagedFlow.Proofs.Recording
import StagedFlow.Proofs.Sharing

/-!
# Which flow answers a request

A dispatch is told by the calls that it makes. `Dispatches` says, step by step, which calls a chain
makes and how the dispatch ends; the record of a dispatch is that of these calls, one after another.
-/

namespace StagedFlow

variable {K : Type} {V : K → Type} {S W H : Type}

/-! ### Calls add to their record

`Instance.record` is the record of a call that starts with an empty one. A call that finds earlier
entries leaves them, and adds the same.
-/

namespace Task

variable {M α β : Type}

/-- The first task goes as the second one goes, and adds to the record beside its world. What it
adds does not depend on the record, so that tasks can follow one another. -/
def Traces (traced : Task (W × List M) α) (plain : Task W α) : Prop :=
  ∀ others w, ∃ added, ∀ marks, traced.amid (others.map (Prod.map · id)) (w, marks) =
    (plain.amid others w).beside (marks ++ added)

namespace Traces

theorem done (a : α) : (Task.done a : Task (W × List M) α).Traces (.done a) :=
  fun _ _ => ⟨[], fun marks => by rw [List.append_nil]; rfl⟩

theorem bind {traced : Task (W × List M) α} {plain : Task W α}
    {tracedNext : α → Task (W × List M) β} {plainNext : α → Task W β} (h : traced.Traces plain)
    (hnext : ∀ a, (tracedNext a).Traces (plainNext a)) :
    (traced.bind tracedNext).Traces (plain.bind plainNext) := by
  intro others w
  obtain ⟨added, hfirst⟩ := h others w
  obtain ⟨more, hsecond⟩ := hnext (plain.amid others w).value (plain.amid others w).others
    (plain.amid others w).world
  refine ⟨added ++ more, fun marks => ?_⟩
  rw [amid_bind, amid_bind, hfirst, ← List.append_assoc]
  exact hsecond (marks ++ added)

/-- What is read of the world does not depend on the record. -/
theorem look {tracedNext : W × List M → Task (W × List M) β} {plainNext : W → Task W β}
    (hnext : ∀ w marks, (tracedNext (w, marks)) = tracedNext (w, []))
    (h : ∀ w, (tracedNext (w, [])).Traces (plainNext w)) :
    (Task.look.bind tracedNext).Traces (Task.look.bind plainNext) := by
  intro others w
  obtain ⟨added, hrest⟩ := h w others w
  refine ⟨added, fun marks => ?_⟩
  rw [amid_bind, amid_bind, amid_look, amid_look, hnext]
  exact hrest marks

theorem change (f : W → W) :
    (Task.change (Prod.map f id) : Task (W × List M) Unit).Traces (.change f) :=
  fun _ _ => ⟨[], fun marks => by rw [List.append_nil]; rfl⟩

end Traces

end Task

namespace Instance

variable (p : Platform S W H) (inst : Instance K V W H) (place : Nat)

theorem traces_emit (event : FlowEvent) :
    ((inst.recorded place).emit event : Task (W × List (Mark S H)) Unit).Traces
      (inst.emit event) :=
  fun others w => ⟨[.event event], inst.amid_emit_recorded place event others w⟩

theorem traces_runHooks (hooks : List (HookBinding H)) (ctx : Context S H) :
    (runHooks p.recorded hooks ctx).Traces (runHooks p hooks ctx) := by
  induction hooks generalizing ctx with
  | nil => exact .done _
  | cons hook rest ih =>
    have hinvoke : (p.recorded.invoke hook ctx).Traces (p.invoke hook ctx) := fun others w =>
      ⟨_, p.amid_invoke_recorded hook ctx others w⟩
    refine hinvoke.bind fun answer => ?_
    obtain ⟨result, changes⟩ := answer
    cases result with
    | ok => exact ih _
    | error interrupt => exact .done _

theorem traces_runStage (phase : Phase) (stage : Stage) (ctx : Context S H) :
    (runStage p.recorded (inst.recorded place) phase stage ctx).Traces
      (runStage p inst phase stage ctx) :=
  (inst.traces_emit place _).bind fun _ => traces_runHooks p _ _

theorem traces_walk (steps : List (Phase × Stage)) (opened : List Bracket) (ctx : Context S H) :
    (walk p.recorded (inst.recorded place) steps opened ctx).Traces
      (walk p inst steps opened ctx) := by
  induction steps generalizing opened ctx with
  | nil => exact .done _
  | cons step rest ih =>
    refine (inst.traces_runStage p place _ _ ctx).bind fun answer => ?_
    obtain ⟨result, after⟩ := answer
    cases result with
    | ok => exact ih _ _
    | error interrupt => exact .done _

theorem traces_closeAll (brackets : List Bracket) (ctx : Context S H) :
    (closeAll p.recorded (inst.recorded place) brackets ctx).Traces
      (closeAll p inst brackets ctx) := by
  induction brackets generalizing ctx with
  | nil => exact .done _
  | cons bracket rest ih =>
    exact (inst.traces_runStage p place _ _ ctx).bind fun answer => ih answer.2

theorem traces_run (input : Json) (deps : S) :
    ((inst.recorded place).run p.recorded input deps).Traces (inst.run p input deps) := by
  refine .look (fun _ _ => rfl) fun w => ?_
  refine (Task.Traces.change p.countCall).bind fun _ => ?_
  refine (inst.traces_emit place _).bind fun _ => ?_
  refine (inst.traces_walk p place _ _ _).bind fun walked => ?_
  refine (inst.traces_closeAll p place _ _).bind fun ctx => ?_
  refine (inst.traces_emit place _).bind fun _ => ?_
  exact (Task.Traces.change (p.retire ctx.state)).bind fun _ => .done _

/-- A call that finds a record adds its own to it. -/
theorem amid_run_recorded (setting : Setting S W) (marks : List (Mark S H)) :
    ((inst.recorded place).run p.recorded setting.input setting.deps).amid
        (setting.others.map (Prod.map · id)) (setting.world, marks) =
      ((inst.run p setting.input setting.deps).amid setting.others setting.world).beside
        (marks ++ inst.record p place setting) := by
  obtain ⟨added, hrun⟩ :=
    inst.traces_run p place setting.input setting.deps setting.others setting.world
  have hadded : inst.record p place setting = added :=
    congrArg (fun ending => ending.world.2) (hrun [])
  rw [hadded, hrun]

end Instance

inductive Answers : Except FlowFault Outcome → Response → Prop where
  | responded (body : Json) : Answers (.ok (.responded body)) (.reply 200 (some body))
  | completed (body : Json) : Answers (.ok (.completed (some body))) (.reply 200 (some body))
  | empty : Answers (.ok (.completed none)) (.reply 204 none)
  | aborted (reason : Option String) : Answers (.ok (.aborted reason))
      (.reply 500 (some (.obj [("error", .str "Internal Server Error")])))
  | failed (reason : Option String) : Answers (.ok (.failed reason))
      (.reply 500 (some (.obj [("error", .str "Internal Server Error")])))
  | handled : Answers (.ok .handled) .handled
  | fault (fault : FlowFault) : Answers (.error fault)
      (.reply fault.status (some (.obj
        [("error", .str fault.publicMessage), ("code", .int fault.code)])))

/-- Every end of a call has one answer, or passes the request on. -/
theorem answers_or_noMatch (outcome : Except FlowFault Outcome) :
    (∃ response, Response.ofCall? outcome = some response ∧ Answers outcome response) ∨
      Response.ofCall? outcome = none ∧ outcome = .ok .noMatch := by
  cases outcome with
  | error fault => exact .inl ⟨_, rfl, .fault fault⟩
  | ok outcome =>
    cases outcome with
    | responded body => exact .inl ⟨_, rfl, .responded body⟩
    | completed output =>
      cases output with
      | none => exact .inl ⟨_, rfl, .empty⟩
      | some body => exact .inl ⟨_, rfl, .completed body⟩
    | noMatch => exact .inr ⟨rfl, rfl⟩
    | aborted reason => exact .inl ⟨_, rfl, .aborted reason⟩
    | failed reason => exact .inl ⟨_, rfl, .failed reason⟩
    | handled => exact .inl ⟨_, rfl, .handled⟩

theorem Answers.ne_noMatch {outcome : Except FlowFault Outcome} {response : Response}
    (h : Answers outcome response) : outcome ≠ .ok .noMatch := by
  rintro rfl
  cases h

theorem Answers.ne_unmatched {outcome : Except FlowFault Outcome} {response : Response}
    (h : Answers outcome response) : response ≠ .unmatched := by
  rintro rfl
  cases h

/-! ### Dispatches -/

structure Call (K : Type) (V : K → Type) (S W H : Type) where
  inst : Instance K V W H
  setting : Setting S W

namespace Call

variable (p : Platform S W H) (call : Call K V S W H)

def ending : Task.Ending W (Except FlowFault Outcome) :=
  (call.inst.run p call.setting.input call.setting.deps).amid call.setting.others
    call.setting.world

def Passes : Prop := (call.ending p).value = .ok .noMatch

end Call

def accepting (request : Request) (chain : List (Instance K V W H)) : List (Instance K V W H) :=
  chain.filter fun inst => inst.canActivate request

theorem accepting_cons_of_active {request : Request} {inst : Instance K V W H}
    (h : inst.canActivate request = true) (rest : List (Instance K V W H)) :
    accepting request (inst :: rest) = inst :: accepting request rest :=
  List.filter_cons_of_pos (p := fun inst : Instance K V W H => inst.canActivate request) h

theorem accepting_cons_of_inactive {request : Request} {inst : Instance K V W H}
    (h : inst.canActivate request = false) (rest : List (Instance K V W H)) :
    accepting request (inst :: rest) = accepting request rest :=
  List.filter_cons_of_neg (p := fun inst : Instance K V W H => inst.canActivate request)
    (by simp [h])

/-- A request goes along a chain: which calls are made, and how it ends. -/
inductive Dispatches (p : Platform S W H) (request : Request) (deps : S) :
    List (Instance K V W H) → List (W → W) → W → List (Call K V S W H) →
      Task.Ending W Response → Prop where
  | unmatched (others : List (W → W)) (w : W) :
      Dispatches p request deps [] others w [] ⟨.unmatched, others, w⟩
  | skipped {inst : Instance K V W H} {rest : List (Instance K V W H)} {others : List (W → W)}
      {w : W} {calls : List (Call K V S W H)} {ending : Task.Ending W Response}
      (hinactive : inst.canActivate request = false)
      (hrest : Dispatches p request deps rest others w calls ending) :
      Dispatches p request deps (inst :: rest) others w calls ending
  | refused {inst : Instance K V W H} {rest : List (Instance K V W H)} {others : List (W → W)}
      {w : W} (hactive : inst.canActivate request = true)
      (haccess : inst.definition.access = .authorized)
      (hheader : request.header? "authorization" = none) :
      Dispatches p request deps (inst :: rest) others w []
        ⟨.reply 401 (some (.obj [("error", .str "Unauthorized")])), others, w⟩
  | decided {inst : Instance K V W H} {rest : List (Instance K V W H)} {others : List (W → W)}
      {w : W} {call : Call K V S W H} {response : Response}
      (hactive : inst.canActivate request = true)
      (hadmitted : ¬(inst.definition.access = .authorized ∧
        request.header? "authorization" = none))
      (hcall : call = ⟨inst, request.body, deps, w, others⟩)
      (hanswer : Answers (call.ending p).value response) :
      Dispatches p request deps (inst :: rest) others w [call]
        ⟨response, (call.ending p).others, (call.ending p).world⟩
  | passed {inst : Instance K V W H} {rest : List (Instance K V W H)} {others : List (W → W)}
      {w : W} {call : Call K V S W H} {calls : List (Call K V S W H)}
      {ending : Task.Ending W Response}
      (hactive : inst.canActivate request = true)
      (hadmitted : ¬(inst.definition.access = .authorized ∧
        request.header? "authorization" = none))
      (hcall : call = ⟨inst, request.body, deps, w, others⟩) (hpasses : call.Passes p)
      (hrest : Dispatches p request deps rest (call.ending p).others (call.ending p).world calls
        ending) :
      Dispatches p request deps (inst :: rest) others w (call :: calls) ending

theorem Instance.refuses_iff (inst : Instance K V W H) (request : Request) :
    inst.refuses request = true ↔
      inst.definition.access = .authorized ∧ request.header? "authorization" = none := by
  rw [Instance.refuses, Bool.and_eq_true, beq_iff_eq, Option.isNone_iff_eq_none]

def Instance.called (inst : Instance K V W H) (request : Request) (deps : S)
    (others : List (W → W)) (w : W) : Call K V S W H :=
  ⟨inst, request.body, deps, w, others⟩

theorem Instance.amid_run_called (p : Platform S W H) (inst : Instance K V W H) (request : Request)
    (deps : S) (others : List (W → W)) (w : W) :
    (inst.run p request.body deps).amid others w =
      (inst.called request deps others w).ending p := rfl

theorem Instance.amid_run_called_recorded (p : Platform S W H) (inst : Instance K V W H)
    (place : Nat) (request : Request) (deps : S) (others : List (W → W)) (w : W)
    (marks : List (Mark S H)) :
    ((inst.recorded place).run p.recorded request.body deps).amid (others.map (Prod.map · id))
        (w, marks) =
      ((inst.called request deps others w).ending p).beside
        (marks ++ inst.record p place (inst.called request deps others w).setting) :=
  inst.amid_run_recorded p place (inst.called request deps others w).setting marks

section Steps

variable {p : Platform S W H} {request : Request} {deps : S} (inst : Instance K V W H)
  {rest : List (Instance K V W H)}

theorem dispatch_of_inactive (h : inst.canActivate request = false) :
    dispatch p request deps (inst :: rest) = dispatch p request deps rest := by
  rw [dispatch, h]
  rfl

theorem dispatch_of_refuses (hactive : inst.canActivate request = true)
    (h : inst.refuses request = true) :
    dispatch p request deps (inst :: rest) = .done .unauthorized := by
  rw [dispatch, hactive, h]
  rfl

theorem dispatch_of_admits (hactive : inst.canActivate request = true)
    (h : inst.refuses request = false) :
    dispatch p request deps (inst :: rest) = (inst.run p request.body deps).bind fun outcome =>
      match Response.ofCall? outcome with
      | some response => .done response
      | none => dispatch p request deps rest := by
  rw [dispatch, hactive, h]
  rfl

variable {others : List (W → W)} {w : W} {ending : Task.Ending W (Except FlowFault Outcome)}

theorem amid_dispatch_of_answer (hactive : inst.canActivate request = true)
    (h : inst.refuses request = false)
    (hrun : (inst.run p request.body deps).amid others w = ending) {response : Response}
    (hanswer : Response.ofCall? ending.value = some response) :
    (dispatch p request deps (inst :: rest)).amid others w =
      ⟨response, ending.others, ending.world⟩ := by
  rw [dispatch_of_admits inst hactive h, Task.amid_bind, hrun, hanswer]
  rfl

theorem amid_dispatch_of_pass (hactive : inst.canActivate request = true)
    (h : inst.refuses request = false)
    (hrun : (inst.run p request.body deps).amid others w = ending)
    (hpass : Response.ofCall? ending.value = none) :
    (dispatch p request deps (inst :: rest)).amid others w =
      (dispatch p request deps rest).amid ending.others ending.world := by
  rw [dispatch_of_admits inst hactive h, Task.amid_bind, hrun, hpass]

end Steps

/-- A dispatch goes along its chain with certain calls, and its record is that of these calls: it
does nothing else. -/
structure Told (p : Platform S W H) (request : Request) (deps : S)
    (chain : List (Instance K V W H)) (others : List (W → W)) (w : W)
    (calls : List (Call K V S W H)) : Prop where
  dispatches : Dispatches p request deps chain others w calls
    ((dispatch p request deps chain).amid others w)
  recorded : ∀ place marks, (dispatch p.recorded request deps (chain.map (·.recorded place))).amid
      (others.map (Prod.map · id)) (w, marks) =
    ((dispatch p request deps chain).amid others w).beside
      (marks ++ calls.flatMap fun call => call.inst.record p place call.setting)

namespace Told

variable {p : Platform S W H} {request : Request} {deps : S} {inst : Instance K V W H}
  {rest : List (Instance K V W H)} {others : List (W → W)} {w : W}
  {calls : List (Call K V S W H)}

theorem unmatched (p : Platform S W H) (request : Request) (deps : S) (others : List (W → W))
    (w : W) : Told p request deps ([] : List (Instance K V W H)) others w [] where
  dispatches := .unmatched others w
  recorded _ marks := by
    rw [List.flatMap_nil, List.append_nil]
    rfl

theorem skipped (hinactive : inst.canActivate request = false)
    (h : Told p request deps rest others w calls) :
    Told p request deps (inst :: rest) others w calls where
  dispatches := by
    rw [dispatch_of_inactive inst hinactive]
    exact .skipped hinactive h.dispatches
  recorded place marks := by
    rw [List.map_cons, dispatch_of_inactive (inst.recorded place) hinactive,
      dispatch_of_inactive inst hinactive]
    exact h.recorded place marks

theorem refused (hactive : inst.canActivate request = true) (h : inst.refuses request = true) :
    Told p request deps (inst :: rest) others w [] where
  dispatches := by
    rw [dispatch_of_refuses inst hactive h]
    obtain ⟨haccess, hheader⟩ := (inst.refuses_iff request).mp h
    exact .refused hactive haccess hheader
  recorded place marks := by
    rw [List.map_cons, dispatch_of_refuses (inst.recorded place) hactive h,
      dispatch_of_refuses inst hactive h, List.flatMap_nil, List.append_nil]
    rfl

theorem decided (hactive : inst.canActivate request = true) (h : inst.refuses request = false)
    {response : Response}
    (hanswer : Response.ofCall? ((inst.called request deps others w).ending p).value =
      some response)
    (hanswers : Answers ((inst.called request deps others w).ending p).value response) :
    Told p request deps (inst :: rest) others w [inst.called request deps others w] where
  dispatches := by
    rw [amid_dispatch_of_answer inst hactive h (inst.amid_run_called ..) hanswer]
    exact .decided hactive (mt (inst.refuses_iff request).mpr (by simp [h])) rfl hanswers
  recorded place marks := by
    rw [List.map_cons, amid_dispatch_of_answer inst hactive h (inst.amid_run_called ..) hanswer,
      amid_dispatch_of_answer (inst.recorded place) hactive h
        (inst.amid_run_called_recorded ..) hanswer,
      List.flatMap_singleton]
    rfl

theorem passed (hactive : inst.canActivate request = true) (h : inst.refuses request = false)
    (hpass : Response.ofCall? ((inst.called request deps others w).ending p).value = none)
    (hpasses : (inst.called request deps others w).Passes p)
    (hrest : Told p request deps rest ((inst.called request deps others w).ending p).others
      ((inst.called request deps others w).ending p).world calls) :
    Told p request deps (inst :: rest) others w (inst.called request deps others w :: calls) where
  dispatches := by
    rw [amid_dispatch_of_pass inst hactive h (inst.amid_run_called ..) hpass]
    exact .passed hactive (mt (inst.refuses_iff request).mpr (by simp [h])) rfl hpasses
      hrest.dispatches
  recorded place marks := by
    rw [List.map_cons, amid_dispatch_of_pass inst hactive h (inst.amid_run_called ..) hpass,
      amid_dispatch_of_pass (inst.recorded place) hactive h
        (inst.amid_run_called_recorded ..) hpass,
      List.flatMap_cons, ← List.append_assoc]
    exact hrest.recorded place _

end Told

/-- Every dispatch goes along its chain. -/
theorem exists_told (p : Platform S W H) (request : Request) (deps : S)
    (chain : List (Instance K V W H)) (others : List (W → W)) (w : W) :
    ∃ calls, Told p request deps chain others w calls := by
  induction chain generalizing others w with
  | nil => exact ⟨[], .unmatched p request deps others w⟩
  | cons inst rest ih =>
    cases hactive : inst.canActivate request with
    | false =>
      obtain ⟨calls, hcalls⟩ := ih others w
      exact ⟨calls, .skipped hactive hcalls⟩
    | true =>
      cases hrefuses : inst.refuses request with
      | true => exact ⟨[], .refused hactive hrefuses⟩
      | false =>
        let call := inst.called request deps others w
        rcases answers_or_noMatch (call.ending p).value with
          ⟨response, hanswer, hanswers⟩ | ⟨hpass, hpasses⟩
        · exact ⟨[call], .decided hactive hrefuses hanswer hanswers⟩
        · obtain ⟨calls, hcalls⟩ := ih (call.ending p).others (call.ending p).world
          exact ⟨call :: calls, .passed hactive hrefuses hpass hpasses hcalls⟩

namespace Dispatches

variable {p : Platform S W H} {request : Request} {deps : S} {chain : List (Instance K V W H)}
  {others : List (W → W)} {w : W} {calls : List (Call K V S W H)}
  {ending : Task.Ending W Response}

theorem isPrefix (h : Dispatches p request deps chain others w calls ending) :
    calls.map Call.inst <+: accepting request chain := by
  induction h with
  | unmatched => exact List.nil_prefix
  | skipped hinactive _ ih => rwa [accepting_cons_of_inactive hinactive]
  | refused => exact List.nil_prefix
  | decided hactive _ hcall _ =>
    subst hcall
    rw [accepting_cons_of_active hactive]
    exact List.cons_prefix_cons.mpr ⟨rfl, List.nil_prefix⟩
  | passed hactive _ hcall _ _ ih =>
    subst hcall
    rw [accepting_cons_of_active hactive]
    exact List.cons_prefix_cons.mpr ⟨rfl, ih⟩

/-- Every call is given the body of the request and the state of the caller. -/
theorem given (h : Dispatches p request deps chain others w calls ending) :
    ∀ call ∈ calls, call.setting.input = request.body ∧ call.setting.deps = deps := by
  induction h with
  | unmatched => exact List.forall_mem_nil _
  | skipped _ _ ih => exact ih
  | refused => exact List.forall_mem_nil _
  | decided _ _ hcall _ => exact List.forall_mem_singleton.mpr (hcall ▸ ⟨rfl, rfl⟩)
  | passed _ _ hcall _ _ ih => exact List.forall_mem_cons.mpr ⟨hcall ▸ ⟨rfl, rfl⟩, ih⟩

theorem passes (h : Dispatches p request deps chain others w calls ending) :
    ∀ call ∈ calls.dropLast, call.Passes p := by
  induction h with
  | unmatched => exact List.forall_mem_nil _
  | skipped _ _ ih => exact ih
  | refused => exact List.forall_mem_nil _
  | decided => exact List.forall_mem_nil _
  | @passed _ _ _ _ call calls _ _ _ _ hpasses _ ih =>
    cases calls with
    | nil => exact List.forall_mem_nil _
    | cons next rest =>
      rw [List.dropLast_cons_cons]
      exact List.forall_mem_cons.mpr ⟨hpasses, ih⟩

/-- A request goes all along the chain if every flow that accepts it passes it on. -/
theorem unmatched_iff (h : Dispatches p request deps chain others w calls ending) :
    ending.value = .unmatched ↔ calls.map Call.inst = accepting request chain ∧
      ∀ call ∈ calls, call.Passes p := by
  induction h with
  | unmatched => exact ⟨fun _ => ⟨rfl, List.forall_mem_nil _⟩, fun _ => rfl⟩
  | skipped hinactive _ ih => rwa [accepting_cons_of_inactive hinactive]
  | refused hactive =>
    rw [accepting_cons_of_active hactive]
    exact ⟨nofun, fun ⟨hall, _⟩ => nomatch hall⟩
  | decided _ _ _ hanswer =>
    exact ⟨fun hunmatched => absurd hunmatched hanswer.ne_unmatched,
      fun ⟨_, hpasses⟩ => absurd (hpasses _ List.mem_cons_self) hanswer.ne_noMatch⟩
  | passed hactive _ hcall hpasses _ ih =>
    rw [accepting_cons_of_active hactive, List.map_cons, List.forall_mem_cons, ih, hcall,
      List.cons.injEq]
    exact ⟨fun ⟨hall, hrest⟩ => ⟨⟨rfl, hall⟩, hcall ▸ hpasses, hrest⟩,
      fun ⟨⟨_, hall⟩, _, hrest⟩ => ⟨hall, hrest⟩⟩

end Dispatches

structure Dispatched (p : Platform S W H) (request : Request) (deps : S)
    (chain : List (Instance K V W H)) (others : List (W → W)) (w : W)
    (calls : List (Call K V S W H)) : Prop extends Told p request deps chain others w calls where
  /-- The calls are those of the flows that accept the request, in their order, each at most
  once. -/
  inOrder : calls.map Call.inst <+: accepting request chain
  given : ∀ call ∈ calls, call.setting.input = request.body ∧ call.setting.deps = deps
  /-- A call that is followed by another one has passed the request on. -/
  passes : ∀ call ∈ calls.dropLast, call.Passes p
  unmatched_iff : ((dispatch p request deps chain).amid others w).value = .unmatched ↔
    calls.map Call.inst = accepting request chain ∧ ∀ call ∈ calls, call.Passes p

/-- **Dispatching a request.** A chain of flows is gone along as `Dispatches` says. Where the state
of the caller is a bag, each call has a fork of it, and whatever is done to other forks meanwhile,
the next fork shows what the state of the call is here. -/
theorem exists_dispatched {L : Type} [DecidableEq L] {X : L → Type} (p : Platform S W H)
    (request : Request) (deps : S) (chain : List (Instance K V W H)) (others : List (W → W))
    (w : W) :
    ∃ calls, Dispatched p request deps chain others w calls ∧
      ∀ (bag : S → Bag L X) (before during : List (ForkStep L X)) (b : Nat),
        b < (before.foldl ForkStep.shared .start).bags.length → (∀ step ∈ during, b ≠ step.bag) →
        bag deps = (before.foldl ForkStep.shared .start).view b → ∀ call ∈ calls,
        let forks := during.foldl ForkStep.shared ((before.foldl ForkStep.shared .start).fork b)
        ∀ key, ((forks.fork b).view forks.bags.length).get? key =
          (bag call.setting.deps).get? key := by
  obtain ⟨calls, htold⟩ := exists_told p request deps chain others w
  have hcalls := htold.dispatches
  refine ⟨calls, ⟨htold, hcalls.isPrefix, hcalls.given, hcalls.passes, hcalls.unmatched_iff⟩, ?_⟩
  intro bag before during b hb hne hbag call hcall forks key
  rw [(hcalls.given call hcall).2, hbag]
  exact Forks.get?_view_fork_again before during hb hne key

end StagedFlow
