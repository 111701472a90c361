import StagedFlow.Proofs.Dispatching
import StagedFlow.Proofs.Handlers
import StagedFlow.Proofs.Stagewise

/-!
# Calls side by side

Two calls that start alike and stay alike, up to what is kept from callers, are answered alike.
Until a call ends, nothing that is kept secret may reach the world: the calls of two flows are
compared stage by stage, under the same schedule of others, and the world has to be the same one
throughout. Only the last event may tell them apart: it reaches observers when the answer is
settled.
-/

namespace StagedFlow

variable {K : Type} {V : K → Type} {S W H : Type}

inductive Outcome.Stopped : Outcome → Prop where
  | aborted (reason : Option String) : Stopped (.aborted reason)
  | failed (reason : Option String) : Stopped (.failed reason)

/-- Ends of calls that differ in nothing that a caller may know. -/
inductive Undisclosed : Except FlowFault Outcome → Except FlowFault Outcome → Prop where
  | stopped {outcome outcome' : Outcome} (h : outcome.Stopped) (h' : outcome'.Stopped) :
    Undisclosed (.ok outcome) (.ok outcome')
  | setup (reason reason' : String) :
    Undisclosed (.error (.setupFailed reason)) (.error (.setupFailed reason'))
  | internal (reason reason' : String) :
    Undisclosed (.error (.internal reason)) (.error (.internal reason'))
  | operation (operation reason reason' : String) :
    Undisclosed (.error (.operationFailed operation reason))
      (.error (.operationFailed operation reason'))

theorem Outcome.Stopped.ofCall?_eq {outcome : Outcome} (h : outcome.Stopped) :
    Response.ofCall? (.ok outcome) = some .internalError := by
  cases h <;> rfl

theorem Undisclosed.exists_answer {outcome outcome' : Except FlowFault Outcome}
    (h : Undisclosed outcome outcome') :
    ∃ response, Response.ofCall? outcome = some response ∧
      Response.ofCall? outcome' = some response := by
  cases h with
  | stopped h h' => exact ⟨_, h.ofCall?_eq, h'.ofCall?_eq⟩
  | setup => exact ⟨_, rfl, rfl⟩
  | internal => exact ⟨_, rfl, rfl⟩
  | operation => exact ⟨_, rfl, rfl⟩

theorem Answers.ofCall?_eq {outcome : Except FlowFault Outcome} {response : Response}
    (h : Answers outcome response) : Response.ofCall? outcome = some response := by
  cases h <;> rfl

/-- The answer to a request is that of the last call, if this one does not pass the request on. -/
theorem Dispatches.value_eq_of_last {p : Platform S W H} {request : Request} {deps : S}
    {chain : List (Instance K V W H)} {others : List (W → W)} {w : W}
    {calls : List (Call K V S W H)} {ending : Task.Ending W Response}
    (h : Dispatches p request deps chain others w calls ending) {last : Call K V S W H}
    (hlast : last ∈ calls.getLast?) {response : Response}
    (hresponse : Response.ofCall? (last.ending p).value = some response) :
    ending.value = response := by
  induction h with
  | unmatched => cases hlast
  | skipped _ _ ih => exact ih hlast
  | refused => cases hlast
  | decided _ _ _ hanswer =>
    cases Option.mem_some_iff.mp hlast
    exact Option.some.inj (hanswer.ofCall?_eq.symm.trans hresponse)
  | @passed _ _ _ _ first calls _ _ _ _ hpasses _ ih =>
    cases calls with
    | nil =>
      obtain rfl : first = last := Option.mem_some_iff.mp hlast
      rw [hpasses] at hresponse
      cases hresponse
    | cons next rest => exact ih hlast

/-- Two requests are answered alike if the last calls that are made for them end alike. -/
theorem Told.value_eq_of_undisclosed {p p' : Platform S W H} {request request' : Request}
    {deps deps' : S} {chain chain' : List (Instance K V W H)} {others others' : List (W → W)}
    {w w' : W} {calls calls' : List (Call K V S W H)}
    (h : Told p request deps chain others w calls)
    (h' : Told p' request' deps' chain' others' w' calls') {last last' : Call K V S W H}
    (hlast : last ∈ calls.getLast?) (hlast' : last' ∈ calls'.getLast?)
    (hends : Undisclosed (last.ending p).value (last'.ending p').value) :
    ((dispatch p request deps chain).amid others w).value =
      ((dispatch p' request' deps' chain').amid others' w').value := by
  obtain ⟨response, hanswer, hanswer'⟩ := hends.exists_answer
  rw [h.dispatches.value_eq_of_last hlast hanswer, h'.dispatches.value_eq_of_last hlast' hanswer']

namespace Task

variable {α β γ δ : Type}

/-- Two tasks do the same to the world, whatever others do meanwhile; their values are related. -/
def Alike (R : α → β → Prop) (t : Task W α) (t' : Task W β) : Prop :=
  ∀ others w, ∃ value, t'.amid others w =
    ⟨value, (t.amid others w).others, (t.amid others w).world⟩ ∧ R (t.amid others w).value value

namespace Alike

variable {R : α → β → Prop} {Q : γ → δ → Prop} {t : Task W α} {t' : Task W β}

theorem done {a : α} {b : β} (h : R a b) :
    (Task.done a : Task W α).Alike R (.done b) :=
  fun _ _ => ⟨b, rfl, h⟩

theorem same {R : α → α → Prop} (t : Task W α) (h : ∀ a, R a a) : t.Alike R t :=
  fun others w => ⟨(t.amid others w).value, rfl, h _⟩

theorem bind {next : α → Task W γ} {next' : β → Task W δ} (h : t.Alike R t')
    (hnext : ∀ a b, R a b → (next a).Alike Q (next' b)) :
    (t.bind next).Alike Q (t'.bind next') := by
  intro others w
  obtain ⟨value, hvalue, hrel⟩ := h others w
  rw [amid_bind, amid_bind, hvalue]
  exact hnext _ value hrel _ _

theorem map {f : α → γ} {g : β → δ} (h : t.Alike R t') (hmap : ∀ a b, R a b → Q (f a) (g b)) :
    (t.map f).Alike Q (t'.map g) := by
  rw [← bind_done, ← bind_done]
  exact h.bind fun a b hab => .done (hmap a b hab)

end Alike

end Task

/-! ### Calls side by side -/

abbrev Pairing (S H : Type) := Context S H → Context S H → Prop

/-- What interrupts one call, and what interrupts the other: the same, but for the reason why an
operation has failed. -/
inductive Interrupt.Alike : Interrupt → Interrupt → Prop where
  | same (interrupt : Interrupt) : Alike interrupt interrupt
  | operation (operation reason reason' : String) :
    Alike (.fault (.operationFailed operation reason)) (.fault (.operationFailed operation reason'))

/-- Both calls go on, in contexts that one relation holds of, or both are interrupted, in contexts
that another one holds of. -/
inductive Abreast (J stop : Pairing S H) :
    Except Interrupt Unit × Context S H → Except Interrupt Unit × Context S H → Prop where
  | passed {ctx ctx' : Context S H} (h : J ctx ctx') : Abreast J stop (.ok (), ctx) (.ok (), ctx')
  | stopped {i i' : Interrupt} {ctx ctx' : Context S H} (hi : i.Alike i') (h : stop ctx ctx') :
    Abreast J stop (.error i, ctx) (.error i', ctx')

theorem Abreast.context {J : Pairing S H} {answer answer' : Except Interrupt Unit × Context S H}
    (h : Abreast J J answer answer') : J answer.2 answer'.2 := by
  cases h with
  | passed h => exact h
  | stopped _ h => exact h

structure Instance.Walked.Alike (brackets : List Bracket) (stop : Pairing S H)
    (walked walked' : Instance.Walked S H) : Prop where
  abreast : Abreast stop stop (walked.result, walked.context) (walked'.result, walked'.context)
  opened_eq : walked'.opened = walked.opened
  subset : walked.opened ⊆ brackets

namespace Instance

variable (p : Platform S W H) (inst inst' : Instance K V W H)

/-- From contexts of a first relation, the calls of two flows go through stages side by side. -/
inductive Escorted (stop : Pairing S H) : List (Phase × Stage) → Pairing S H → Prop where
  | nil {J : Pairing S H} (h : ∀ ctx ctx', J ctx ctx' → stop ctx ctx') : Escorted stop [] J
  | cons {J J' : Pairing S H} {phase : Phase} {stage : Stage} {rest : List (Phase × Stage)}
    (hstage : ∀ ctx ctx', J ctx ctx' → (runStage p inst phase stage ctx).Alike (Abreast J' stop)
      (runStage p inst' phase stage ctx'))
    (hrest : Escorted stop rest J') : Escorted stop ((phase, stage) :: rest) J

structure Peers : Prop where
  definition_eq : inst'.definition = inst.definition
  observers_eq : inst'.observers = inst.observers

variable {p inst inst'}

theorem Peers.name_eq (h : inst.Peers inst') : inst'.name = inst.name := by
  rw [name, name, h.definition_eq]

theorem Peers.plan_eq (h : inst.Peers inst') : inst'.plan = inst.plan := by
  rw [plan, plan, h.definition_eq]

theorem Peers.emit_eq (h : inst.Peers inst') (event : FlowEvent) :
    inst'.emit event = inst.emit event := by
  rw [emit, emit, h.observers_eq]

/-- A stage at which each flow has one hook. -/
theorem Peers.alike_runStage (h : inst.Peers inst') {J stop : Pairing S H} {phase : Phase}
    {stage : Stage} {ctx ctx' : Context S H} (hcallId : ctx'.callId = ctx.callId)
    {hook hook' : HookBinding H} (hhook : inst.hooks.resolve stage ctx.scope ctx.attached = [hook])
    (hhook' : inst'.hooks.resolve stage ctx'.scope ctx'.attached = [hook'])
    (hinvoke : (p.invoke hook (ctx.enter stage)).Alike
      (fun answer answer' => Abreast J stop (answer.1, (ctx.enter stage).apply answer.2)
        (answer'.1, (ctx'.enter stage).apply answer'.2)) (p.invoke hook' (ctx'.enter stage))) :
    (runStage p inst phase stage ctx).Alike (Abreast J stop)
      (runStage p inst' phase stage ctx') := by
  have hstage : runStage p inst phase stage ctx =
      (inst.emit (.entered inst.name ctx.callId phase stage)).bind fun _ =>
        runHooks p (inst.hooks.resolve stage ctx.scope ctx.attached) (ctx.enter stage) := rfl
  have hstage' : runStage p inst' phase stage ctx' =
      (inst'.emit (.entered inst'.name ctx'.callId phase stage)).bind fun _ =>
        runHooks p (inst'.hooks.resolve stage ctx'.scope ctx'.attached) (ctx'.enter stage) := rfl
  rw [hstage, hstage', hhook, hhook', h.emit_eq, h.name_eq, hcallId, runHooks_singleton,
    runHooks_singleton]
  refine (Task.Alike.same (R := fun _ _ => True) _ fun _ => trivial).bind fun _ _ _ => ?_
  exact hinvoke.map fun _ _ hanswer => hanswer

theorem enterBrackets_subset {plan : Plan} (stage : Stage) {opened : List Bracket}
    (h : opened ⊆ plan.brackets) : enterBrackets plan stage opened ⊆ plan.brackets := by
  have hopen : ∀ bracket, plan.openedBy? stage = some bracket → bracket ∈ plan.brackets :=
    fun bracket hbracket => List.mem_of_find?_eq_some hbracket
  unfold enterBrackets
  cases hopened : plan.openedBy? stage with
  | none =>
    cases plan.closedBy? stage with
    | none => exact h
    | some closed => exact fun bracket hbracket => h (List.mem_of_mem_filter hbracket)
  | some bracket =>
    have hmore : bracket :: opened ⊆ plan.brackets := List.cons_subset.mpr ⟨hopen _ hopened, h⟩
    cases plan.closedBy? stage with
    | none => exact hmore
    | some closed => exact fun bracket hbracket => hmore (List.mem_of_mem_filter hbracket)

theorem Escorted.alike_walk {stop J : Pairing S H} {steps : List (Phase × Stage)}
    (hpeers : inst.Peers inst') (h : Escorted p inst inst' stop steps J) {opened : List Bracket}
    (hopened : opened ⊆ inst.plan.brackets) {ctx ctx' : Context S H} (hctx : J ctx ctx') :
    (walk p inst steps opened ctx).Alike (Walked.Alike inst.plan.brackets stop)
      (walk p inst' steps opened ctx') := by
  induction h generalizing opened ctx ctx' with
  | nil hstop => exact .done ⟨.passed (hstop ctx ctx' hctx), rfl, hopened⟩
  | @cons _ _ _ stage _ hstage _ ih =>
    rw [walk, walk, hpeers.plan_eq]
    have hmore := enterBrackets_subset stage hopened
    refine (hstage ctx ctx' hctx).bind fun answer answer' hanswer => ?_
    cases hanswer with
    | passed hnext => exact ih hmore hnext
    | stopped hi hstop => exact .done ⟨.stopped hi hstop, rfl, hmore⟩

def ClosesAlike (p : Platform S W H) (inst inst' : Instance K V W H) (stop : Pairing S H) : Prop :=
  ∀ bracket ∈ inst.plan.brackets, ∀ phase ctx ctx', stop ctx ctx' →
    (runStage p inst phase bracket.release ctx).Alike (Abreast stop stop)
      (runStage p inst' phase bracket.release ctx')

theorem ClosesAlike.alike_closeAll {stop : Pairing S H} (hpeers : inst.Peers inst')
    (h : ClosesAlike p inst inst' stop) {brackets : List Bracket}
    (hbrackets : brackets ⊆ inst.plan.brackets) {ctx ctx' : Context S H} (hctx : stop ctx ctx') :
    (closeAll p inst brackets ctx).Alike stop (closeAll p inst' brackets ctx') := by
  induction brackets generalizing ctx ctx' with
  | nil => exact .done hctx
  | cons bracket rest ih =>
    obtain ⟨hbracket, hrest⟩ := List.cons_subset.mp hbrackets
    rw [closeAll, closeAll, hpeers.plan_eq]
    exact (h bracket hbracket _ ctx ctx' hctx).bind fun answer answer' hanswer =>
      ih hrest hanswer.context

section Parts

variable {J stop : Pairing S H} (hpeers : inst.Peers inst') (setting : Setting S W)
include hpeers

theorem Escorted.exists_walkOf (h : Escorted p inst inst' stop inst.plan.steps J)
    (hstart : J (inst.startContext p setting) (inst.startContext p setting)) :
    ∃ walked, inst'.walkOf p setting =
        ⟨walked, (inst.walkOf p setting).others, (inst.walkOf p setting).world⟩ ∧
      Walked.Alike inst.plan.brackets stop (inst.walkOf p setting).value walked := by
  obtain ⟨walked, hwalked, hends⟩ := h.alike_walk hpeers (List.nil_subset _) hstart setting.others
    (Observer.emit inst.observers (.started inst.name (p.nextId setting.world))
      (p.countCall setting.world))
  refine ⟨walked, ?_, hends⟩
  rw [walkOf, startContext, hpeers.plan_eq, hpeers.definition_eq, hpeers.observers_eq,
    hpeers.name_eq]
  exact hwalked

theorem ClosesAlike.exists_closingOf (h : ClosesAlike p inst inst' stop)
    {walked : Walked S H} (hwalkOf : inst'.walkOf p setting =
      ⟨walked, (inst.walkOf p setting).others, (inst.walkOf p setting).world⟩)
    (hends : Walked.Alike inst.plan.brackets stop (inst.walkOf p setting).value walked) :
    ∃ closed, inst'.closingOf p setting =
        ⟨closed, (inst.closingOf p setting).others, (inst.closingOf p setting).world⟩ ∧
      stop (inst.closingOf p setting).value closed := by
  obtain ⟨closed, hclosed, hstop⟩ := h.alike_closeAll hpeers hends.subset hends.abreast.context
    (inst.walkOf p setting).others (inst.walkOf p setting).world
  refine ⟨closed, ?_, hstop⟩
  rw [closingOf, hwalkOf, hends.opened_eq]
  exact hclosed

end Parts

theorem Walked.Alike.conclude_eq_or_undisclosed {brackets : List Bracket} {stop : Pairing S H}
    {walked walked' : Walked S H} (h : Walked.Alike brackets stop walked walked')
    (output : Option Json) :
    conclude walked'.result output = conclude walked.result output ∨
      Undisclosed (conclude walked.result output) (conclude walked'.result output) := by
  obtain ⟨habreast, -, -⟩ := h
  generalize walked.result = result at habreast
  generalize walked'.result = result' at habreast
  cases habreast with
  | passed => exact .inl rfl
  | stopped hi =>
    cases hi with
    | same => exact .inl rfl
    | operation => exact .inr (.operation ..)

/-- Calls of two flows stay side by side: the flows show themselves alike, and from the start on the
contexts of their calls agree in what a caller may know. -/
structure Counterparts (p : Platform S W H) (inst inst' : Instance K V W H) : Prop where
  peers : inst.Peers inst'
  escorted : ∃ J stop : Pairing S H,
    Escorted p inst inst' stop inst.plan.steps J ∧ ClosesAlike p inst inst' stop ∧
    (∀ setting, J (inst.startContext p setting) (inst.startContext p setting)) ∧
    ∀ ctx ctx', stop ctx ctx' → ctx'.output = ctx.output ∧ p.retire ctx'.state = p.retire ctx.state

theorem abreast_self (answer : Except Interrupt Unit × Context S H) :
    Abreast (· = ·) (· = ·) answer answer := by
  obtain ⟨result | ⟨⟩, ctx⟩ := answer
  · exact .stopped (.same _) rfl
  · exact .passed rfl

theorem escorted_self (p : Platform S W H) (inst : Instance K V W H)
    (steps : List (Phase × Stage)) : Escorted p inst inst (· = ·) steps (· = ·) := by
  induction steps with
  | nil => exact .nil fun _ _ h => h
  | cons step rest ih =>
    refine .cons (fun ctx ctx' hctx => ?_) ih
    rw [hctx]
    exact .same _ abreast_self

/-- Whatever a flow does, it is its own counterpart. -/
theorem counterparts_self (p : Platform S W H) (inst : Instance K V W H) :
    Counterparts p inst inst where
  peers := ⟨rfl, rfl⟩
  escorted := by
    refine ⟨(· = ·), (· = ·), escorted_self p inst _, ?_, fun _ => rfl, ?_⟩
    · rintro bracket - phase ctx _ rfl
      exact .same _ abreast_self
    · rintro ctx _ rfl
      exact ⟨rfl, rfl⟩

/-- Calls side by side end alike, world and all, or in a way that callers cannot tell apart. -/
theorem Counterparts.alike_run (h : Counterparts p inst inst') (setting : Setting S W) :
    let call := (inst.run p setting.input setting.deps).amid setting.others setting.world
    let call' := (inst'.run p setting.input setting.deps).amid setting.others setting.world
    call' = call ∨ Undisclosed call.value call'.value := by
  obtain ⟨J, stop, hescorted, hcloses, hstart, hstop⟩ := h.escorted
  obtain ⟨walked, hwalkOf, hends⟩ := hescorted.exists_walkOf h.peers setting (hstart setting)
  obtain ⟨closed, hclosingOf, hclosed⟩ := hcloses.exists_closingOf h.peers setting hwalkOf hends
  obtain ⟨houtput, hretire⟩ := hstop _ _ hclosed
  rw [inst.amid_run p setting, inst'.amid_run p setting, hclosingOf, hwalkOf]
  simp only [houtput, hretire, h.peers.observers_eq, h.peers.name_eq]
  rcases hends.conclude_eq_or_undisclosed (inst.closingOf p setting).value.output with
    hsame | hundisclosed
  · left
    rw [hsame]
  · right
    exact hundisclosed

/-- Chains of flows whose calls stay side by side answer a request alike. -/
theorem value_dispatch_eq (request : Request) (deps : S) {chain chain' : List (Instance K V W H)}
    (h : List.Forall₂ (Counterparts p) chain chain') (others : List (W → W)) (w : W) :
    ((dispatch p request deps chain').amid others w).value =
      ((dispatch p request deps chain).amid others w).value := by
  induction h generalizing others w with
  | nil => rfl
  | @cons inst inst' rest rest' hfirst _ ih =>
    have hactive : inst'.canActivate request = inst.canActivate request := by
      rw [canActivate, canActivate, hfirst.peers.definition_eq]
    have hrefuses : inst'.refuses request = inst.refuses request := by
      rw [refuses, refuses, hfirst.peers.definition_eq]
    cases hcan : inst.canActivate request with
    | false =>
      rw [dispatch_of_inactive inst hcan, dispatch_of_inactive inst' (hactive.trans hcan)]
      exact ih others w
    | true =>
      cases hmay : inst.refuses request with
      | true =>
        rw [dispatch_of_refuses inst hcan hmay,
          dispatch_of_refuses inst' (hactive.trans hcan) (hrefuses.trans hmay)]
      | false =>
        rw [dispatch_of_admits inst hcan hmay,
          dispatch_of_admits inst' (hactive.trans hcan) (hrefuses.trans hmay), Task.amid_bind,
          Task.amid_bind]
        rcases hfirst.alike_run ⟨request.body, deps, w, others⟩ with hsame | hundisclosed
        · simp only at hsame
          rw [hsame]
          cases Response.ofCall? ((inst.run p request.body deps).amid others w).value with
          | some response => rfl
          | none => exact ih _ _
        · obtain ⟨response, hanswer, hanswer'⟩ := hundisclosed.exists_answer
          simp only at hanswer hanswer'
          rw [hanswer, hanswer']
          rfl

end Instance

end StagedFlow
