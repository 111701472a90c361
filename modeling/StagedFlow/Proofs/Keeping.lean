import StagedFlow.Proofs.Handlers
import StagedFlow.Proofs.Piecewise

/-!
# What handlers keep to

A task is free in what it does to the world and in what it reads of it. A *manner* limits both, and
`Task.Keeps` says that a task acts in a manner whatever it meets, and that its values are of a
certain kind. Handlers work on *terms*: a manner, the contexts that they find and leave behind, the
interrupts that they raise, and the hooks that may be attached. A call keeps to the terms of its
hooks, since one hook leaves what the next one may find.
-/

namespace StagedFlow

variable {K : Type} {V : K → Type} {S W H : Type}

namespace Task

variable {α β : Type}

/-- What a task may do to the world, and whether it may go on as the world says. -/
structure Manner (W : Type) where
  allows : (W → W) → Prop
  looks : Prop

def Manner.free : Manner W := ⟨fun _ => True, True⟩

inductive Keeps (m : Manner W) (Q : α → Prop) : Task W α → Prop where
  | done {a : α} (h : Q a) : Keeps m Q (.done a)
  | act {change : W → W} {next : W → Task W α} (hchange : m.allows change)
      (hlooks : m.looks ∨ ∀ w w', next w = next w') (hnext : ∀ w, Keeps m Q (next w)) :
      Keeps m Q (.act change next)
  | pause {next : Task W α} (hnext : Keeps m Q next) : Keeps m Q (.pause next)

namespace Keeps

variable {m : Manner W} {Q R : α → Prop} {t : Task W α}

theorem mono (h : t.Keeps m Q) (hQ : ∀ a, Q a → R a) : t.Keeps m R := by
  induction h with
  | done h => exact .done (hQ _ h)
  | act hchange hlooks _ ih => exact .act hchange hlooks ih
  | pause _ ih => exact .pause ih

theorem bind {P : β → Prop} {k : α → Task W β} (h : t.Keeps m Q)
    (hk : ∀ a, Q a → (k a).Keeps m P) : (t.bind k).Keeps m P := by
  induction h with
  | done h => exact hk _ h
  | @act change next hchange hlooks _ ih =>
    refine .act hchange (hlooks.imp_right fun hsame w w' => ?_) ih
    rw [hsame w w']
  | pause _ ih => exact .pause ih

theorem map {P : β → Prop} {f : α → β} (h : t.Keeps m Q) (hf : ∀ a, Q a → P (f a)) :
    (t.map f).Keeps m P := by
  rw [← bind_done]
  exact h.bind fun a ha => .done (hf a ha)

theorem free (h : t.Keeps m Q) : t.Keeps .free Q := by
  induction h with
  | done h => exact .done h
  | act _ _ _ ih => exact .act trivial (.inl trivial) ih
  | pause _ ih => exact .pause ih

theorem change {f : W → W} (h : m.allows f) {Q : Unit → Prop} (hQ : Q ()) :
    (Task.change f).Keeps m Q :=
  .act h (.inr fun _ _ => rfl) fun _ => .done hQ

theorem look (hlooks : m.looks) (hid : m.allows id) {Q : W → Prop} (hQ : ∀ w, Q w) :
    (Task.look : Task W W).Keeps m Q :=
  .act hid (.inl hlooks) fun w => .done (hQ w)

/-- However a run goes, its value is of the kind that the task keeps to. -/
theorem value (h : t.Keeps m Q) (others : List (W → W)) (w : W) :
    Q (t.amid others w).value := by
  induction h generalizing others w with
  | done h => exact h
  | act _ _ _ ih => exact ih w others _
  | pause _ ih =>
    cases others with
    | nil => exact ih [] w
    | cons f others => exact ih others (f w)

/-- What follows a task matters only at the values that the task can have. -/
theorem bind_congr {k k' : α → Task W β} (h : t.Keeps m Q) (hk : ∀ a, Q a → k a = k' a) :
    t.bind k = t.bind k' := by
  induction h with
  | done h => exact hk _ h
  | act _ _ _ ih => exact congrArg (Task.act _) (funext ih)
  | pause _ ih => exact congrArg Task.pause ih

/-- What is left of a task at its pause keeps to what the task keeps to. -/
theorem poll (h : t.Keeps m Q) (w : W) : (t.poll w).1.Keeps m Q := by
  induction h generalizing w with
  | done h => exact .done h
  | act _ _ _ ih => exact ih w _
  | pause hnext => exact hnext

/-- What every allowed change and every change of others preserves holds at the end of a run. -/
theorem world {P : W → Prop} (h : t.Keeps m Q) (hallows : ∀ f, m.allows f → ∀ w, P w → P (f w))
    {others : List (W → W)} (hothers : ∀ f ∈ others, ∀ w, P w → P (f w)) {w : W} (hw : P w) :
    P (t.amid others w).world := by
  induction h generalizing others w with
  | done _ => exact hw
  | act hchange _ _ ih => exact ih w hothers (hallows _ hchange w hw)
  | pause _ ih =>
    cases others with
    | nil => exact ih hothers hw
    | cons f others =>
      obtain ⟨hf, hothers⟩ := List.forall_mem_cons.mp hothers
      exact ih hothers (hf w hw)

/-- The manner of a task beside a second part of the world. -/
theorem beside {G : Type} {m' : Manner (W × G)} (h : t.Keeps m Q)
    (hallows : ∀ f, m.allows f → m'.allows (Prod.map f id)) (hlooks : m.looks → m'.looks) :
    (t.beside : Task (W × G) α).Keeps m' Q := by
  induction h with
  | done h => exact .done h
  | act hchange hsame _ ih =>
    refine .act (hallows _ hchange) (hsame.imp hlooks fun hsame w w' => ?_) fun w => ih w.1
    rw [hsame w.1 w'.1]
  | pause _ ih => exact .pause ih

end Keeps

/-- To keep to a manner is a way to reason about tasks, for which nothing of the world is known. -/
def Manner.logic (m : Manner W) : Logic W Unit where
  Holds _ t Q := t.Keeps m fun a => Q a ()
  done h := .done h
  bind h hk := h.bind fun a ha => hk a () ha

theorem keeps_free (t : Task W α) {Q : α → Prop} (hQ : ∀ a, Q a) : t.Keeps .free Q := by
  induction t with
  | done a => exact .done (hQ a)
  | act change next ih => exact .act trivial (.inl trivial) ih
  | pause next ih => exact .pause ih

/-- A task keeps to being of every kind that it keeps to. -/
theorem keeps_all (t : Task W α) :
    t.Keeps .free fun a => ∀ Q : α → Prop, t.Keeps .free Q → Q a := by
  suffices h : ∀ P : α → Prop, (∀ a, (∀ Q : α → Prop, t.Keeps .free Q → Q a) → P a) →
      t.Keeps .free P from h _ fun _ ha => ha
  induction t with
  | done a => exact fun P hP => .done (hP a fun Q h => by cases h; assumption)
  | act change next ih =>
    refine fun P hP => .act trivial (.inl trivial) fun w => ih w P fun a ha => hP a fun Q h => ?_
    cases h with
    | act _ _ hnext => exact ha Q (hnext w)
  | pause next ih =>
    refine fun P hP => .pause (ih P fun a ha => hP a fun Q h => ?_)
    cases h with
    | pause hnext => exact ha Q hnext

end Task

/-- The terms on which hooks work: their manner, which hooks may run, the contexts they find and
leave, and how they may interrupt their call. -/
structure Terms (S W H : Type) where
  manner : Task.Manner W
  good : HookBinding H → Prop
  fine : Context S H → Prop
  raises : Interrupt → Prop

def Terms.ofStates (manner : Task.Manner W) (good : HookBinding H → Prop) (fits : S → Prop)
    (raises : Interrupt → Prop) : Terms S W H where
  manner := manner
  good := good
  fine ctx := (∀ hook ∈ ctx.attached, good hook) ∧ fits ctx.state
  raises := raises

/-- A value of one kind, or an interrupt of another. -/
def Meets {α : Type} (Q : α → Prop) (raises : Interrupt → Prop) : Except Interrupt α → Prop
  | .ok a => Q a
  | .error interrupt => raises interrupt

theorem Context.apply_andThen (ctx : Context S H) (first later : Changes S H) :
    ctx.apply (first.andThen later) = (ctx.apply first).apply later := by
  simp [Context.apply, Changes.andThen]

namespace HookM

variable {α β : Type} {terms : Terms S W H} {Q : α → Prop} {m : HookM S W H α}

def Keeps (terms : Terms S W H) (Q : α → Prop) (m : HookM S W H α) : Prop :=
  ∀ ctx, terms.fine ctx → (m ctx).Keeps terms.manner fun answer =>
    terms.fine (ctx.apply answer.2) ∧ Meets Q terms.raises answer.1

namespace Keeps

/-- What returns at once. -/
theorem of_eq_done {result : Context S H → Except Interrupt α}
    (hm : ∀ ctx, m ctx = .done (result ctx, .none))
    (h : ∀ ctx, terms.fine ctx → Meets Q terms.raises (result ctx)) : m.Keeps terms Q := by
  intro ctx hctx
  rw [hm]
  exact .done ⟨by rwa [Context.apply_none], h ctx hctx⟩

theorem pure {a : α} (h : Q a) : (Pure.pure a : HookM S W H α).Keeps terms Q :=
  of_eq_done (fun _ => rfl) fun _ _ => h

theorem interrupt {i : Interrupt} (h : terms.raises i) :
    (HookM.interrupt i : HookM S W H α).Keeps terms Q :=
  of_eq_done (fun _ => rfl) fun _ _ => h

theorem ofExcept {e : Except FlowFault α} (hok : ∀ a, e = .ok a → Q a)
    (herror : ∀ fault, e = .error fault → terms.raises (.fault fault)) :
    (HookM.ofExcept e : HookM S W H α).Keeps terms Q := by
  cases e with
  | ok a => exact pure (hok a rfl)
  | error fault => exact interrupt (herror fault rfl)

theorem context : (HookM.context : HookM S W H _).Keeps terms terms.fine :=
  of_eq_done (fun _ => rfl) fun _ hctx => hctx

theorem state {P : S → Prop} (h : ∀ ctx, terms.fine ctx → P ctx.state) :
    (HookM.state : HookM S W H S).Keeps terms P :=
  of_eq_done (fun _ => rfl) h

theorem change {changes : Changes S H} {P : Unit → Prop}
    (h : ∀ ctx, terms.fine ctx → terms.fine (ctx.apply changes)) (hP : P ()) :
    (HookM.change changes : HookM S W H Unit).Keeps terms P :=
  fun ctx hctx => .done ⟨h ctx hctx, hP⟩

theorem lift {t : Task W α} (h : t.Keeps terms.manner Q) :
    (HookM.lift t : HookM S W H α).Keeps terms Q := by
  intro ctx hctx
  exact h.map fun a ha => ⟨by rwa [Context.apply_none], ha⟩

theorem bind {R : β → Prop} {k : α → HookM S W H β} (h : m.Keeps terms Q)
    (hk : ∀ a, Q a → (k a).Keeps terms R) : (m >>= k).Keeps terms R := by
  intro ctx hctx
  refine (h ctx hctx).bind fun answer hanswer => ?_
  obtain ⟨result, changes⟩ := answer
  obtain ⟨hfine, hmeets⟩ := hanswer
  cases result with
  | ok a =>
    refine (hk a hmeets _ hfine).map fun later hlater => ?_
    rw [Context.apply_andThen]
    exact hlater
  | error i => exact .done ⟨hfine, hmeets⟩

section States

variable {manner : Task.Manner W} {good : HookBinding H → Prop} {fits : S → Prop}
  {raises : Interrupt → Prop}

theorem stateOf :
    (HookM.state : HookM S W H S).Keeps (.ofStates manner good fits raises) fits :=
  state fun _ hctx => hctx.2

theorem setState {s : S} (h : fits s) :
    (HookM.setState s : HookM S W H Unit).Keeps (.ofStates manner good fits raises)
      fun _ => True := by
  refine change (fun ctx hctx => ⟨?_, h⟩) trivial
  simpa [Context.apply] using hctx.1

theorem checkpoint (stage : Stage) :
    (HookM.checkpoint stage : HookM S W H Unit).Keeps (.ofStates manner good fits raises)
      fun _ => True := by
  refine change (fun ctx hctx => ⟨?_, hctx.2⟩) trivial
  simpa [Context.apply] using hctx.1

theorem setOutput (v : Json) :
    (HookM.setOutput v : HookM S W H Unit).Keeps (.ofStates manner good fits raises)
      fun _ => True := by
  refine change (fun ctx hctx => ⟨?_, hctx.2⟩) trivial
  simpa [Context.apply] using hctx.1

theorem attach {hook : HookBinding H} (h : good hook) :
    (HookM.attach hook : HookM S W H _).Keeps (.ofStates manner good fits raises)
      fun _ => True := by
  have hchange : (HookM.change { attached := [hook] } : HookM S W H Unit).Keeps
      (.ofStates manner good fits raises) fun _ => True := by
    refine change (fun ctx hctx => ⟨fun other hother => ?_, hctx.2⟩) trivial
    rcases List.mem_append.mp hother with hold | hnew
    · exact hctx.1 other hold
    · exact List.mem_singleton.mp hnew ▸ h
  refine context.bind fun ctx _ => ?_
  split
  · exact hchange.bind fun _ _ => pure trivial
  · exact pure trivial

end States

end Keeps

end HookM

/-! ### Calls -/

/-- The hooks that may run keep to the terms, and so do those that they attach. -/
structure Platform.Upholds (p : Platform S W H) (terms : Terms S W H) : Prop where
  enter : ∀ ctx, terms.fine ctx → ∀ stage, terms.fine (ctx.enter stage)
  attached : ∀ ctx, terms.fine ctx → ∀ hook ∈ ctx.attached, terms.good hook
  invoke : ∀ hook, terms.good hook → (p.invoke hook).Keeps terms fun _ => True

/-- Entering a stage changes neither the state nor what is attached. -/
theorem Platform.upholds_ofStates {p : Platform S W H} {manner : Task.Manner W}
    {good : HookBinding H → Prop} {fits : S → Prop} {raises : Interrupt → Prop}
    (h : ∀ hook, good hook →
      (p.invoke hook).Keeps (.ofStates manner good fits raises) fun _ => True) :
    p.Upholds (.ofStates manner good fits raises) where
  enter _ hctx _ := hctx
  attached _ hctx := hctx.1
  invoke := h

structure Instance.Suits (inst : Instance K V W H) (terms : Terms S W H) : Prop where
  hooks : ∀ hook ∈ inst.hooks.bindings, terms.good hook
  emits : ∀ event, terms.manner.allows (Observer.emit inst.observers event)

namespace Platform.Upholds

variable {p : Platform S W H} {inst : Instance K V W H} {terms : Terms S W H}
  {ctx : Context S H}

theorem follows (h : p.Upholds terms) (hinst : inst.Suits terms) :
    inst.Follows p terms.manner.logic terms.good (fun ctx _ => terms.fine ctx)
      (Meets (fun _ => True) terms.raises) where
  hooks := hinst.hooks
  attached ctx _ := h.attached ctx
  enter ctx _ := h.enter ctx
  emit _ _ hctx _ _ _ := Task.Keeps.change (hinst.emits _) hctx
  invoke hook hgood ctx _ := h.invoke hook hgood ctx
  ends_ok := trivial

theorem runStage (h : p.Upholds terms) (hinst : inst.Suits terms) (phase : Phase)
    (stage : Stage) (hctx : terms.fine ctx) :
    (inst.runStage p phase stage ctx).Keeps terms.manner fun answer =>
      terms.fine answer.2 ∧ Meets (fun _ => True) terms.raises answer.1 :=
  (h.follows hinst).runStage () phase stage hctx

theorem walk (h : p.Upholds terms) (hinst : inst.Suits terms) (steps : List (Phase × Stage))
    (opened : List Bracket) (hctx : terms.fine ctx) :
    (inst.walk p steps opened ctx).Keeps terms.manner fun walked =>
      terms.fine walked.context ∧ Meets (fun _ => True) terms.raises walked.result :=
  (h.follows hinst).walk () steps opened hctx

theorem closeAll (h : p.Upholds terms) (hinst : inst.Suits terms) (brackets : List Bracket)
    (hctx : terms.fine ctx) : (inst.closeAll p brackets ctx).Keeps terms.manner terms.fine :=
  (h.follows hinst).closeAll () brackets hctx

end Platform.Upholds

namespace Instance

def runAs (p : Platform S W H) (inst : Instance K V W H) (call : String) (input : Json)
    (deps : S) : Task W (Except FlowFault Outcome) := do
  Task.change p.countCall
  inst.emit (.started inst.name call)
  let walked ← walk p inst inst.plan.steps []
    (.start call inst.definition.token input (p.scope deps) deps)
  let ctx ← closeAll p inst walked.opened walked.context
  let outcome := conclude walked.result ctx.output
  inst.emit (finalEvent inst.name call outcome)
  Task.change (p.retire ctx.state)
  pure outcome

/-- A call looks at the world once to learn its identity. -/
theorem run_eq_look (p : Platform S W H) (inst : Instance K V W H) (input : Json) (deps : S) :
    inst.run p input deps = Task.look.bind fun w => inst.runAs p (p.nextId w) input deps :=
  rfl

end Instance

theorem Platform.Upholds.runAs {p : Platform S W H} {inst : Instance K V W H}
    {terms : Terms S W H} (h : p.Upholds terms) (hinst : inst.Suits terms)
    (hcount : terms.manner.allows p.countCall)
    (hretire : ∀ ctx : Context S H, terms.fine ctx → terms.manner.allows (p.retire ctx.state))
    {call : String} {input : Json} {deps : S}
    (hstart : terms.fine (.start call inst.definition.token input (p.scope deps) deps)) :
    (inst.runAs p call input deps).Keeps terms.manner fun _ => True := by
  refine (Task.Keeps.change (Q := fun _ => True) hcount trivial).bind fun _ _ => ?_
  refine (Task.Keeps.change (Q := fun _ => True) (hinst.emits _) trivial).bind fun _ _ => ?_
  refine (h.walk hinst _ _ hstart).bind fun walked hwalked => ?_
  refine (h.closeAll hinst _ hwalked.1).bind fun ctx hctx => ?_
  refine (Task.Keeps.change (Q := fun _ => True) (hinst.emits _) trivial).bind fun _ _ => ?_
  exact (Task.Keeps.change (Q := fun _ => True) (hretire ctx hctx) trivial).bind
    fun _ _ => .done trivial

end StagedFlow
