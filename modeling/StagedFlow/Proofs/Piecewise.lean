import StagedFlow.Proofs.HookOrder

/-!
# Reasoning along a call

A call is made of tasks that come one after another. A way to reason about tasks says what it takes
for a task that is done, and for two tasks in a row; what is known may change along the way. Then a
whole call can be followed from its hooks and observers: what holds of every hook that may run, in
every context in which it may run, carries through the stages.
-/

namespace StagedFlow

variable {K : Type} {V : K → Type} {S W H I : Type}

/-- A way to reason about tasks: from what is known before to the value and what is known then. -/
structure Task.Logic (W I : Type) where
  Holds : {α : Type} → I → Task W α → (α → I → Prop) → Prop
  done : ∀ {α : Type} {known : I} {a : α} {Q : α → I → Prop}, Q a known → Holds known (.done a) Q
  bind : ∀ {α β : Type} {known : I} {t : Task W α} {k : α → Task W β} {Q : α → I → Prop}
    {R : β → I → Prop}, Holds known t Q → (∀ a later, Q a later → Holds later (k a) R) →
      Holds known (t.bind k) R

theorem HookMap.mem_of_mem_resolve {map : HookMap H} {stage : Stage} {scope : Option String}
    {attached : List (HookBinding H)} {hook : HookBinding H}
    (h : hook ∈ map.resolve stage scope attached) : hook ∈ map.bindings ∨ hook ∈ attached := by
  have heligible := ((map.stablySorts_resolve stage scope attached).mem_iff hook).mp h
  exact List.mem_append.mp (List.mem_filter.mp heligible).1

/-- The contexts of a call stay fine: the hooks that may run leave a fine context where they find
one, they attach nothing else, and the observers do no harm. -/
structure Instance.Follows (inst : Instance K V W H) (p : Platform S W H) (logic : Task.Logic W I)
    (good : HookBinding H → Prop) (fine : Context S H → I → Prop)
    (ends : Except Interrupt Unit → Prop) : Prop where
  hooks : ∀ hook ∈ inst.hooks.bindings, good hook
  attached : ∀ ctx known, fine ctx known → ∀ hook ∈ ctx.attached, good hook
  enter : ∀ ctx known, fine ctx known → ∀ stage, fine (ctx.enter stage) known
  emit : ∀ ctx known, fine ctx known → ∀ call phase stage,
    logic.Holds known (inst.emit (.entered inst.name call phase stage)) fun _ => fine ctx
  invoke : ∀ hook, good hook → ∀ ctx known, fine ctx known →
    logic.Holds known (p.invoke hook ctx) fun answer later =>
      fine (ctx.apply answer.2) later ∧ ends answer.1
  ends_ok : ends (.ok ())

namespace Instance.Follows

variable {inst : Instance K V W H} {p : Platform S W H} {logic : Task.Logic W I}
  {good : HookBinding H → Prop} {fine : Context S H → I → Prop}
  {ends : Except Interrupt Unit → Prop} {ctx : Context S H} {known : I}

theorem runHooks (h : inst.Follows p logic good fine ends) (known : I)
    {hooks : List (HookBinding H)} (hgood : ∀ hook ∈ hooks, good hook) (hctx : fine ctx known) :
    logic.Holds known (Instance.runHooks p hooks ctx) fun answer later =>
      fine answer.2 later ∧ ends answer.1 := by
  induction hooks generalizing ctx known with
  | nil => exact logic.done ⟨hctx, h.ends_ok⟩
  | cons hook rest ih =>
    obtain ⟨hhook, hrest⟩ := List.forall_mem_cons.mp hgood
    refine logic.bind (h.invoke hook hhook ctx known hctx) fun answer later hanswer => ?_
    obtain ⟨result, changes⟩ := answer
    cases result with
    | ok _ => exact ih later hrest hanswer.1
    | error interrupt => exact logic.done hanswer

theorem runStage (h : inst.Follows p logic good fine ends) (known : I) (phase : Phase)
    (stage : Stage) (hctx : fine ctx known) :
    logic.Holds known (inst.runStage p phase stage ctx) fun answer later =>
      fine answer.2 later ∧ ends answer.1 := by
  refine logic.bind (h.emit ctx known hctx ctx.callId phase stage) fun _ later hlater => ?_
  refine h.runHooks later (fun hook hhook => ?_) (h.enter ctx later hlater stage)
  rcases HookMap.mem_of_mem_resolve hhook with hstatic | hattached
  · exact h.hooks hook hstatic
  · exact h.attached ctx known hctx hook hattached

theorem walk (h : inst.Follows p logic good fine ends) (known : I)
    (steps : List (Phase × Stage)) (opened : List Bracket) (hctx : fine ctx known) :
    logic.Holds known (inst.walk p steps opened ctx) fun walked later =>
      fine walked.context later ∧ ends walked.result := by
  induction steps generalizing known opened ctx with
  | nil => exact logic.done ⟨hctx, h.ends_ok⟩
  | cons step rest ih =>
    refine logic.bind (h.runStage known step.1 step.2 hctx) fun answer later hanswer => ?_
    obtain ⟨result, after⟩ := answer
    cases result with
    | ok _ => exact ih later _ hanswer.1
    | error interrupt => exact logic.done hanswer

theorem closeAll (h : inst.Follows p logic good fine ends) (known : I)
    (brackets : List Bracket) (hctx : fine ctx known) :
    logic.Holds known (inst.closeAll p brackets ctx) fine := by
  induction brackets generalizing known ctx with
  | nil => exact logic.done hctx
  | cons bracket rest ih =>
    exact logic.bind (h.runStage known _ bracket.release hctx) fun answer later hanswer =>
      ih later hanswer.1

end Instance.Follows

end StagedFlow
