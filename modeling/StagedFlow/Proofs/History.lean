import StagedFlow.Proofs.Recording

/-!
# What a call does

The record of a call falls into visits: stages that were entered, each with the hooks that ran
there. The visits of a call are those of its walk, up to the first interrupt, and after them those
that close what the walk has left open. `Fires`, `Walks` and `Closes` say what a list of hooks, a
walk and the closing of brackets can do, step by step; the main statement, `exists_history`, is that
every call does this and nothing else, and that its record tells all of it.
-/

namespace StagedFlow

variable {K : Type} {V : K → Type} {S W H : Type}

def Context.applyAll (ctx : Context S H) (changes : List (Changes S H)) : Context S H :=
  changes.foldl Context.apply ctx

namespace Context

@[simp]
theorem callId_applyAll (ctx : Context S H) (changes : List (Changes S H)) :
    (ctx.applyAll changes).callId = ctx.callId := by
  induction changes generalizing ctx with
  | nil => rfl
  | cons c rest ih => exact ih (ctx.apply c)

@[simp]
theorem scope_applyAll (ctx : Context S H) (changes : List (Changes S H)) :
    (ctx.applyAll changes).scope = ctx.scope := by
  induction changes generalizing ctx with
  | nil => rfl
  | cons c rest ih => exact ih (ctx.apply c)

/-- What is attached stays, and new hooks come last. -/
@[simp]
theorem attached_applyAll (ctx : Context S H) (changes : List (Changes S H)) :
    (ctx.applyAll changes).attached = ctx.attached ++ changes.flatMap Changes.attached := by
  induction changes generalizing ctx with
  | nil => simp [applyAll]
  | cons c rest ih =>
    have hrest := ih (ctx.apply c)
    rw [List.flatMap_cons, ← List.append_assoc]
    exact hrest

/-- The last change of the output counts. -/
@[simp]
theorem output_applyAll (ctx : Context S H) (changes : List (Changes S H)) :
    (ctx.applyAll changes).output =
      (changes.filterMap Changes.output).getLast?.getD ctx.output := by
  induction changes generalizing ctx with
  | nil => rfl
  | cons c rest ih =>
    have hrest : (ctx.applyAll (c :: rest)).output =
        (rest.filterMap Changes.output).getLast?.getD (c.output.getD ctx.output) :=
      ih (ctx.apply c)
    rw [hrest]
    cases hc : c.output with
    | none => rw [List.filterMap_cons_none hc, Option.getD_none]
    | some output =>
      rw [List.filterMap_cons_some hc, List.getLast?_cons, Option.getD_some, Option.getD_some]

end Context

/-- Things were done in the order of a list, up to and including the first that did not pass. -/
structure UpToStop {α β : Type} (key : β → α) (Passes : β → Prop) (todo : List α)
    (made : List β) : Prop where
  isPrefix : made.map key <+: todo
  passes : ∀ b ∈ made.dropLast, Passes b
  complete : (∀ b ∈ made, Passes b) → made.map key = todo

namespace UpToStop

variable {α β : Type} {key : β → α} {Passes : β → Prop} {a : α} {todo : List α} {b : β}
  {made : List β}

theorem nil : UpToStop key Passes [] [] := ⟨List.prefix_refl [], by simp, fun _ => rfl⟩

theorem cons (hkey : key b = a) (hpass : Passes b) (h : UpToStop key Passes todo made) :
    UpToStop key Passes (a :: todo) (b :: made) where
  isPrefix := by
    rw [List.map_cons, hkey]
    exact List.cons_prefix_cons.mpr ⟨rfl, h.isPrefix⟩
  passes := by
    cases made with
    | nil => simp
    | cons c rest =>
      intro x hx
      rw [List.dropLast_cons_cons] at hx
      rcases List.mem_cons.mp hx with rfl | hx
      · exact hpass
      · exact h.passes x hx
  complete := fun hall => by
    rw [List.map_cons, hkey, h.complete fun x hx => hall x (List.mem_cons_of_mem b hx)]

theorem stop (hkey : key b = a) (hfail : ¬ Passes b) : UpToStop key Passes (a :: todo) [b] where
  isPrefix := by
    rw [List.map_singleton, hkey]
    exact ⟨todo, rfl⟩
  passes := by simp
  complete := fun hall => absurd (hall b List.mem_cons_self) hfail

end UpToStop

def Firing.Passes (firing : Firing S H) : Prop := firing.result = .ok ()

def Firing.interrupt? (firing : Firing S H) : Option Interrupt :=
  match firing.result with
  | .ok () => none
  | .error interrupt => some interrupt

def resultOf (firings : List (Firing S H)) : Except Interrupt Unit :=
  match firings.findSome? Firing.interrupt? with
  | none => .ok ()
  | some interrupt => .error interrupt

theorem Firing.passes_iff (firing : Firing S H) : firing.Passes ↔ firing.interrupt? = none := by
  unfold Firing.Passes Firing.interrupt?
  cases firing.result <;> simp

theorem resultOf_eq_ok_iff (firings : List (Firing S H)) :
    resultOf firings = .ok () ↔ ∀ firing ∈ firings, firing.Passes := by
  unfold resultOf
  rw [show (∀ firing ∈ firings, firing.Passes) ↔ firings.findSome? Firing.interrupt? = none by
    simp only [List.findSome?_eq_none_iff, Firing.passes_iff]]
  cases firings.findSome? Firing.interrupt? <;> simp

/-- Hooks run one after another. Each sees the context that those before it have left, and the first
one that interrupts is the last. -/
inductive Fires : List (HookBinding H) → Context S H → List (Firing S H) →
    Except Interrupt Unit → Context S H → Prop where
  | done (ctx : Context S H) : Fires [] ctx [] (.ok ()) ctx
  | passed {hook : HookBinding H} {rest : List (HookBinding H)} {ctx after : Context S H}
      {changes : Changes S H} {firings : List (Firing S H)} {result : Except Interrupt Unit}
      (hrest : Fires rest (ctx.apply changes) firings result after) :
      Fires (hook :: rest) ctx (⟨hook, ctx, .ok (), changes⟩ :: firings) result after
  | stopped (hook : HookBinding H) (rest : List (HookBinding H)) (ctx : Context S H)
      (changes : Changes S H) (interrupt : Interrupt) :
      Fires (hook :: rest) ctx [⟨hook, ctx, .error interrupt, changes⟩] (.error interrupt)
        (ctx.apply changes)

theorem Fires.after_eq {hooks : List (HookBinding H)} {ctx after : Context S H}
    {firings : List (Firing S H)} {result : Except Interrupt Unit}
    (h : Fires hooks ctx firings result after) :
    after = ctx.applyAll (firings.map Firing.changes) := by
  induction h with
  | done => rfl
  | passed _ ih => exact ih
  | stopped => rfl

theorem Fires.result_eq {hooks : List (HookBinding H)} {ctx after : Context S H}
    {firings : List (Firing S H)} {result : Except Interrupt Unit}
    (h : Fires hooks ctx firings result after) : result = resultOf firings := by
  induction h with
  | done => rfl
  | passed _ ih => exact ih
  | stopped => rfl

theorem Fires.upToStop {hooks : List (HookBinding H)} {ctx after : Context S H}
    {firings : List (Firing S H)} {result : Except Interrupt Unit}
    (h : Fires hooks ctx firings result after) :
    UpToStop Firing.hook Firing.Passes hooks firings := by
  induction h with
  | done => exact .nil
  | passed _ ih => exact ih.cons rfl rfl
  | stopped => exact .stop rfl nofun

structure Visit (S H : Type) where
  phase : Phase
  stage : Stage
  firings : List (Firing S H)

namespace Visit

def step (visit : Visit S H) : Phase × Stage := (visit.phase, visit.stage)

def event (flow call : String) (visit : Visit S H) : FlowEvent :=
  .entered flow call visit.phase visit.stage

def marks (flow call : String) (visit : Visit S H) : List (Mark S H) :=
  .event (visit.event flow call) :: visit.firings.map .fired

def changes (visit : Visit S H) : List (Changes S H) := visit.firings.map Firing.changes

def attached (visit : Visit S H) : List (HookBinding H) := visit.changes.flatMap Changes.attached

def Passes (visit : Visit S H) : Prop := ∀ firing ∈ visit.firings, firing.Passes

def Happens (hooks : HookMap H) (ctx : Context S H) (visit : Visit S H)
    (result : Except Interrupt Unit) (after : Context S H) : Prop :=
  Fires (hooks.resolve visit.stage ctx.scope ctx.attached) (ctx.enter visit.stage) visit.firings
    result after

theorem Happens.after_eq {hooks : HookMap H} {ctx after : Context S H} {visit : Visit S H}
    {result : Except Interrupt Unit} (h : visit.Happens hooks ctx result after) :
    after = (ctx.enter visit.stage).applyAll visit.changes :=
  Fires.after_eq h

theorem Happens.callId_eq {hooks : HookMap H} {ctx after : Context S H} {visit : Visit S H}
    {result : Except Interrupt Unit} (h : visit.Happens hooks ctx result after) :
    after.callId = ctx.callId := by
  rw [h.after_eq, Context.callId_applyAll]
  rfl

theorem Happens.passes_iff {hooks : HookMap H} {ctx after : Context S H} {visit : Visit S H}
    {result : Except Interrupt Unit} (h : visit.Happens hooks ctx result after) :
    visit.Passes ↔ result = .ok () := by
  rw [Fires.result_eq h, resultOf_eq_ok_iff]
  rfl

end Visit

/-- A walk through stages visits one after another, up to the first interrupt. It keeps the brackets
that are open. -/
inductive Walks (plan : Plan) (hooks : HookMap H) : List (Phase × Stage) → List Bracket →
    Context S H → List (Visit S H) → Instance.Walked S H → Prop where
  | done (opened : List Bracket) (ctx : Context S H) :
      Walks plan hooks [] opened ctx [] ⟨.ok (), opened, ctx⟩
  | passed {visit : Visit S H} {rest : List (Phase × Stage)} {opened : List Bracket}
      {ctx after : Context S H} {visits : List (Visit S H)} {walked : Instance.Walked S H}
      (hvisit : visit.Happens hooks ctx (.ok ()) after)
      (hrest : Walks plan hooks rest (Instance.enterBrackets plan visit.stage opened) after visits
        walked) :
      Walks plan hooks (visit.step :: rest) opened ctx (visit :: visits) walked
  | stopped {visit : Visit S H} {rest : List (Phase × Stage)} {opened : List Bracket}
      {ctx after : Context S H} {interrupt : Interrupt}
      (hvisit : visit.Happens hooks ctx (.error interrupt) after) :
      Walks plan hooks (visit.step :: rest) opened ctx [visit]
        ⟨.error interrupt, Instance.enterBrackets plan visit.stage opened, after⟩

inductive Closes (plan : Plan) (hooks : HookMap H) : List Bracket → Context S H →
    List (Visit S H) → Context S H → Prop where
  | done (ctx : Context S H) : Closes plan hooks [] ctx [] ctx
  | next {bracket : Bracket} {rest : List Bracket} {visit : Visit S H}
      {ctx middle after : Context S H} {visits : List (Visit S H)} {result : Except Interrupt Unit}
      (hstep : visit.step =
        ((plan.phaseOf? bracket.release).getD .finalize, bracket.release))
      (hvisit : visit.Happens hooks ctx result middle)
      (hrest : Closes plan hooks rest middle visits after) :
      Closes plan hooks (bracket :: rest) ctx (visit :: visits) after

/-- A walk visits its stages up to and including the first that interrupts. -/
theorem Walks.upToStop {plan : Plan} {hooks : HookMap H} {steps : List (Phase × Stage)}
    {opened : List Bracket} {ctx : Context S H} {visits : List (Visit S H)}
    {walked : Instance.Walked S H} (h : Walks plan hooks steps opened ctx visits walked) :
    UpToStop Visit.step Visit.Passes steps visits := by
  induction h with
  | done => exact .nil
  | passed hvisit _ ih => exact ih.cons rfl (hvisit.passes_iff.mpr rfl)
  | stopped hvisit => exact .stop rfl fun hpass => nomatch hvisit.passes_iff.mp hpass

/-- The first interrupt of a walk is its result. -/
theorem Walks.result_eq {plan : Plan} {hooks : HookMap H} {steps : List (Phase × Stage)}
    {opened : List Bracket} {ctx : Context S H} {visits : List (Visit S H)}
    {walked : Instance.Walked S H} (h : Walks plan hooks steps opened ctx visits walked) :
    walked.result = resultOf (visits.flatMap Visit.firings) := by
  induction h with
  | done => rfl
  | @passed visit _ _ _ _ visits _ hvisit _ ih =>
    have hnone : visit.firings.findSome? Firing.interrupt? = none := by
      rw [List.findSome?_eq_none_iff]
      intro firing hmem
      exact firing.passes_iff.mp (hvisit.passes_iff.mpr rfl firing hmem)
    rw [ih, resultOf, resultOf, List.flatMap_cons, List.findSome?_append, hnone, Option.none_or]
  | stopped hvisit =>
    rw [List.flatMap_singleton]
    exact Fires.result_eq hvisit

/-- Visits one after another, whatever their results: what walks and closings have in common. -/
inductive Proceeds (hooks : HookMap H) : Context S H → List (Visit S H) → Context S H → Prop where
  | done (ctx : Context S H) : Proceeds hooks ctx [] ctx
  | next {visit : Visit S H} {ctx middle after : Context S H} {visits : List (Visit S H)}
      {result : Except Interrupt Unit} (hvisit : visit.Happens hooks ctx result middle)
      (hrest : Proceeds hooks middle visits after) : Proceeds hooks ctx (visit :: visits) after

theorem Walks.proceeds {plan : Plan} {hooks : HookMap H} {steps : List (Phase × Stage)}
    {opened : List Bracket} {ctx : Context S H} {visits : List (Visit S H)}
    {walked : Instance.Walked S H} (h : Walks plan hooks steps opened ctx visits walked) :
    Proceeds hooks ctx visits walked.context := by
  induction h with
  | done => exact .done _
  | passed hvisit _ ih => exact .next hvisit ih
  | stopped hvisit => exact .next hvisit (.done _)

theorem Closes.proceeds {plan : Plan} {hooks : HookMap H} {brackets : List Bracket}
    {ctx after : Context S H} {visits : List (Visit S H)}
    (h : Closes plan hooks brackets ctx visits after) : Proceeds hooks ctx visits after := by
  induction h with
  | done => exact .done _
  | next _ hvisit _ ih => exact .next hvisit ih

namespace Proceeds

variable {hooks : HookMap H} {ctx middle after : Context S H} {visits rest : List (Visit S H)}

theorem append (h : Proceeds hooks ctx visits middle) (hrest : Proceeds hooks middle rest after) :
    Proceeds hooks ctx (visits ++ rest) after := by
  induction h with
  | done => exact hrest
  | next hvisit _ ih => exact .next hvisit (ih hrest)

theorem callId_eq (h : Proceeds hooks ctx visits after) : after.callId = ctx.callId := by
  induction h with
  | done => rfl
  | next hvisit _ ih => exact ih.trans hvisit.callId_eq

/-- The output at the end is what the last change of it has left. -/
theorem output_eq (h : Proceeds hooks ctx visits after) :
    after.output =
      ((visits.flatMap Visit.changes).filterMap Changes.output).getLast?.getD ctx.output := by
  induction h with
  | done => rfl
  | @next visit ctx middle _ visits _ hvisit _ ih =>
    have hmiddle : middle.output =
        (visit.changes.filterMap Changes.output).getLast?.getD ctx.output := by
      rw [hvisit.after_eq, Context.output_applyAll]
      rfl
    rw [ih, hmiddle, List.flatMap_cons, List.filterMap_append, List.getLast?_append,
      Option.getD_or]

/-- A visit starts under the scope of the call, with all that was attached before it. -/
theorem exists_happens (h : Proceeds hooks ctx visits after) {before later : List (Visit S H)}
    {visit : Visit S H} (hsplit : visits = before ++ visit :: later) :
    ∃ seen result next, visit.Happens hooks seen result next ∧ seen.scope = ctx.scope ∧
      seen.attached = ctx.attached ++ before.flatMap Visit.attached := by
  induction h generalizing before with
  | done => exact absurd hsplit (by simp)
  | @next first ctx middle after visits result hfirst _ ih =>
    cases before with
    | nil =>
      obtain ⟨rfl, -⟩ := List.cons.inj hsplit
      exact ⟨ctx, result, middle, hfirst, rfl, (List.append_nil _).symm⟩
    | cons head before =>
      obtain ⟨rfl, hrest⟩ := List.cons.inj hsplit
      obtain ⟨seen, result, next, hvisit, hscope, hattached⟩ := ih hrest
      have hmiddle := hfirst.after_eq
      refine ⟨seen, result, next, hvisit, ?_, ?_⟩
      · rw [hscope, hmiddle, Context.scope_applyAll]
        rfl
      · rw [hattached, hmiddle, Context.attached_applyAll, List.flatMap_cons, List.append_assoc]
        rfl

end Proceeds

/-! ### The record of a call -/

namespace Instance

/-- Recorded hooks run as they do unrecorded, and the record tells how. -/
theorem exists_firings (p : Platform S W H) (hooks : List (HookBinding H)) (ctx : Context S H)
    (others : List (W → W)) (w : W) (marks : List (Mark S H)) :
    ∃ firings, Fires hooks ctx firings ((runHooks p hooks ctx).amid others w).value.1
        ((runHooks p hooks ctx).amid others w).value.2 ∧
      (runHooks p.recorded hooks ctx).amid (others.map (Prod.map · id)) (w, marks) =
        ((runHooks p hooks ctx).amid others w).beside (marks ++ firings.map .fired) := by
  induction hooks generalizing ctx others w marks with
  | nil => exact ⟨[], .done ctx, by simp [runHooks, Task.Ending.beside]⟩
  | cons hook rest ih =>
    rw [runHooks, runHooks]
    simp only [Task.bind_eq, Task.amid_bind, Platform.amid_invoke_recorded]
    generalize (p.invoke hook ctx).amid others w = answer
    obtain ⟨⟨result, changes⟩, others, w⟩ := answer
    cases result with
    | ok _ =>
      obtain ⟨firings, hfires, hrecord⟩ := ih (ctx.apply changes) others w
        (marks ++ [.fired ⟨hook, ctx, .ok (), changes⟩])
      refine ⟨⟨hook, ctx, .ok (), changes⟩ :: firings, .passed hfires, ?_⟩
      simpa [Task.Ending.beside] using hrecord
    | error interrupt =>
      exact ⟨[⟨hook, ctx, .error interrupt, changes⟩], .stopped hook rest ctx changes interrupt,
        by simp [Task.Ending.beside]⟩

@[simp]
theorem name_recorded (inst : Instance K V W H) (place : Nat) :
    (inst.recorded place : Instance K V (W × List (Mark S H)) H).name = inst.name := rfl

@[simp]
theorem plan_recorded (inst : Instance K V W H) (place : Nat) :
    (inst.recorded place : Instance K V (W × List (Mark S H)) H).plan = inst.plan := rfl

/-- A recorded stage is entered as it is unrecorded, and the record tells of the visit. -/
theorem exists_visit (p : Platform S W H) (inst : Instance K V W H) (phase : Phase)
    (stage : Stage) (ctx : Context S H) (others : List (W → W)) (w : W)
    (marks : List (Mark S H)) :
    ∃ visit : Visit S H, visit.step = (phase, stage) ∧
      visit.Happens inst.hooks ctx ((runStage p inst phase stage ctx).amid others w).value.1
        ((runStage p inst phase stage ctx).amid others w).value.2 ∧
      ∀ place, (runStage p.recorded (inst.recorded place) phase stage ctx).amid
          (others.map (Prod.map · id)) (w, marks) =
        ((runStage p inst phase stage ctx).amid others w).beside
          (marks ++ visit.marks inst.name ctx.callId) := by
  simp only [runStage, Task.bind_eq, Task.amid_bind]
  have hemit : ∀ place, ((inst.recorded place).emit
      (.entered inst.name (ctx.enter stage).callId phase stage)).amid
        (others.map (Prod.map · id)) (w, marks) = _ := fun place =>
    inst.amid_emit_recorded place _ others w marks
  simp only [name_recorded, hemit]
  generalize (inst.emit _).amid others w = told
  obtain ⟨-, others, w⟩ := told
  obtain ⟨firings, hfires, hrecord⟩ := exists_firings p
    (inst.hooks.resolve stage ctx.scope ctx.attached) (ctx.enter stage) others w
    (marks ++ [.event (.entered inst.name ctx.callId phase stage)])
  refine ⟨⟨phase, stage, firings⟩, rfl, hfires, fun _ => ?_⟩
  rw [List.append_assoc] at hrecord
  exact hrecord

def withHooks (inst : Instance K V W H) (hooks : HookMap H) : Instance K V W H :=
  { inst with hooks }

/-- Only the hooks of a stage matter when it is entered. -/
theorem runStage_withHooks (p : Platform S W H) (inst : Instance K V W H) (hooks : HookMap H)
    (phase : Phase) (stage : Stage) (ctx : Context S H)
    (hagree : hooks.hooksAt stage = inst.hooks.hooksAt stage) :
    runStage p (inst.withHooks hooks) phase stage ctx = runStage p inst phase stage ctx := by
  have hresolve : hooks.resolve stage ctx.scope ctx.attached =
      inst.hooks.resolve stage ctx.scope ctx.attached := by
    rw [HookMap.resolve, HookMap.resolve, hagree]
  have henter : ∀ map : HookMap H, map.resolve stage (ctx.enter stage).scope
      (ctx.enter stage).attached = map.resolve stage ctx.scope ctx.attached := fun _ => rfl
  rw [runStage, runStage, henter, henter, ← hresolve]
  rfl

/-- A recorded walk goes as it does unrecorded, and the record tells of its visits. Other hooks that
agree at the stages of these visits make for the same walk. -/
theorem exists_walk (p : Platform S W H) (inst : Instance K V W H)
    (steps : List (Phase × Stage)) (opened : List Bracket) (ctx : Context S H)
    (others : List (W → W)) (w : W) (marks : List (Mark S H)) :
    ∃ visits, Walks inst.plan inst.hooks steps opened ctx visits
        ((walk p inst steps opened ctx).amid others w).value ∧
      (∀ place, (walk p.recorded (inst.recorded place) steps opened ctx).amid
          (others.map (Prod.map · id)) (w, marks) =
        ((walk p inst steps opened ctx).amid others w).beside
          (marks ++ visits.flatMap (Visit.marks inst.name ctx.callId))) ∧
      ∀ hooks : HookMap H,
        (∀ visit ∈ visits, hooks.hooksAt visit.stage = inst.hooks.hooksAt visit.stage) →
        (walk p (inst.withHooks hooks) steps opened ctx).amid others w =
          (walk p inst steps opened ctx).amid others w := by
  induction steps generalizing opened ctx others w marks with
  | nil => exact ⟨[], .done opened ctx, by simp [walk, Task.Ending.beside],
      fun _ _ => rfl⟩
  | cons step rest ih =>
    obtain ⟨phase, stage⟩ := step
    simp only [walk, Task.bind_eq, Task.amid_bind]
    obtain ⟨visit, hstep, hvisit, hrecord⟩ := exists_visit p inst phase stage ctx others w marks
    have hstage : stage = visit.stage := (congrArg Prod.snd hstep).symm
    have hswap : ∀ hooks : HookMap H, hooks.hooksAt visit.stage = inst.hooks.hooksAt visit.stage →
        (runStage p (inst.withHooks hooks) phase stage ctx).amid others w =
          (runStage p inst phase stage ctx).amid others w := fun hooks hagree => by
      rw [runStage_withHooks p inst hooks phase stage ctx (hstage ▸ hagree)]
    simp only [plan_recorded, hrecord]
    rw [← hstep]
    revert hvisit hswap
    generalize (runStage p inst phase stage ctx).amid others w = answer
    obtain ⟨⟨result, after⟩, others', w'⟩ := answer
    intro hvisit hswap
    cases result with
    | ok _ =>
      obtain ⟨visits, hwalks, hrest, hother⟩ := ih (enterBrackets inst.plan stage opened) after
        others' w' (marks ++ visit.marks inst.name ctx.callId)
      have hcall : after.callId = ctx.callId := hvisit.callId_eq
      simp only [hcall, List.append_assoc] at hrest
      refine ⟨visit :: visits, .passed hvisit (hstage ▸ hwalks), hrest, fun hooks hagree => ?_⟩
      rw [hswap hooks (hagree visit List.mem_cons_self)]
      exact hother hooks fun v hv => hagree v (List.mem_cons_of_mem visit hv)
    | error interrupt =>
      refine ⟨[visit], hstage ▸ .stopped hvisit, ?_, fun hooks hagree => ?_⟩
      · rw [List.flatMap_singleton]
        exact fun _ => rfl
      · rw [hswap hooks (hagree visit List.mem_cons_self)]
        rfl

/-- Recorded brackets are closed as they are unrecorded, and the record tells of the visits. -/
theorem exists_closing (p : Platform S W H) (inst : Instance K V W H)
    (brackets : List Bracket) (ctx : Context S H) (others : List (W → W)) (w : W)
    (marks : List (Mark S H)) :
    ∃ visits, Closes inst.plan inst.hooks brackets ctx visits
        ((closeAll p inst brackets ctx).amid others w).value ∧
      ∀ place, (closeAll p.recorded (inst.recorded place) brackets ctx).amid
          (others.map (Prod.map · id)) (w, marks) =
        ((closeAll p inst brackets ctx).amid others w).beside
          (marks ++ visits.flatMap (Visit.marks inst.name ctx.callId)) := by
  induction brackets generalizing ctx others w marks with
  | nil => exact ⟨[], .done ctx, by simp [closeAll, Task.Ending.beside]⟩
  | cons bracket rest ih =>
    simp only [closeAll, Task.bind_eq, Task.amid_bind]
    obtain ⟨visit, hstep, hvisit, hrecord⟩ := exists_visit p inst
      ((inst.plan.phaseOf? bracket.release).getD .finalize) bracket.release ctx others w marks
    simp only [plan_recorded, hrecord]
    revert hvisit
    generalize (runStage p inst _ bracket.release ctx).amid others w = answer
    obtain ⟨⟨result, middle⟩, others, w⟩ := answer
    intro hvisit
    obtain ⟨visits, hcloses, hrest⟩ := ih middle others w
      (marks ++ visit.marks inst.name ctx.callId)
    refine ⟨visit :: visits, .next hstep hvisit hcloses, ?_⟩
    rw [List.flatMap_cons, ← List.append_assoc, ← hvisit.callId_eq]
    rw [← hvisit.callId_eq] at hrest
    exact hrest

def startContext (p : Platform S W H) (inst : Instance K V W H) (setting : Setting S W) :
    Context S H :=
  .start (p.nextId setting.world) inst.definition.token setting.input (p.scope setting.deps)
    setting.deps

def walkOf (p : Platform S W H) (inst : Instance K V W H) (setting : Setting S W) :
    Task.Ending W (Walked S H) :=
  (walk p inst inst.plan.steps [] (inst.startContext p setting)).amid setting.others
    (Observer.emit inst.observers (.started inst.name (p.nextId setting.world))
      (p.countCall setting.world))

def closingOf (p : Platform S W H) (inst : Instance K V W H) (setting : Setting S W) :
    Task.Ending W (Context S H) :=
  (closeAll p inst (inst.walkOf p setting).value.opened (inst.walkOf p setting).value.context).amid
    (inst.walkOf p setting).others (inst.walkOf p setting).world

/-- A call is its start, its walk, the closing of brackets, and its end. -/
theorem amid_run (p : Platform S W H) (inst : Instance K V W H) (setting : Setting S W) :
    (inst.run p setting.input setting.deps).amid setting.others setting.world =
      let closed := inst.closingOf p setting
      let outcome := conclude (inst.walkOf p setting).value.result closed.value.output
      ⟨outcome, closed.others, p.retire closed.value.state
        (Observer.emit inst.observers
          (finalEvent inst.name (p.nextId setting.world) outcome) closed.world)⟩ := by
  simp only [run, emit, Task.bind_eq, Task.amid_bind, Task.amid_look, Task.amid_change,
    Task.pure_eq, Task.amid_done]
  rfl

theorem outcome_eq (p : Platform S W H) (inst : Instance K V W H) (setting : Setting S W) :
    inst.outcome p setting =
      conclude (inst.walkOf p setting).value.result (inst.closingOf p setting).value.output := by
  rw [outcome, amid_run]

theorem exists_walkOf (p : Platform S W H) (inst : Instance K V W H)
    (setting : Setting S W) :
    ∃ visits, Walks inst.plan inst.hooks inst.plan.steps [] (inst.startContext p setting) visits
        (inst.walkOf p setting).value ∧
      (∀ place, (inst.recorded place).walkOf p.recorded setting.recorded =
        (inst.walkOf p setting).beside (.event (.started inst.name (p.nextId setting.world)) ::
          visits.flatMap (Visit.marks inst.name (p.nextId setting.world)))) ∧
      ∀ hooks : HookMap H,
        (∀ visit ∈ visits, hooks.hooksAt visit.stage = inst.hooks.hooksAt visit.stage) →
          (inst.withHooks hooks).walkOf p setting = inst.walkOf p setting := by
  obtain ⟨visits, hwalks, hwalk, hother⟩ := exists_walk p inst inst.plan.steps []
    (inst.startContext p setting) setting.others
    (Observer.emit inst.observers (.started inst.name (p.nextId setting.world))
      (p.countCall setting.world)) [.event (.started inst.name (p.nextId setting.world))]
  refine ⟨visits, hwalks, fun place => ?_, hother⟩
  have hemit := Observer.emit_recorded place inst.observers
    (.started inst.name (p.nextId setting.world)) (p.countCall setting.world)
    ([] : List (Mark S H))
  refine Eq.trans ?_ (hwalk place)
  exact congrArg _ hemit

theorem exists_closingOf (p : Platform S W H) (inst : Instance K V W H)
    (setting : Setting S W) {marks : List (Mark S H)}
    (hwalk : ∀ place, (inst.recorded place).walkOf p.recorded setting.recorded =
      (inst.walkOf p setting).beside marks) :
    ∃ visits, Closes inst.plan inst.hooks (inst.walkOf p setting).value.opened
        (inst.walkOf p setting).value.context visits (inst.closingOf p setting).value ∧
      ∀ place, (inst.recorded place).closingOf p.recorded setting.recorded =
        (inst.closingOf p setting).beside (marks ++ visits.flatMap
          (Visit.marks inst.name (inst.walkOf p setting).value.context.callId)) := by
  obtain ⟨visits, hcloses, hclosing⟩ := exists_closing p inst
    (inst.walkOf p setting).value.opened (inst.walkOf p setting).value.context
    (inst.walkOf p setting).others (inst.walkOf p setting).world marks
  refine ⟨visits, hcloses, fun place => ?_⟩
  rw [closingOf, hwalk]
  exact hclosing place

end Instance

/-- What a call does: the visits of its walk, and those that close brackets afterwards. -/
structure History (p : Platform S W H) (inst : Instance K V W H) (setting : Setting S W) where
  visits : List (Visit S H)
  closing : List (Visit S H)
  walks : Walks inst.plan inst.hooks inst.plan.steps [] (inst.startContext p setting) visits
    (inst.walkOf p setting).value
  closes : Closes inst.plan inst.hooks (inst.walkOf p setting).value.opened
    (inst.walkOf p setting).value.context closing (inst.closingOf p setting).value
  /-- Other hooks that agree where the walk has come by make for the same walk. -/
  walkOf_withHooks : ∀ hooks : HookMap H,
    (∀ visit ∈ visits, hooks.hooksAt visit.stage = inst.hooks.hooksAt visit.stage) →
      (inst.withHooks hooks).walkOf p setting = inst.walkOf p setting

/-- All visits of a call, one after another. -/
theorem History.proceeds {p : Platform S W H} {inst : Instance K V W H} {setting : Setting S W}
    (history : History p inst setting) :
    Proceeds inst.hooks (inst.startContext p setting) (history.visits ++ history.closing)
      (inst.closingOf p setting).value :=
  history.walks.proceeds.append history.closes.proceeds

def Instance.marksOf (p : Platform S W H) (inst : Instance K V W H) (setting : Setting S W)
    (visits : List (Visit S H)) : List (Mark S H) :=
  let call := p.nextId setting.world
  .event (.started inst.name call) :: visits.flatMap (Visit.marks inst.name call) ++
    [.event (Instance.finalEvent inst.name call (inst.outcome p setting))]

/-- **The record of a call.** Every call has a history, and its record tells exactly that
history. -/
theorem exists_history (p : Platform S W H) (inst : Instance K V W H) (setting : Setting S W) :
    ∃ history : History p inst setting, ∀ place, inst.record p place setting =
      inst.marksOf p setting (history.visits ++ history.closing) := by
  obtain ⟨visits, hwalks, hwalk, hother⟩ := Instance.exists_walkOf p inst setting
  obtain ⟨closing, hcloses, hclosing⟩ := Instance.exists_closingOf p inst setting hwalk
  refine ⟨⟨visits, closing, hwalks, hcloses, hother⟩, fun place => ?_⟩
  have hcall : (inst.walkOf p setting).value.context.callId = p.nextId setting.world :=
    hwalks.proceeds.callId_eq
  rw [hcall] at hclosing
  have houtcome : Instance.conclude
      ((inst.recorded place).walkOf p.recorded setting.recorded).value.result
      ((inst.recorded place).closingOf p.recorded setting.recorded).value.output =
        inst.outcome p setting := by
    rw [hwalk, hclosing, Instance.outcome_eq]
    rfl
  have hrun := congrArg (fun ending => ending.world.2)
    (Instance.amid_run p.recorded (inst.recorded place) setting.recorded)
  have hlast := congrArg Prod.snd (Observer.emit_recorded place inst.observers
    (Instance.finalEvent inst.name (p.nextId setting.world) (inst.outcome p setting))
    (inst.closingOf p setting).world
    (Mark.event (.started inst.name (p.nextId setting.world)) ::
      visits.flatMap (Visit.marks inst.name (p.nextId setting.world)) ++
        closing.flatMap (Visit.marks inst.name (p.nextId setting.world))))
  simp only [houtcome] at hrun
  rw [hclosing] at hrun
  refine hrun.trans (hlast.trans ?_)
  simp only [Instance.marksOf, List.flatMap_append, List.cons_append]

end StagedFlow
