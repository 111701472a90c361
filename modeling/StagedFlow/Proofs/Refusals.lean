import StagedFlow.Proofs.Calling
import StagedFlow.Proofs.Invoked
import StagedFlow.Proofs.Limited

/-!
# Calls that are refused

The record of a call on a limited server has one request for a permit at most, and no mark about
permits comes before it. A request that is refused ends the walk: the tool is not run, and the call
fails with the reason of the refusal, whatever is closed after that.
-/

namespace StagedFlow

variable {X L : Type} {K : Type} {V : K → Type}

theorem UpToStop.exists_init {α β : Type} {key : β → α} {Passes : β → Prop} {todo : List α}
    {made : List β} (h : UpToStop key Passes todo made) {b : β} (hb : b ∈ made)
    (hfail : ¬ Passes b) : ∃ init, made = init ++ [b] ∧ ∀ a ∈ init, Passes a := by
  have hne : made ≠ [] := List.ne_nil_of_mem hb
  have hsplit := List.dropLast_append_getLast hne
  refine ⟨made.dropLast, ?_, h.passes⟩
  rw [← hsplit] at hb
  rcases List.mem_append.mp hb with hinit | hlast
  · exact absurd (h.passes b hinit) hfail
  · rw [List.mem_singleton.mp hlast, hsplit]

/-- An interrupt that nothing comes before is the first one. -/
theorem firstInterrupt?_eq_some {S H : Type} {visits : List (Visit S H)} {visit : Visit S H}
    {firings : List (Firing S H)} {firing : Firing S H} {interrupt : Interrupt}
    (hvisits : ∀ v ∈ visits, v.Passes) (hvisit : visit.firings = firings ++ [firing])
    (hfirings : ∀ f ∈ firings, f.Passes) (hresult : firing.result = .error interrupt) :
    firstInterrupt? (visits ++ [visit]) = some interrupt := by
  have hbefore : firstInterrupt? visits = none := (firstInterrupt?_eq_none_iff visits).mpr hvisits
  have hearlier : firings.findSome? Firing.interrupt? = none :=
    List.findSome?_eq_none_iff.mpr fun f hf => f.passes_iff.mp (hfirings f hf)
  rw [firstInterrupt?] at hbefore ⊢
  rw [List.flatMap_append, List.findSome?_append, hbefore, Option.none_or, List.flatMap_singleton,
    hvisit, List.findSome?_append, hearlier, Option.none_or]
  exact List.findSome?_singleton.trans (firing.interrupt?_eq_some_iff.mpr hresult)

theorem pairwise_of_countP_le_one {α : Type} {p : α → Bool} {items : List α}
    (h : items.countP p ≤ 1) : items.Pairwise fun a b => p b = true → p a = false := by
  induction items with
  | nil => exact .nil
  | cons a rest ih =>
    rw [List.countP_cons] at h
    refine .cons (fun b hb hpb => ?_) (ih (by omega))
    have hpos : 0 < rest.countP p := List.countP_pos_iff.mpr ⟨b, hb, hpb⟩
    cases hpa : p a with
    | false => rfl
    | true =>
      rw [hpa, if_pos rfl] at h
      omega

theorem HookMap.countP_resolve_le {H : Type} (map : HookMap H) (p : HookBinding H → Bool)
    (stage : Stage) (scope : Option String) (attached : List (HookBinding H)) :
    (map.resolve stage scope attached).countP p ≤ map.bindings.countP p + attached.countP p := by
  have hstatic : (map.hooksAt stage).countP p ≤ map.bindings.countP p := by
    rw [hooksAt, (List.mergeSort_perm _ _).countP_eq]
    exact List.filter_sublist.countP_le
  rw [resolve, (List.mergeSort_perm _ _).countP_eq, List.countP_append]
  have hkept : ((map.hooksAt stage).filter fun hook => hook.appliesTo scope).countP p ≤
      (map.hooksAt stage).countP p := List.filter_sublist.countP_le
  have hhere : ((attached.filter fun hook => hook.stage == stage).filter
      fun hook => hook.appliesTo scope).countP p ≤ attached.countP p :=
    (List.filter_sublist.trans List.filter_sublist).countP_le
  exact Nat.add_le_add (Nat.le_trans hkept hstatic) hhere

def HookBinding.Placed (hook : HookBinding (Handler X L)) : Prop :=
  (hook.handler.acquires = true → hook.stage = "acquireSemaphore") ∧
    (hook.handler.releases = true → hook.stage = "releaseSemaphore")

/-- The call flow of a limited server: the hooks that admit calls are at their stages, and there is
one that asks for permits. -/
structure Instance.Admitting (inst : Instance K V (World L) (Handler X L))
    (behave : X → ToolM X L Unit) : Prop extends inst.Limited behave where
  plan_eq : inst.plan = callPlan
  placed : ∀ hook ∈ inst.hooks.bindings, hook.Placed
  single : inst.hooks.bindings.countP (fun hook => hook.handler.acquires) ≤ 1

def Terms.placed : Terms (CallState X L) (World L) (Handler X L) where
  manner := .free
  good hook := hook.handler.Limited ∧ hook.Placed
  fine ctx := (∀ hook ∈ ctx.attached, hook.Custom) ∧
    CallFlow.Carries .sparing HookBinding.Custom ctx.state
  raises _ := True

theorem HookBinding.Custom.good {hook : HookBinding (Handler X L)} (h : hook.Custom) :
    hook.handler.Limited ∧ hook.Placed := by
  obtain ⟨own, hown⟩ := h
  rw [Placed, hown]
  exact ⟨trivial, nofun, nofun⟩

/-- Taking and giving permits changes nothing else that matters. -/
theorem Terms.placed_exchange {ctx : Context (CallState X L) (Handler X L)}
    (hctx : Terms.placed.fine ctx) {state : CallState X L}
    (htool : state.get? .tool = ctx.state.get? .tool) :
    Terms.placed.fine (ctx.apply { state := some state }) := by
  refine ⟨?_, fun tool hfound => hctx.2 tool (htool.symm.trans hfound)⟩
  simpa [Context.apply] using hctx.1

theorem Admission.keeps_acquire :
    (acquire : ToolM X L Unit).Keeps Terms.placed fun _ => True := by
  intro ctx hctx
  have htool : (ctx.state.insert Slot.permit ()).get? .tool = ctx.state.get? .tool :=
    Bag.get?_insert_of_ne _ _ (by decide)
  rw [acquire_eq]
  refine .act trivial (.inl trivial) fun w => ?_
  split
  · exact .done ⟨by rwa [Context.apply_none], trivial⟩
  refine .act trivial (.inl trivial) fun _ => ?_
  split
  · exact .act trivial (.inl trivial) fun _ => .done ⟨Terms.placed_exchange hctx htool, trivial⟩
  · exact .done ⟨Terms.placed_exchange hctx htool, trivial⟩

theorem Admission.keeps_release :
    (release : ToolM X L Unit).Keeps Terms.placed fun _ => True := by
  intro ctx hctx
  have htool : (ctx.state.erase Slot.permit).get? .tool = ctx.state.get? .tool :=
    Bag.get?_erase_of_ne _ (by decide)
  rw [release_eq]
  split
  · exact .act trivial (.inl trivial) fun _ => .done ⟨Terms.placed_exchange hctx htool, trivial⟩
  · exact .done ⟨Terms.placed_exchange hctx htool, trivial⟩

/-- What spares the permits keeps to these terms. -/
theorem HookM.Keeps.placed {m : ToolM X L Unit}
    (h : ∀ held, m.Keeps (.sparing held) fun _ => True) :
    m.Keeps Terms.placed fun _ => True := by
  intro ctx hctx
  have hkeeps := h (ctx.state.contains .permit) ctx ⟨hctx.1, hctx.2, rfl⟩
  refine hkeeps.free.mono fun answer hanswer => ?_
  exact ⟨⟨hanswer.1.1, hanswer.1.2.1⟩, hanswer.2⟩

theorem Instance.Limited.upholds {inst : Instance K V (World L) (Handler X L)}
    {behave : X → ToolM X L Unit} (h : inst.Limited behave) :
    (toolPlatform behave).Upholds Terms.placed where
  enter _ hctx _ := hctx
  attached _ hctx hook hhook := (hctx.1 hook hhook).good
  invoke hook hhook := by
    obtain ⟨name, stage, priority, owner, handler⟩ := hook
    cases handler with
    | custom own => exact .placed (h.own own)
    | call flow step =>
      have hflow : flow.Spares := hhook.1
      exact .placed (hflow.keeps_step step)
    | list flow step => exact hhook.1.elim
    | acquire => exact Admission.keeps_acquire
    | release => exact Admission.keeps_release

def Interrupt.refusal : Interrupt := .signal (.fail (some Admission.refusal))

theorem Admission.answers_acquire {behave : X → ToolM X L Unit} {hook : HookBinding (Handler X L)}
    (h : hook.handler.acquires = true) {ctx : Context (CallState X L) (Handler X L)} :
    ((toolPlatform behave).invoke hook ctx).Keeps .free
      fun answer => answer.1 = .ok () ∨ answer.1 = .error Interrupt.refusal := by
  obtain ⟨name, stage, priority, owner, handler⟩ := hook
  cases handler with
  | acquire =>
    change ((acquire : ToolM X L Unit) ctx).Keeps _ _
    rw [acquire_eq]
    refine .act trivial (.inl trivial) fun w => ?_
    split
    · exact .done (.inr rfl)
    refine .act trivial (.inl trivial) fun _ => ?_
    split
    · exact .act trivial (.inl trivial) fun _ => .done (.inl rfl)
    · exact .done (.inl rfl)
  | custom | call | list | release => cases h

def RequestsFirst (record : Marks X L) : Prop :=
  record.Pairwise fun a b => b.asks = true → a.matters = false

namespace RequestsFirst

variable {record : Marks X L} {a b : Mark (CallState X L) (Handler X L)}

/-- The first mark about permits is the request, if there is one. -/
theorem find?_matters (h : RequestsFirst record) (ha : a ∈ record) (hasks : a.asks = true) :
    record.find? Mark.matters = some a := by
  induction h with
  | nil => cases ha
  | @cons first rest hfirst _ ih =>
    rcases List.mem_cons.mp ha with rfl | hrest
    · exact List.find?_cons_of_pos (by rw [Mark.matters, hasks, Bool.true_or])
    · rw [List.find?_cons_of_neg (by simp [hfirst a hrest hasks])]
      exact ih hrest

theorem eq_of_asks (h : RequestsFirst record) (ha : a ∈ record) (hb : b ∈ record)
    (haasks : a.asks = true) (hbasks : b.asks = true) : a = b :=
  Option.some.inj ((h.find?_matters ha haasks).symm.trans (h.find?_matters hb hbasks))

end RequestsFirst

/-- The stages of a call before it asks for a permit. -/
def CallFlow.early : List Stage := callPlan.stages.take 5

section Record

variable {inst : Instance K V (World L) (Handler X L)} {behave : X → ToolM X L Unit}
  {setting : Setting (CallState X L) (World L)}

theorem History.closing_stage (history : History (toolPlatform behave) inst setting)
    (hplan : inst.plan = callPlan) {visit : Visit (CallState X L) (Handler X L)}
    (hvisit : visit ∈ history.closing) :
    visit.stage ≠ "acquireSemaphore" ∧ visit.stage ≠ "execute" := by
  have hwell : inst.plan.WellFormed := hplan ▸ CallFlow.wellFormed_callPlan
  have hmem : visit.stage ∈ history.closing.map Visit.stage := List.mem_map_of_mem hvisit
  rw [history.map_stage_closing hwell, hplan] at hmem
  obtain ⟨bracket, hbracket, hstage⟩ := List.mem_map.mp hmem
  have hbrackets : ∀ b ∈ callPlan.brackets,
      b.release ≠ "acquireSemaphore" ∧ b.release ≠ "execute" := by
    decide
  exact hstage ▸ hbrackets bracket (Plan.mem_pending.mp hbracket).1

/-- What comes before the stage that asks for a permit is early. -/
theorem History.early_of_acquire (history : History (toolPlatform behave) inst setting)
    (hplan : inst.plan = callPlan) :
    (history.visits ++ history.closing).Pairwise fun a b =>
      b.stage = "acquireSemaphore" → a.stage ∈ CallFlow.early := by
  have hstages : callPlan.stages.Pairwise fun a b =>
      b = "acquireSemaphore" → a ∈ CallFlow.early := by
    decide
  have hinitial := history.stages_initial
  rw [hplan] at hinitial
  refine List.pairwise_append.mpr ⟨?_, ?_, fun a _ b hb hstage => ?_⟩
  · exact List.pairwise_map.mp (hstages.sublist hinitial.sublist)
  · refine List.pairwise_of_forall_mem_list fun a _ b hb hstage => ?_
    exact absurd hstage (history.closing_stage hplan hb).1
  · exact absurd hstage (history.closing_stage hplan hb).1

namespace Instance.Admitting

variable (h : inst.Admitting behave) {history : History (toolPlatform behave) inst setting}
  (hrecord : ∀ place, inst.record (toolPlatform behave) place setting =
    inst.marksOf (toolPlatform behave) setting (history.visits ++ history.closing))
  (hdeps : CallFlow.Carries .sparing HookBinding.Custom setting.deps)

include h hrecord hdeps

theorem upheld : ∀ visit ∈ history.visits ++ history.closing,
    (∃ seen result next, visit.Happens inst.hooks seen result next ∧ Terms.placed.fine seen) ∧
      ∀ firing ∈ visit.firings, firing.hook.handler.Limited ∧ firing.hook.Placed := by
  refine history.proceeds.upheld h.upholds ?_ ?_ ⟨List.forall_mem_nil _, hdeps⟩
  · exact fun visit hvisit firing hfiring => Instance.does_of_record_eq hrecord hvisit hfiring
  · exact fun _ _ hook hhook _ => ⟨h.hooks hook hhook, h.placed hook hhook⟩

theorem pairwise_firings {visit : Visit (CallState X L) (Handler X L)}
    (hvisit : visit ∈ history.visits ++ history.closing) :
    visit.firings.Pairwise fun a b => b.hook.handler.acquires = true →
      a.hook.handler.acquires = false := by
  obtain ⟨seen, result, next, hhappens, hseen⟩ := (h.upheld hrecord hdeps visit hvisit).1
  have hattached : seen.attached.countP (fun hook => hook.handler.acquires) = 0 := by
    refine List.countP_eq_zero.mpr fun hook hhook => ?_
    obtain ⟨own, hown⟩ := hseen.1 hook hhook
    simp [hown]
  have hresolve := inst.hooks.countP_resolve_le (fun hook => hook.handler.acquires) visit.stage
    seen.scope seen.attached
  have hfired := (Fires.upToStop hhappens).isPrefix.sublist.countP_le
    (p := fun hook : HookBinding (Handler X L) => hook.handler.acquires)
  have hone := h.single
  have hcount : (visit.firings.map Firing.hook).countP (fun hook => hook.handler.acquires) ≤ 1 := by
    omega
  have hpairwise : (visit.firings.map Firing.hook).Pairwise fun a b =>
      b.handler.acquires = true → a.handler.acquires = false :=
    pairwise_of_countP_le_one hcount
  exact List.pairwise_map.mp hpairwise

section Visit

variable {visit : Visit (CallState X L) (Handler X L)}
  (hvisit : visit ∈ history.visits ++ history.closing)

include hvisit

theorem stage_of_acquires {firing : Firing (CallState X L) (Handler X L)}
    (hfiring : firing ∈ visit.firings) (hacquires : firing.hook.handler.acquires = true) :
    visit.stage = "acquireSemaphore" := by
  rw [← history.stage_hook hvisit hfiring]
  exact ((h.upheld hrecord hdeps visit hvisit).2 firing hfiring).2.1 hacquires

theorem stage_of_releases {firing : Firing (CallState X L) (Handler X L)}
    (hfiring : firing ∈ visit.firings) (hreleases : firing.hook.handler.releases = true) :
    visit.stage = "releaseSemaphore" := by
  rw [← history.stage_hook hvisit hfiring]
  exact ((h.upheld hrecord hdeps visit hvisit).2 firing hfiring).2.2 hreleases

theorem not_matters_of_early (hearly : visit.stage ∈ CallFlow.early)
    {mark : Mark (CallState X L) (Handler X L)}
    (hmark : mark ∈ visit.marks inst.name ((toolPlatform behave).nextId setting.world)) :
    mark.matters = false := by
  rcases List.mem_cons.mp hmark with rfl | hmark
  · rfl
  obtain ⟨firing, hfiring, rfl⟩ := List.mem_map.mp hmark
  refine Bool.or_eq_false_iff.mpr ⟨?_, ?_⟩
  · by_contra hacquires
    rw [h.stage_of_acquires hrecord hdeps hvisit hfiring (eq_true_of_ne_false hacquires)] at hearly
    exact absurd hearly (by decide)
  · by_contra hreleases
    rw [h.stage_of_releases hrecord hdeps hvisit hfiring (eq_true_of_ne_false hreleases)] at hearly
    exact absurd hearly (by decide)

/-- Within a visit there is one request at most, and no permit is given back where it is made. -/
theorem requestsFirst_visit :
    RequestsFirst (visit.marks inst.name ((toolPlatform behave).nextId setting.world)) := by
  refine .cons (fun _ _ _ => rfl) (List.pairwise_map.mpr ?_)
  refine (h.pairwise_firings hrecord hdeps hvisit).imp_of_mem fun {a b} ha hb hab hasks => ?_
  have hnot : a.hook.handler.releases = false := by
    by_contra hreleases
    have hwrong := h.stage_of_releases hrecord hdeps hvisit ha (eq_true_of_ne_false hreleases)
    rw [h.stage_of_acquires hrecord hdeps hvisit hb hasks] at hwrong
    exact absurd hwrong (by decide)
  rw [Mark.matters, Mark.asks, Mark.gives, hab hasks, hnot]
  rfl

end Visit

theorem requestsFirst_marks : RequestsFirst
    (inst.marksOf (toolPlatform behave) setting (history.visits ++ history.closing)) := by
  have hvisits : RequestsFirst ((history.visits ++ history.closing).flatMap
      (Visit.marks inst.name ((toolPlatform behave).nextId setting.world))) := by
    refine List.pairwise_flatMap.mpr ⟨fun visit hvisit => ?_, ?_⟩
    · exact h.requestsFirst_visit hrecord hdeps hvisit
    · -- Earlier visits of a request are at early stages, where no hook is about permits.
      refine (history.early_of_acquire h.plan_eq).imp_of_mem fun {v w} hv hw hearly a ha b hb => ?_
      intro hasks
      rcases List.mem_cons.mp hb with rfl | hb
      · cases hasks
      obtain ⟨firing, hfiring, rfl⟩ := List.mem_map.mp hb
      have hstage := h.stage_of_acquires hrecord hdeps hw hfiring hasks
      exact h.not_matters_of_early hrecord hdeps hv (hearly hstage) ha
  rw [Instance.marksOf, List.cons_append]
  refine List.pairwise_cons.mpr ⟨fun _ _ _ => rfl, List.pairwise_append.mpr ⟨hvisits, ?_, ?_⟩⟩
  · exact List.pairwise_singleton _ _
  · intro a _ b hb hasks
    rw [List.mem_singleton.mp hb] at hasks
    cases hasks

/-- A request that is refused ends the walk of its call, at the stage where it is made. -/
theorem exists_refused {firing : Firing (CallState X L) (Handler X L)}
    (hfiring : .fired firing ∈
      inst.marksOf (toolPlatform behave) setting (history.visits ++ history.closing))
    (hacquires : firing.hook.handler.acquires = true) (hrefused : ¬ firing.Passes) :
    firing.result = .error Interrupt.refusal ∧
      firstInterrupt? history.visits = some Interrupt.refusal ∧
      ∀ visit ∈ history.visits,
        visit.stage = "acquireSemaphore" ∨ visit.stage ∈ CallFlow.early := by
  obtain ⟨visit, hvisit, hmem⟩ := fired_mem_marksOf_iff.mp hfiring
  have hstage := h.stage_of_acquires hrecord hdeps hvisit hmem hacquires
  have hwalk : visit ∈ history.visits := by
    rcases List.mem_append.mp hvisit with hwalk | hclosing
    · exact hwalk
    · exact absurd hstage (history.closing_stage h.plan_eq hclosing).1
  have hresult : firing.result = .error Interrupt.refusal := by
    have hdoes := Instance.does_of_record_eq hrecord hvisit hmem
    have hanswers : ((toolPlatform behave).invoke firing.hook firing.seen).Keeps .free
        fun answer => answer.1 = .ok () ∨ answer.1 = .error Interrupt.refusal :=
      Admission.answers_acquire hacquires
    exact (hdoes _ hanswers).resolve_left hrefused
  obtain ⟨visits, hvisits, hbefore⟩ := history.walks.upToStop.exists_init hwalk
    fun hpasses => hrefused (hpasses firing hmem)
  obtain ⟨seen, result, next, hhappens, -⟩ := (h.upheld hrecord hdeps visit hvisit).1
  obtain ⟨firings, hfirings, hearlier⟩ := (Fires.upToStop hhappens).exists_init hmem hrefused
  refine ⟨hresult, ?_, fun other hother => ?_⟩
  · rw [hvisits]
    exact firstInterrupt?_eq_some hbefore hfirings hearlier hresult
  · rw [hvisits] at hother
    rcases List.mem_append.mp hother with hother | hself
    · have horder := history.early_of_acquire h.plan_eq
      rw [hvisits, List.append_assoc] at horder
      exact .inr ((List.pairwise_append.mp horder).2.2 other hother visit
        (List.mem_append_left _ (List.mem_singleton_self visit)) hstage)
    · rw [List.mem_singleton.mp hself]
      exact .inl hstage

end Instance.Admitting

theorem Instance.Admitting.requestsFirst_record (h : inst.Admitting behave)
    (hdeps : CallFlow.Carries .sparing HookBinding.Custom setting.deps) (place : Nat) :
    RequestsFirst (inst.record (toolPlatform behave) place setting) := by
  obtain ⟨history, hrecord⟩ := exists_history (toolPlatform behave) inst setting
  rw [hrecord]
  exact h.requestsFirst_marks hrecord hdeps

/-- What is known of a call whose request was refused, from its record so far. -/
structure Refused (record : Marks X L) : Prop where
  /-- It has never held a permit. -/
  never : ∀ marks, marks <+: record → holding marks = false
  /-- The stage at which the tool runs is not entered. -/
  unentered : ∀ flow call phase, .event (.entered flow call phase "execute") ∉ record
  /-- No hook of that stage has run, and so no tool. -/
  unfired : ∀ firing, .fired firing ∈ record → firing.hook.stage ≠ "execute"

theorem Refused.of_isPrefix {record later : Marks X L}
    (h : Refused later) (hrecord : record <+: later) : Refused record where
  never marks hmarks := h.never marks (hmarks.trans hrecord)
  unentered flow call phase hmem := h.unentered flow call phase (hrecord.subset hmem)
  unfired firing hmem := h.unfired firing (hrecord.subset hmem)

/-- A call whose request is refused fails with the reason, and its tool is not run. -/
theorem Instance.Admitting.outcome_of_refused (h : inst.Admitting behave)
    (hdeps : CallFlow.Carries .sparing HookBinding.Custom setting.deps) {place : Nat}
    {firing : Firing (CallState X L) (Handler X L)}
    (hfiring : .fired firing ∈ inst.record (toolPlatform behave) place setting)
    (hacquires : firing.hook.handler.acquires = true) (hrefused : ¬ firing.Passes) :
    firing.result = .error Interrupt.refusal ∧
      inst.outcome (toolPlatform behave) setting = .ok (.failed (some Admission.refusal)) ∧
      Refused (inst.record (toolPlatform behave) place setting) := by
  have hrequests := h.requestsFirst_record hdeps place
  obtain ⟨history, hrecord⟩ := exists_history (toolPlatform behave) inst setting
  rw [hrecord] at hfiring hrequests ⊢
  obtain ⟨hresult, hfirst, hstages⟩ := h.exists_refused hrecord hdeps hfiring hacquires hrefused
  have hplan : inst.plan.WellFormed := h.plan_eq ▸ CallFlow.wellFormed_callPlan
  have hexecute : ∀ visit ∈ history.visits ++ history.closing, visit.stage ≠ "execute" := by
    intro visit hvisit hstage
    rcases List.mem_append.mp hvisit with hwalk | hclosing
    · rcases hstages visit hwalk with hhere | hearly
      · rw [hstage] at hhere
        exact absurd hhere (by decide)
      · rw [hstage] at hearly
        exact absurd hearly (by decide)
    · exact (history.closing_stage h.plan_eq hclosing).2 hstage
  refine ⟨hresult, ?_, ?_, fun flow call phase hentered => ?_, fun other hother => ?_⟩
  · rw [history.outcome_eq_walk hplan, history.result_eq, hfirst]
    rfl
  · -- Who has taken a permit has asked for it, and the only request is the one that was refused.
    intro marks hmarks
    by_contra hholding
    obtain ⟨mark, hmark, htakes⟩ := exists_takes_of_holding (eq_true_of_ne_false hholding)
    have hsame : mark = .fired firing := hrequests.eq_of_asks (hmarks.subset hmark)
      hfiring (Mark.asks_of_takes htakes) hacquires
    rw [hsame, Mark.takes, hresult, Except.isOk, Except.toBool, Bool.and_false] at htakes
    cases htakes
  · obtain ⟨visit, hvisit, hstage⟩ := exists_visit_of_entered hentered
    exact hexecute visit hvisit hstage
  · obtain ⟨visit, hvisit, hmem⟩ := fired_mem_marksOf_iff.mp hother
    rw [history.stage_hook hvisit hmem]
    exact hexecute visit hvisit

end Record

end StagedFlow
