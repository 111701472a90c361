import StagedFlow.Proofs.Precedence
import StagedFlow.Proofs.Registering

/-!
# Batches in parts

Flows that are registered later go through checks of their own: their names are held against the
registry, first before they are made and then again when they are put in. Taken together, the checks
of two batches one after the other come to those of one batch, wherever it is cut, and the registry
that results is the same one.

This needs flows whose checks do not depend on the world. If they do, they may find one world in one
go and another one in two.
-/

namespace StagedFlow

namespace Task

variable {W G ε α β : Type}

/-- The value of the task depends neither on the world nor on what others do to it. -/
def Settled (t : Task W α) : Prop :=
  ∀ others w others' w', (t.amid others w).value = (t.amid others' w').value

theorem Settled.map {t : Task W α} (h : t.Settled) (f : α → β) : (t.map f).Settled := by
  intro others w others' w'
  rw [amid_map, amid_map, h others w others' w']

/-- Among some others, the task comes from the world to the value. -/
def Reaches (t : Task W α) (w : W) (a : α) : Prop := ∃ others, (t.amid others w).value = a

def CanSucceed (t : Task W (Except ε α)) : Prop := ∃ w a, t.Reaches w (.ok a)

namespace Reaches

variable {w : W}

theorem done_iff {a b : α} : (Task.done a : Task W α).Reaches w b ↔ a = b :=
  ⟨fun ⟨_, h⟩ => h, fun h => ⟨[], h⟩⟩

/-- Where a task pauses, others can make any world of the one it finds. -/
theorem pause_iff {next : Task W α} {a : α} :
    (Task.pause next).Reaches w a ↔ ∃ w', next.Reaches w' a := by
  constructor
  · rintro ⟨others, h⟩
    cases others with
    | nil => exact ⟨w, [], h⟩
    | cons f others => exact ⟨f w, others, h⟩
  · rintro ⟨w', others, h⟩
    exact ⟨(fun _ => w') :: others, h⟩

theorem of_map {t : Task W α} {f : α → β} {b : β} (h : (t.map f).Reaches w b) :
    ∃ a, t.Reaches w a ∧ f a = b := by
  obtain ⟨others, hvalue⟩ := h
  rw [amid_map] at hvalue
  exact ⟨_, ⟨others, rfl⟩, hvalue⟩

theorem of_bind {t : Task W α} {k : α → Task W β} {b : β} (h : (t.bind k).Reaches w b) :
    ∃ a w', t.Reaches w a ∧ (k a).Reaches w' b := by
  obtain ⟨others, hvalue⟩ := h
  rw [amid_bind] at hvalue
  exact ⟨_, _, ⟨others, rfl⟩, _, hvalue⟩

/-- A task that takes its turn is still on its way to all that what is left of it comes to. -/
theorem of_tryTurn {k : Task W (Except ε β) → Task W (Except ε (α × β))} {t : Task W (Except ε β)}
    {result : α × β} (h : (t.tryTurn k).Reaches w (.ok result)) :
    ∃ t' w', (k t').Reaches w' (.ok result) ∧ ∀ b w'', t'.Reaches w'' b → t.Reaches w b := by
  induction t generalizing w with
  | done value =>
    cases value with
    | error e => cases done_iff.mp h
    | ok b =>
      obtain ⟨w', hk⟩ := pause_iff.mp h
      exact ⟨.done (.ok b), w', hk, fun _ _ hb => done_iff.mpr (done_iff.mp hb)⟩
  | act change next ih =>
    obtain ⟨others, hvalue⟩ := h
    exact ih w ⟨others, hvalue⟩
  | pause next ih =>
    obtain ⟨w', hk⟩ := pause_iff.mp h
    exact ⟨next, w', hk, fun _ w'' hb => pause_iff.mpr ⟨w'', hb⟩⟩

/-- Two tasks that succeed side by side can each succeed among others. -/
theorem of_tryBoth {t : Task W (Except ε α)} {t' : Task W (Except ε β)} {result : α × β}
    (h : (t.tryBoth t').Reaches w (.ok result)) :
    t.Reaches w (.ok result.1) ∧ ∃ w', t'.Reaches w' (.ok result.2) := by
  induction t generalizing w t' with
  | done value =>
    cases value with
    | error e => cases done_iff.mp h
    | ok a =>
      obtain ⟨other, hother, hresult⟩ := of_map h
      cases other with
      | error e => cases hresult
      | ok b =>
        cases hresult
        exact ⟨done_iff.mpr rfl, w, hother⟩
  | act change next ih =>
    obtain ⟨others, hvalue⟩ := h
    exact ih w ⟨others, hvalue⟩
  | pause next ih =>
    obtain ⟨t'', w', hk, hback⟩ := of_tryTurn h
    obtain ⟨hfirst, w'', hsecond⟩ := ih hk
    exact ⟨pause_iff.mpr ⟨w', hfirst⟩, w, hback _ w'' hsecond⟩

theorem of_tryRounds {tasks : List (Task W (Except ε α))} {results : List α}
    (h : (Task.tryRounds tasks).Reaches w (.ok results)) : ∀ t ∈ tasks, t.CanSucceed := by
  induction tasks generalizing w results with
  | nil => exact List.forall_mem_nil _
  | cons t rest ih =>
    obtain ⟨both, hboth, hresults⟩ := of_map h
    cases both with
    | error e => cases hresults
    | ok both =>
      obtain ⟨hfirst, w', hrest⟩ := of_tryBoth hboth
      exact List.forall_mem_cons.mpr ⟨⟨w, both.1, hfirst⟩, ih hrest⟩

/-- A task is still on its way to all that what is left of it after a step comes to. -/
theorem of_step {t t' : Task W α} (h : t.step.Reaches w t') {w' : W} {a : α}
    (ha : t'.Reaches w' a) : t.Reaches w a := by
  induction t generalizing w with
  | done b =>
    obtain rfl := done_iff.mp h
    exact done_iff.mpr (done_iff.mp ha)
  | act change next ih =>
    obtain ⟨others, hvalue⟩ := h
    exact ih w ⟨others, hvalue⟩
  | pause next ih =>
    obtain ⟨_, hnext⟩ := pause_iff.mp h
    obtain rfl := done_iff.mp hnext
    exact pause_iff.mpr ⟨w', ha⟩

theorem of_stepAll {tasks left : List (Task W (Except ε α))}
    (h : (Task.stepAll tasks).Reaches w left) :
    left.length = tasks.length ∧ ((∀ t ∈ left, t.CanSucceed) → ∀ t ∈ tasks, t.CanSucceed) := by
  induction tasks generalizing w left with
  | nil =>
    obtain rfl := done_iff.mp h
    exact ⟨rfl, id⟩
  | cons t rest ih =>
    obtain ⟨t', w', hstep, hothers⟩ := of_bind h
    obtain ⟨left, hleft, rfl⟩ := of_map hothers
    obtain ⟨hlength, hrest⟩ := ih hleft
    refine ⟨congrArg Nat.succ hlength, fun hall => ?_⟩
    obtain ⟨⟨w'', a, ha⟩, hothers⟩ := List.forall_mem_cons.mp hall
    exact List.forall_mem_cons.mpr ⟨⟨w, a, of_step hstep ha⟩, hrest hothers⟩

theorem of_lead {t : Task W (Except ε α)} {rest left : List (Task W (Except ε α))} {a : α}
    (h : (t.lead rest).Reaches w (.ok (a, left))) :
    t.Reaches w (.ok a) ∧ left.length = rest.length ∧
      ((∀ t ∈ left, t.CanSucceed) → ∀ t ∈ rest, t.CanSucceed) := by
  induction t generalizing w rest with
  | done value =>
    cases value with
    | error e => cases done_iff.mp h
    | ok b =>
      cases done_iff.mp h
      exact ⟨done_iff.mpr rfl, rfl, id⟩
  | act change next ih =>
    obtain ⟨others, hvalue⟩ := h
    exact ih w ⟨others, hvalue⟩
  | pause next ih =>
    obtain ⟨_, hpaused⟩ := pause_iff.mp h
    obtain ⟨stepped, w', hstepped, hnext⟩ := of_bind hpaused
    obtain ⟨hlength, hrest⟩ := of_stepAll hstepped
    obtain ⟨ha, hlengthLeft, hleft⟩ := ih hnext
    exact ⟨pause_iff.mpr ⟨w', ha⟩, hlengthLeft.trans hlength, hrest ∘ hleft⟩

theorem of_tryInOrder {n : Nat} {tasks : List (Task W (Except ε α))} {results : List α}
    (hn : tasks.length ≤ n) (h : (Task.tryInOrder n tasks).Reaches w (.ok results)) :
    ∀ t ∈ tasks, t.CanSucceed := by
  induction n generalizing w tasks results with
  | zero =>
    obtain rfl := List.eq_nil_of_length_eq_zero (Nat.le_zero.mp hn)
    exact List.forall_mem_nil _
  | succ n ih =>
    cases tasks with
    | nil => exact List.forall_mem_nil _
    | cons t rest =>
      obtain ⟨result, w', hlead, hnext⟩ := of_bind h
      cases result with
      | error e => cases done_iff.mp hnext
      | ok pair =>
        obtain ⟨ha, hlength, hrest⟩ := of_lead hlead
        obtain ⟨others, hothers, hresults⟩ := of_map hnext
        cases others with
        | error e => cases hresults
        | ok others =>
          have hleft : pair.2.length ≤ n := hlength ▸ Nat.le_of_succ_le_succ hn
          exact List.forall_mem_cons.mpr ⟨⟨w, pair.1, ha⟩, hrest (ih hleft hothers)⟩

theorem of_tryAll {tasks : List (Task W (Except ε α))} {results : List α}
    (h : (Task.tryAll tasks).Reaches w (.ok results)) : ∀ t ∈ tasks, t.CanSucceed := by
  rw [Task.tryAll] at h
  split at h
  · exact of_tryRounds h
  · exact of_tryInOrder (Nat.le_refl _) h

end Reaches

/-- Settled tasks succeed side by side exactly if each of them does. -/
theorem exists_value_tryAll_iff {tasks : List (Task W (Except ε α))}
    (h : ∀ t ∈ tasks, t.Settled) (others : List (W → W)) (w : W) :
    (∃ results, ((tryAll tasks).amid others w).value = .ok results) ↔
      ∀ t ∈ tasks, ∀ w, t.SucceedsFrom w := by
  constructor
  · rintro ⟨results, hresults⟩ t ht w' others'
    obtain ⟨w'', a, others'', hvalue⟩ := Reaches.of_tryAll ⟨others, hresults⟩ t ht
    exact ⟨a, (h t ht others' w' others'' w'').trans hvalue⟩
  · exact fun hall => SucceedsFrom.tryAll hall w others

/-- The second part goes along from the first task to the next one. -/
theorem carrying_bind (t : Task (W × G) α) (k : α → Task (W × G) β) (g : G) :
    (t.bind k).carrying g = (t.carrying g).bind fun (a, g) => (k a).carrying g := by
  induction t generalizing g with
  | done a => rfl
  | act change next ih => exact congrArg (act _) (funext fun w => ih (w, g) _)
  | pause next ih => exact congrArg pause (ih g)

theorem carrying_beside (t : Task W α) (g : G) : t.beside.carrying g = t.map (·, g) := by
  induction t with
  | done a => rfl
  | act change next ih => exact congrArg (act change) (funext ih)
  | pause next ih => exact congrArg pause ih

end Task

variable {K : Type} {V : K → Type} {W H : Type} {providers : Bag K V} {hooks : HookRegistry W H}

/-! ### Batches of flows -/

namespace Definition

def Settled (providers : Bag K V) (definition : Definition K V W H) : Prop :=
  ∀ prepared, definition.prepare providers = .ok prepared → prepared.ready.Settled

def Gives (providers : Bag K V) (hooks : HookRegistry W H) (definition : Definition K V W H)
    (inst : Instance K V W H) : Prop :=
  ∃ candidate, definition.instantiate providers hooks = .ok candidate ∧
    (∀ w, candidate.ready.SucceedsFrom w) ∧ inst = candidate.inst

theorem Gives.definition_eq {definition : Definition K V W H} {inst : Instance K V W H}
    (h : definition.Gives providers hooks inst) : inst.definition = definition := by
  obtain ⟨candidate, hcandidate, -, rfl⟩ := h
  exact (of_instantiate hcandidate).1

theorem map_name_of_gives {definitions : List (Definition K V W H)}
    {flows : List (Instance K V W H)}
    (h : List.Forall₂ (Gives providers hooks) definitions flows) :
    flows.map Instance.name = definitions.map name := by
  induction h with
  | nil => rfl
  | cons hfirst _ ih =>
    rw [List.map_cons, List.map_cons, ih, Instance.name, hfirst.definition_eq]
    rfl

theorem forall₂_gives_iff (definitions : List (Definition K V W H))
    (flows : List (Instance K V W H)) :
    List.Forall₂ (Gives providers hooks) definitions flows ↔
      ∃ candidates, List.Forall₂
          (fun definition candidate => definition.instantiate providers hooks = .ok candidate)
          definitions candidates ∧
        (∀ check ∈ candidates.map Candidate.ready, ∀ w, check.SucceedsFrom w) ∧
        flows = candidates.map Candidate.inst := by
  constructor
  · intro h
    induction h with
    | nil => exact ⟨[], .nil, List.forall_mem_nil _, rfl⟩
    | cons hfirst _ ih =>
      obtain ⟨candidate, hcandidate, hready, rfl⟩ := hfirst
      obtain ⟨candidates, hcandidates, hrest, rfl⟩ := ih
      exact ⟨candidate :: candidates, .cons hcandidate hcandidates,
        List.forall_mem_cons.mpr ⟨hready, hrest⟩, rfl⟩
  · rintro ⟨candidates, hcandidates, hready, rfl⟩
    induction hcandidates with
    | nil => exact .nil
    | cons hcandidate _ ih =>
      obtain ⟨hfirst, hrest⟩ := List.forall_mem_cons.mp hready
      exact .cons ⟨_, hcandidate, hfirst, rfl⟩ (ih hrest)

theorem Settled.ready {definition : Definition K V W H} (h : definition.Settled providers)
    {candidate : Candidate K V W H} (hcandidate : definition.instantiate providers hooks =
      .ok candidate) : candidate.ready.Settled := by
  obtain ⟨prepared, map, hprepare, -, rfl⟩ := instantiate_eq_ok_iff.mp hcandidate
  exact (h prepared hprepare).map _

/-- Settled flows are made in any run, or in none. -/
theorem value_instantiateAll_eq_ok_iff_gives {definitions : List (Definition K V W H)}
    (h : ∀ definition ∈ definitions, definition.Settled providers) (others : List (W → W)) (w : W)
    (flows : List (Instance K V W H)) :
    ((instantiateAll providers hooks definitions).amid others w).value = .ok flows ↔
      List.Forall₂ (Gives providers hooks) definitions flows := by
  rw [value_instantiateAll_eq_ok_iff, forall₂_gives_iff]
  refine exists_congr fun candidates => and_congr_right fun hcandidates => ?_
  have hsettled : ∀ check ∈ candidates.map Candidate.ready, check.Settled := by
    induction hcandidates with
    | nil => exact List.forall_mem_nil _
    | cons hcandidate _ ih =>
      obtain ⟨hfirst, hrest⟩ := List.forall_mem_cons.mp h
      exact List.forall_mem_cons.mpr ⟨hfirst.ready hcandidate, ih hrest⟩
  rw [Task.exists_value_tryAll_iff hsettled]

end Definition

namespace FlowRegistry

/-- What becomes of a registry when a batch is added later. -/
theorem value_register [DecidableEq K] [Named K] (registry : FlowRegistry K V W H)
    (definitions : List (Definition K V W H)) (others : List (W → W)) (w : W) :
    ((registry.register providers hooks definitions).amid others w).value =
      (registry.checkBatch providers definitions).bind fun _ =>
        ((Definition.instantiateAll providers hooks definitions).amid others w).value.bind
          registry.commit := by
  rw [register, enroll_eq, Task.carrying_bind, Task.amid_map, Task.amid_bind]
  simp only [Task.look, Task.carrying, Task.amid, id_eq]
  cases registry.checkBatch providers definitions with
  | error fault => rfl
  | ok =>
    simp only [enter, Task.carrying_bind, Task.carrying_beside, Task.amid_bind, Task.amid_map]
    cases ((Definition.instantiateAll providers hooks definitions).amid others w).value with
    | error fault => rfl
    | ok flows =>
      simp only [commitShared, Task.carrying, Task.amid, Prod.map_snd]
      change _ = registry.commit flows
      cases registry.commit flows <;> rfl

theorem value_register_eq_ok_iff [DecidableEq K] [Named K] {registry grown : FlowRegistry K V W H}
    {definitions : List (Definition K V W H)} {others : List (W → W)} {w : W} :
    ((registry.register providers hooks definitions).amid others w).value = .ok grown ↔
      registry.checkBatch providers definitions = .ok () ∧
        ∃ flows, ((Definition.instantiateAll providers hooks definitions).amid others w).value =
            .ok flows ∧ registry.commit flows = .ok grown := by
  rw [value_register]
  cases registry.checkBatch providers definitions with
  | error fault => exact ⟨nofun, fun ⟨h, _⟩ => nomatch h⟩
  | ok =>
    cases ((Definition.instantiateAll providers hooks definitions).amid others w).value with
    | error fault => exact ⟨nofun, fun ⟨_, _, h, _⟩ => nomatch h⟩
    | ok flows => simp [Except.bind]

end FlowRegistry

theorem Definition.sound_append_iff (first later : List (Definition K V W H)) :
    Sound (first ++ later) ↔
      Sound first ∧ Sound later ∧ ∀ definition ∈ later, definition.name ∉ first.map name := by
  constructor
  · intro h
    have hnodup := h.nodup
    rw [List.map_append, List.nodup_append'] at hnodup
    obtain ⟨hfirst, hlater, hdisjoint⟩ := hnodup
    obtain ⟨hcheckedFirst, hcheckedLater⟩ := List.forall_mem_append.mp h.checked
    exact ⟨⟨hfirst, hcheckedFirst⟩, ⟨hlater, hcheckedLater⟩, fun definition hmem hname =>
      hdisjoint hname (List.mem_map_of_mem hmem)⟩
  · rintro ⟨hfirst, hlater, hnew⟩
    refine ⟨?_, List.forall_mem_append.mpr ⟨hfirst.checked, hlater.checked⟩⟩
    rw [List.map_append, List.nodup_append']
    refine ⟨hfirst.nodup, hlater.nodup, fun name hname hother => ?_⟩
    obtain ⟨definition, hmem, rfl⟩ := List.mem_map.mp hother
    exact hnew definition hmem hname

/-- One list is related to another one item by item exactly if its two parts are. -/
theorem forall₂_append_iff {α β : Type} {R : α → β → Prop} (first later : List α) (items : List β) :
    List.Forall₂ R (first ++ later) items ↔
      ∃ before after, items = before ++ after ∧ List.Forall₂ R first before ∧
        List.Forall₂ R later after := by
  constructor
  · intro h
    exact ⟨_, _, (List.take_append_drop first.length items).symm,
      (List.forall₂_take_append _ _ _ h.flip).flip, (List.forall₂_drop_append _ _ _ h.flip).flip⟩
  · rintro ⟨before, after, rfl, hfirst, hlater⟩
    exact List.rel_append hfirst hlater

section Parts

variable [DecidableEq K] [Named K] {first later definitions : List (Definition K V W H)}

theorem value_boot_eq_ok_iff_gives
    (hsettled : ∀ definition ∈ definitions, definition.Settled providers)
    (registry : FlowRegistry K V W H) (others : List (W → W)) (w : W) :
    ((FlowRegistry.boot providers hooks definitions).amid others w).value = .ok registry ↔
      Definition.Sound definitions ∧ (∀ definition ∈ definitions, definition.Met providers) ∧
        ∃ flows, List.Forall₂ (Definition.Gives providers hooks) definitions flows ∧
          registry = FlowRegistry.empty.putAll flows := by
  rw [FlowRegistry.value_boot_eq_ok_iff, FlowRegistry.value_make_eq_ok_iff_flows,
    Definition.checkAll_nil_eq_ok_iff, Definition.checkDependencies_eq_ok_iff, and_assoc]
  simp only [Definition.value_instantiateAll_eq_ok_iff_gives hsettled]

theorem value_register_eq_ok_iff_gives
    (hsettled : ∀ definition ∈ definitions, definition.Settled providers)
    (registry grown : FlowRegistry K V W H) (others : List (W → W)) (w : W) :
    ((registry.register providers hooks definitions).amid others w).value = .ok grown ↔
      (Definition.Sound definitions ∧
          (∀ definition ∈ definitions, registry.contains definition.name = false) ∧
          ∀ definition ∈ definitions, definition.Met providers) ∧
        ∃ flows, List.Forall₂ (Definition.Gives providers hooks) definitions flows ∧
          grown = registry.putAll flows := by
  rw [FlowRegistry.value_register_eq_ok_iff, FlowRegistry.checkBatch_eq_ok_iff,
    Definition.checkAll_nil_eq_ok_iff, Definition.checkDependencies_eq_ok_iff]
  simp only [Definition.value_instantiateAll_eq_ok_iff_gives hsettled,
    FlowRegistry.commit_eq_ok_iff]
  refine and_congr_right fun hpasses => exists_congr fun flows =>
    and_congr_right fun hgives => and_iff_right fun inst hinst => ?_
  -- The names are looked up a second time, and they are those of the definitions.
  have hname : inst.name ∈ definitions.map Definition.name :=
    Definition.map_name_of_gives hgives ▸ List.mem_map_of_mem hinst
  obtain ⟨definition, hmem, heq⟩ := List.mem_map.mp hname
  exact heq ▸ hpasses.2.1 definition hmem

/-- **A batch may be cut anywhere.** Flows whose checks do not depend on the world are booted in one
go with a certain registry exactly if the first part of them is booted and the rest is added later
with the same registry: the same names, flows, hooks and routes in the same order, so that calls and
requests are the same tasks. -/
theorem value_boot_append_iff
    (hsettled : ∀ definition ∈ first ++ later, definition.Settled providers)
    (registry : FlowRegistry K V W H) (others others₁ others₂ : List (W → W)) (w w₁ w₂ : W) :
    ((FlowRegistry.boot providers hooks (first ++ later)).amid others w).value = .ok registry ↔
      ∃ booted, ((FlowRegistry.boot providers hooks first).amid others₁ w₁).value = .ok booted ∧
        ((booted.register providers hooks later).amid others₂ w₂).value = .ok registry := by
  obtain ⟨hfirst, hlater⟩ := List.forall_mem_append.mp hsettled
  have htaken : ∀ {flows : List (Instance K V W H)},
      List.Forall₂ (Definition.Gives providers hooks) first flows → ∀ name,
        (FlowRegistry.empty.putAll flows).contains name = false ↔
          name ∉ first.map Definition.name := by
    intro flows hgives name
    rw [← Bool.not_eq_true, FlowRegistry.contains_putAll_iff, Definition.map_name_of_gives hgives]
    exact not_congr (or_iff_right Bool.false_ne_true)
  simp only [value_boot_eq_ok_iff_gives hsettled, value_boot_eq_ok_iff_gives hfirst,
    value_register_eq_ok_iff_gives hlater, Definition.sound_append_iff, List.forall_mem_append,
    forall₂_append_iff]
  constructor
  · rintro ⟨⟨hsoundFirst, hsoundLater, hnew⟩, ⟨hmetFirst, hmetLater⟩, _,
      ⟨before, after, rfl, hbefore, hafter⟩, rfl⟩
    exact ⟨_, ⟨hsoundFirst, hmetFirst, before, hbefore, rfl⟩,
      ⟨hsoundLater, fun definition hmem => (htaken hbefore _).mpr (hnew definition hmem),
        hmetLater⟩, after, hafter, FlowRegistry.putAll_append _ before after⟩
  · rintro ⟨_, ⟨hsoundFirst, hmetFirst, before, hbefore, rfl⟩, ⟨hsoundLater, hfree, hmetLater⟩,
      after, hafter, rfl⟩
    exact ⟨⟨hsoundFirst, hsoundLater, fun definition hmem =>
        (htaken hbefore _).mp (hfree definition hmem)⟩, ⟨hmetFirst, hmetLater⟩, _,
      ⟨before, after, rfl, hbefore, hafter⟩, (FlowRegistry.putAll_append _ before after).symm⟩

end Parts

/-- Two flows, the second one of which is added while the first one is there. -/
theorem value_boot_append_slow :
    (∀ definition ∈ [Definition.slow "booted"] ++ [Definition.slow "late"],
        definition.Settled .empty) ∧
      ∃ registry, registry.names = ["booted", "late"] ∧
        ((FlowRegistry.boot .empty .empty ([Definition.slow "booted"] ++
          [Definition.slow "late"])).amid [] ()).value = .ok registry ∧
        ∃ booted, ((FlowRegistry.boot .empty .empty [Definition.slow "booted"]).amid [id]
            ()).value = .ok booted ∧
          ((booted.register .empty .empty [Definition.slow "late"]).amid [id] ()).value =
            .ok registry := by
  have hslow : ∀ name, (Definition.slow name).Settled .empty := by
    intro name prepared hprepare others w others' w'
    cases hprepare
    cases others <;> cases others' <;> rfl
  have hsettled : ∀ definition ∈ [Definition.slow "booted"] ++ [Definition.slow "late"],
      definition.Settled .empty := by
    simp [hslow]
  have hbooted : ((FlowRegistry.boot .empty .empty ([Definition.slow "booted"] ++
      [Definition.slow "late"])).amid [] ()).value = .ok _ := rfl
  exact ⟨hsettled, _, rfl, hbooted,
    (value_boot_append_iff hsettled _ [] [id] [id] () () ()).mp hbooted⟩

end StagedFlow
