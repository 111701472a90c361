import Mathlib.Data.List.Nodup
import Mathlib.Data.List.Pairwise
import StagedFlow.Proofs.Interleaving
import StagedFlow.Proofs.Registering

/-!
# Registrations that contend for names

Any number of registrations share one registry. Each of them looks at the registry to see that its
names are free, then makes its flows, and in the end looks again and puts them in. Between any two
of its steps the others may take theirs, so that what the first look has seen may be over at the
end. Names stay distinct because the second look and the entry are one step, and nothing gets lost
because the flows go behind those that are there then, not behind those of the first look.

A ledger says which registrations have put in which flows, in this order. It carries the invariant:
the registry is the one of the start with these flows behind, and a registration that is not in the
ledger has put in nothing.
-/

namespace StagedFlow

variable {K : Type} {V : K → Type} {W H : Type}

namespace Task

variable {α β : Type}

def advance : Task W α → W → Task W α × W
  | done a, w => (done a, w)
  | act change next, w => (next w, change w)
  | pause next, w => (next, w)

/-- What a task can come to, if the world may have become any other one at each of its steps. -/
inductive Yields : Task W α → α → Prop where
  | done (a : α) : Yields (.done a) a
  | act {change : W → W} {next : W → Task W α} {a : α} (w : W) (h : Yields (next w) a) :
      Yields (.act change next) a
  | pause {next : Task W α} {a : α} (h : Yields next a) : Yields (.pause next) a

namespace Yields

theorem map {t : Task W α} {a : α} (h : t.Yields a) (f : α → β) : (t.map f).Yields (f a) := by
  induction h with
  | done a => exact .done (f a)
  | act w _ ih => exact .act w ih
  | pause _ ih => exact .pause ih

theorem of_map {t : Task W α} {f : α → β} {b : β} (h : (t.map f).Yields b) :
    ∃ a, t.Yields a ∧ f a = b := by
  induction t with
  | done a =>
    cases h
    exact ⟨a, .done a, rfl⟩
  | act change next ih =>
    cases h with
    | act w h =>
      obtain ⟨a, ha, hb⟩ := ih w h
      exact ⟨a, .act w ha, hb⟩
  | pause next ih =>
    cases h with
    | pause h =>
      obtain ⟨a, ha, hb⟩ := ih h
      exact ⟨a, .pause ha, hb⟩

end Yields

end Task

structure Offer (K : Type) (V : K → Type) (W H : Type) where
  providers : Bag K V
  hooks : HookRegistry W H
  batch : List (Definition K V W H)

namespace Offer

def names (offer : Offer K V W H) : List String := offer.batch.map Definition.name

structure Makes (offer : Offer K V W H) (flows : List (Instance K V W H)) : Prop where
  checked : Definition.checkAll [] offer.batch = .ok ()
  yields : (Definition.instantiateAll offer.providers offer.hooks offer.batch).Yields (.ok flows)

theorem Makes.made {offer : Offer K V W H} {flows : List (Instance K V W H)}
    (h : offer.Makes flows) : Made offer.batch flows := by
  have hyields := h.yields
  rw [Definition.instantiateAll] at hyields
  cases hmade : offer.batch.mapM (Definition.instantiate offer.providers offer.hooks) with
  | error fault =>
    rw [hmade] at hyields
    cases hyields
  | ok candidates =>
    rw [hmade] at hyields
    obtain ⟨result, -, hresult⟩ := hyields.of_map
    cases result with
    | error fault => cases hresult
    | ok =>
      cases hresult
      exact made_of_mapM h.checked hmade

variable [DecidableEq K] [Named K]

def task (offer : Offer K V W H) :
    Task (W × FlowRegistry K V W H) (Except RegistrationFault Unit) :=
  FlowRegistry.enroll offer.providers offer.hooks offer.batch

/-- A fault with which the batch can be refused where no names are taken. -/
def Faulty (offer : Offer K V W H) (fault : RegistrationFault) : Prop :=
  (FlowRegistry.boot offer.providers offer.hooks offer.batch).Yields (.error fault)

def Late (offer : Offer K V W H) (registry : FlowRegistry K V W H) (fault : RegistrationFault) :
    Prop :=
  ∃ name ∈ offer.names, registry.contains name = true ∧ fault = .duplicateFlow name

/-- A registration that has found no name taken at its first look. It has yet to put its flows into
the registry, or has failed with a fault of its batch, and does nothing else to the registry. -/
inductive Goes (offer : Offer K V W H) :
    Task (W × FlowRegistry K V W H) (Except RegistrationFault Unit) → Prop where
  | refused {fault : RegistrationFault} (hfault : offer.Faulty fault) :
      Goes offer (.done (.error fault))
  | commit {flows : List (Instance K V W H)}
      {task : Task (W × FlowRegistry K V W H) (Except RegistrationFault Unit)}
      (hmakes : offer.Makes flows) (htask : task = FlowRegistry.commitShared flows) :
      Goes offer task
  | act {change : W × FlowRegistry K V W H → W × FlowRegistry K V W H}
      {next : W × FlowRegistry K V W H →
        Task (W × FlowRegistry K V W H) (Except RegistrationFault Unit)}
      (hsame : ∀ shared, (change shared).2 = shared.2)
      (hnext : ∀ shared, Goes offer (next shared)) : Goes offer (.act change next)
  | pause {next : Task (W × FlowRegistry K V W H) (Except RegistrationFault Unit)}
      (hnext : Goes offer next) : Goes offer (.pause next)

/-- A registration that has not put its flows into a registry, which is this one now: it is at its
start, or on its way, or a name was taken. -/
inductive Stands (offer : Offer K V W H) (registry : FlowRegistry K V W H) :
    Task (W × FlowRegistry K V W H) (Except RegistrationFault Unit) → Prop where
  | waits {task : Task (W × FlowRegistry K V W H) (Except RegistrationFault Unit)}
      (htask : task = offer.task) : Stands offer registry task
  | goes {task : Task (W × FlowRegistry K V W H) (Except RegistrationFault Unit)}
      (hgoes : offer.Goes task) : Stands offer registry task
  | late {fault : RegistrationFault} (hlate : offer.Late registry fault) :
      Stands offer registry (.done (.error fault))

variable {offer : Offer K V W H} {registry later : FlowRegistry K V W H}
  {task : Task (W × FlowRegistry K V W H) (Except RegistrationFault Unit)}

theorem boot_eq (offer : Offer K V W H) :
    FlowRegistry.boot offer.providers offer.hooks offer.batch =
      match (Definition.checkAll [] offer.batch).bind fun _ =>
        Definition.checkDependencies offer.providers offer.batch with
      | .error fault => .done (.error fault)
      | .ok () => FlowRegistry.make offer.providers offer.hooks offer.batch :=
  rfl

/-- The first look finds a fault of the batch or a name that is taken. -/
theorem faulty_or_late {fault : RegistrationFault}
    (h : registry.checkBatch offer.providers offer.batch = .error fault) :
    offer.Faulty fault ∨ offer.Late registry fault := by
  rw [FlowRegistry.checkBatch] at h
  rw [Faulty, boot_eq]
  cases hchecked : Definition.checkAll [] offer.batch with
  | error other =>
    rw [hchecked] at h
    cases h
    exact .inl (.done _)
  | ok =>
    rw [hchecked] at h
    cases hfind : offer.batch.find? fun definition => registry.contains definition.name with
    | some definition =>
      simp only [hfind] at h
      cases h
      have hfirst := (IsFirst.find?_eq_some_iff _).mp hfind
      exact .inr ⟨definition.name, List.mem_map_of_mem hfirst.mem, hfirst.holds, rfl⟩
    | none =>
      simp only [hfind] at h
      have hmet : Definition.checkDependencies offer.providers offer.batch = .error fault := h
      refine .inl ?_
      simp only [Except.bind, hmet]
      exact .done _

theorem Goes.enter {t : Task W (Except RegistrationFault (List (Instance K V W H)))}
    (herror : ∀ fault, t.Yields (.error fault) → offer.Faulty fault)
    (hok : ∀ flows, t.Yields (.ok flows) → offer.Makes flows) :
    offer.Goes (FlowRegistry.enter t) := by
  induction t with
  | done made =>
    cases made with
    | error fault => exact .refused (herror fault (.done _))
    | ok flows => exact .commit (hok flows (.done _)) rfl
  | act change next ih =>
    exact .act (fun _ => rfl) fun shared => ih shared.1
      (fun fault h => herror fault (.act shared.1 h)) fun flows h => hok flows (.act shared.1 h)
  | pause next ih =>
    exact .pause (ih (fun fault h => herror fault (.pause h)) fun flows h => hok flows (.pause h))

/-- What is left of a registration that passes its first look. -/
theorem Goes.enter_instantiateAll
    (h : registry.checkBatch offer.providers offer.batch = .ok ()) :
    offer.Goes (FlowRegistry.enter
      (Definition.instantiateAll offer.providers offer.hooks offer.batch)) := by
  obtain ⟨hchecked, -, hmet⟩ := (registry.checkBatch_eq_ok_iff _ _).mp h
  refine enter (fun fault hyields => ?_) fun flows hyields => ⟨hchecked, hyields⟩
  rw [Faulty, boot_eq, hchecked]
  simp only [Except.bind, hmet]
  exact hyields.map fun result => result.map FlowRegistry.empty.putAll

/-- The first step of a registration. -/
theorem stands_advance_task (offer : Offer K V W H) (shared : W × FlowRegistry K V W H) :
    (offer.task.advance shared).2 = shared ∧
      offer.Stands shared.2 (offer.task.advance shared).1 := by
  refine ⟨rfl, ?_⟩
  change offer.Stands shared.2 (match shared.2.checkBatch offer.providers offer.batch with
    | .error fault => .done (.error fault)
    | .ok () => FlowRegistry.enter
      (Definition.instantiateAll offer.providers offer.hooks offer.batch))
  cases hcheck : shared.2.checkBatch offer.providers offer.batch with
  | error fault =>
    rcases faulty_or_late hcheck with hfaulty | hlate
    · exact .goes (.refused hfaulty)
    · exact .late hlate
  | ok => exact .goes (.enter_instantiateAll hcheck)

/-- A step of a registration that has not put in its flows: it leaves the registry as it is, or it
puts them in and has ended. -/
theorem Stands.advance (shared : W × FlowRegistry K V W H) (h : offer.Stands shared.2 task) :
    (task.advance shared).2.2 = shared.2 ∧ offer.Stands shared.2 (task.advance shared).1 ∨
      ∃ flows, offer.Makes flows ∧ shared.2.commit flows = .ok (task.advance shared).2.2 ∧
        (task.advance shared).1 = .done (.ok ()) := by
  cases h with
  | waits htask =>
    subst htask
    obtain ⟨hsame, hstands⟩ := offer.stands_advance_task shared
    exact .inl ⟨congrArg Prod.snd hsame, hstands⟩
  | late hlate => exact .inl ⟨rfl, .late hlate⟩
  | goes hgoes =>
    cases hgoes with
    | refused hfault => exact .inl ⟨rfl, .goes (.refused hfault)⟩
    | act hsame hnext => exact .inl ⟨hsame shared, .goes (hnext shared)⟩
    | pause hnext => exact .inl ⟨rfl, .goes hnext⟩
    | @commit flows _ hmakes htask =>
      subst htask
      rw [FlowRegistry.commitShared, Task.advance]
      cases hcommit : shared.2.commit flows with
      | error fault =>
        obtain ⟨inst, hinst, htaken, rfl⟩ := FlowRegistry.exists_of_commit_eq_error hcommit
        have hname : inst.name ∈ offer.names := by
          rw [names, ← hmakes.made.name_eq]
          exact List.mem_map_of_mem hinst
        exact .inl ⟨by rw [Prod.map_snd, hcommit]; rfl, .late ⟨inst.name, hname, htaken, rfl⟩⟩
      | ok grown => exact .inr ⟨flows, hmakes, by rw [Prod.map_snd, hcommit]; rfl, rfl⟩

theorem Stands.mono (h : offer.Stands registry task)
    (hgrows : ∀ name, registry.contains name = true → later.contains name = true) :
    offer.Stands later task := by
  cases h with
  | waits htask => exact .waits htask
  | goes hgoes => exact .goes hgoes
  | late hlate =>
    obtain ⟨name, hname, htaken, rfl⟩ := hlate
    exact .late ⟨name, hname, hgrows name htaken, rfl⟩

/-- A registration that has ended without putting in its flows has failed. -/
theorem Stands.of_done {result : Except RegistrationFault Unit}
    (h : offer.Stands registry (.done result)) :
    ∃ fault, result = .error fault ∧ (offer.Faulty fault ∨ offer.Late registry fault) := by
  generalize htask : (Task.done result : Task (W × FlowRegistry K V W H) _) = task at h
  cases h with
  | waits hstart => cases htask.trans hstart
  | late hlate =>
    cases htask
    exact ⟨_, rfl, .inr hlate⟩
  | goes hgoes =>
    cases hgoes with
    | refused hfault =>
      cases htask
      exact ⟨_, rfl, .inl hfault⟩
    | commit _ hcommit => cases htask.trans hcommit
    | act => cases htask
    | pause => cases htask

end Offer

/-! ### A registry that is contended for -/

structure Contest (K : Type) (V : K → Type) (W H : Type) where
  world : W
  flows : FlowRegistry K V W H
  tasks : List (Task (W × FlowRegistry K V W H) (Except RegistrationFault Unit))

/-- The registrations that have put in their flows, in this order, with the flows. -/
abbrev Ledger (K : Type) (V : K → Type) (W H : Type) := List (Nat × List (Instance K V W H))

def Ledger.flows (ledger : Ledger K V W H) : List (Instance K V W H) := ledger.flatMap Prod.snd

theorem Ledger.flows_append (ledger more : Ledger K V W H) :
    Ledger.flows (ledger ++ more) = ledger.flows ++ more.flows :=
  List.flatMap_append

namespace Contest

def step (contest : Contest K V W H) : Pool.Step W → Contest K V W H
  | .resume i =>
    match contest.tasks[i]? with
    | none => contest
    | some task =>
      let after := task.advance (contest.world, contest.flows)
      ⟨after.2.1, after.2.2, contest.tasks.set i after.1⟩
  | .outside change => { contest with world := change contest.world }

def run (contest : Contest K V W H) (schedule : List (Pool.Step W)) : Contest K V W H :=
  schedule.foldl step contest

def start [DecidableEq K] [Named K] (world : W) (flows : FlowRegistry K V W H)
    (offers : List (Offer K V W H)) : Contest K V W H :=
  ⟨world, flows, offers.map Offer.task⟩

def Ends (contest : Contest K V W H) (i : Nat) (result : Except RegistrationFault Unit) : Prop :=
  contest.tasks[i]? = some (.done result)

/-- A registration that has ended takes no more steps. -/
theorem Ends.step_eq {contest : Contest K V W H} {i : Nat}
    {result : Except RegistrationFault Unit} (h : contest.Ends i result) :
    contest.step (.resume i) = contest := by
  obtain ⟨hlt, hget⟩ := List.getElem?_eq_some_iff.mp h
  have hset : contest.tasks.set i (.done result) = contest.tasks := by
    rw [← hget, List.set_getElem_self]
  rw [step, show contest.tasks[i]? = _ from h]
  simp only [Task.advance, hset]

variable [DecidableEq K] [Named K]

structure Accounted (offers : List (Offer K V W H)) (definitions : List (Definition K V W H))
    (first : FlowRegistry K V W H) (contest : Contest K V W H) (ledger : Ledger K V W H) :
    Prop where
  flows_eq : contest.flows = first.putAll ledger.flows
  lists : contest.flows.Lists (definitions ++ ledger.flows.map Instance.definition)
  once : (ledger.map Prod.fst).Nodup
  length_eq : contest.tasks.length = offers.length
  makes : ∀ entry ∈ ledger, ∃ offer, offers[entry.1]? = some offer ∧ offer.Makes entry.2
  ends : ∀ entry ∈ ledger, contest.Ends entry.1 (.ok ())
  stands : ∀ i offer task, offers[i]? = some offer → contest.tasks[i]? = some task →
    i ∉ ledger.map Prod.fst → offer.Stands contest.flows task

variable {offers : List (Offer K V W H)} {definitions : List (Definition K V W H)}
  {first : FlowRegistry K V W H} {contest : Contest K V W H} {ledger : Ledger K V W H}

theorem accounted_start (hfirst : first.Lists definitions) (world : W)
    (offers : List (Offer K V W H)) :
    (start world first offers).Accounted offers definitions first [] where
  flows_eq := rfl
  lists := by rwa [Ledger.flows, List.flatMap_nil, List.map_nil, List.append_nil]
  once := .nil
  length_eq := List.length_map _
  makes := List.forall_mem_nil _
  ends := List.forall_mem_nil _
  stands i offer task hoffer htask _ := by
    rw [start, List.getElem?_map, hoffer] at htask
    exact .waits (Option.some.inj htask).symm

/-- What is found in a list of which one item is replaced. -/
theorem of_getElem?_set {α : Type} {items : List α} {i j : Nat} {a b : α}
    (h : (items.set i a)[j]? = some b) : i = j ∧ b = a ∨ i ≠ j ∧ items[j]? = some b := by
  rw [List.getElem?_set] at h
  by_cases heq : i = j
  · rw [if_pos heq] at h
    split at h
    · exact .inl ⟨heq, (Option.some.inj h).symm⟩
    · cases h
  · rw [if_neg heq] at h
    exact .inr ⟨heq, h⟩

namespace Accounted

/-- The registrations in the ledger are not touched by a step of one that is not. -/
theorem ends_set (h : contest.Accounted offers definitions first ledger) {i : Nat}
    (hi : i ∉ ledger.map Prod.fst)
    (task : Task (W × FlowRegistry K V W H) (Except RegistrationFault Unit)) :
    ∀ entry ∈ ledger, (contest.tasks.set i task)[entry.1]? = some (.done (.ok ())) := by
  intro entry hentry
  have hne : i ≠ entry.1 := fun heq => hi (heq ▸ List.mem_map_of_mem hentry)
  exact (List.getElem?_set_ne hne).trans (h.ends entry hentry)

/-- A registration that is not in the ledger takes a step and leaves the registry as it is. -/
theorem passes (h : contest.Accounted offers definitions first ledger) {i : Nat}
    {task : Task (W × FlowRegistry K V W H) (Except RegistrationFault Unit)} (world : W)
    (hi : i ∉ ledger.map Prod.fst)
    (hstands : ∀ offer, offers[i]? = some offer → offer.Stands contest.flows task) :
    (⟨world, contest.flows, contest.tasks.set i task⟩ : Contest K V W H).Accounted offers
      definitions first ledger where
  flows_eq := h.flows_eq
  lists := h.lists
  once := h.once
  length_eq := List.length_set.trans h.length_eq
  makes := h.makes
  ends := h.ends_set hi task
  stands j offer other hoffer hother hj := by
    rcases of_getElem?_set hother with ⟨rfl, rfl⟩ | ⟨-, hsame⟩
    · exact hstands offer hoffer
    · exact h.stands j offer other hoffer hsame hj

/-- A registration puts in its flows. -/
theorem enters (h : contest.Accounted offers definitions first ledger) {i : Nat}
    {offer : Offer K V W H} {flows : List (Instance K V W H)} {later : FlowRegistry K V W H}
    (world : W) (hi : i ∉ ledger.map Prod.fst) (hoffer : offers[i]? = some offer)
    (hmakes : offer.Makes flows) (hcommit : contest.flows.commit flows = .ok later) :
    (⟨world, later, contest.tasks.set i (.done (.ok ()))⟩ : Contest K V W H).Accounted offers
      definitions first (ledger ++ [(i, flows)]) := by
  obtain ⟨-, hlater⟩ := (contest.flows.commit_eq_ok_iff later flows).mp hcommit
  have hledger : Ledger.flows (ledger ++ [(i, flows)]) = ledger.flows ++ flows :=
    (Ledger.flows_append _ _).trans (congrArg _ (List.flatMap_singleton _ _))
  constructor
  case flows_eq => rw [hledger, FlowRegistry.putAll_append, ← h.flows_eq, hlater]
  case lists =>
    rw [hledger, List.map_append, ← List.append_assoc, hmakes.made.definition_eq]
    exact (FlowRegistry.grows_of_commit hmakes.made hcommit).lists _ h.lists
  case once =>
    rw [List.map_append, List.map_singleton]
    exact List.nodup_append'.mpr
      ⟨h.once, List.nodup_singleton i, List.disjoint_singleton.mpr hi⟩
  case length_eq => exact List.length_set.trans h.length_eq
  case makes =>
    exact List.forall_mem_append.mpr
      ⟨h.makes, List.forall_mem_singleton.mpr ⟨offer, hoffer, hmakes⟩⟩
  case ends =>
    have hlt : i < contest.tasks.length :=
      h.length_eq ▸ (List.getElem?_eq_some_iff.mp hoffer).1
    exact List.forall_mem_append.mpr ⟨h.ends_set hi _,
      List.forall_mem_singleton.mpr (List.getElem?_set_self hlt)⟩
  case stands =>
    intro j other task hother htask hj
    rw [List.map_append, List.mem_append, not_or] at hj
    rcases of_getElem?_set htask with ⟨rfl, -⟩ | ⟨-, hsame⟩
    · exact absurd (List.mem_singleton_self _) hj.2
    · refine (h.stands j other task hother hsame hj.1).mono fun name hname => ?_
      exact hlater ▸ (FlowRegistry.contains_putAll_iff _ _ _).mpr (.inl hname)

theorem step (h : contest.Accounted offers definitions first ledger) (step : Pool.Step W) :
    ∃ more, (contest.step step).Accounted offers definitions first (ledger ++ more) := by
  have hsame : contest.Accounted offers definitions first (ledger ++ []) := by
    rwa [List.append_nil]
  cases step with
  | outside change =>
    exact ⟨[], hsame.flows_eq, hsame.lists, hsame.once, hsame.length_eq, hsame.makes, hsame.ends,
      hsame.stands⟩
  | resume i =>
    by_cases hi : i ∈ ledger.map Prod.fst
    · obtain ⟨entry, hentry, rfl⟩ := List.mem_map.mp hi
      exact ⟨[], (h.ends entry hentry).step_eq.symm ▸ hsame⟩
    rw [Contest.step]
    cases htask : contest.tasks[i]? with
    | none => exact ⟨[], hsame⟩
    | some task =>
      obtain ⟨hlt, -⟩ := List.getElem?_eq_some_iff.mp htask
      obtain ⟨offer, hoffer⟩ : ∃ offer, offers[i]? = some offer :=
        ⟨_, List.getElem?_eq_getElem (h.length_eq ▸ hlt)⟩
      have hstands := h.stands i offer task hoffer htask hi
      rcases hstands.advance (contest.world, contest.flows) with
        ⟨hflows, hlater⟩ | ⟨flows, hmakes, hcommit, hdone⟩
      · refine ⟨[], ?_⟩
        simp only [hflows]
        refine hsame.passes _ (by rwa [List.append_nil]) fun other hother => ?_
        cases hoffer.symm.trans hother
        exact hlater
      · refine ⟨[(i, flows)], ?_⟩
        simp only [hdone]
        exact h.enters _ hi hoffer hmakes hcommit

theorem run (h : contest.Accounted offers definitions first ledger)
    (schedule : List (Pool.Step W)) :
    ∃ more, (contest.run schedule).Accounted offers definitions first (ledger ++ more) := by
  induction schedule generalizing contest ledger with
  | nil => exact ⟨[], by rwa [List.append_nil]⟩
  | cons step rest ih =>
    obtain ⟨more, hstep⟩ := h.step step
    obtain ⟨later, hrun⟩ := ih hstep
    exact ⟨more ++ later, by rwa [← List.append_assoc]⟩

theorem nodup_names (h : contest.Accounted offers definitions first ledger) :
    (first.names ++ ledger.flows.map Instance.name).Nodup := by
  rw [← FlowRegistry.names_putAll, ← h.flows_eq]
  exact h.lists.nodup

theorem ordered_eq (h : contest.Accounted offers definitions first ledger) :
    contest.flows.ordered = first.ordered ++ ledger.flows := by
  obtain ⟨-, hledger, hdisjoint⟩ := List.nodup_append'.mp h.nodup_names
  rw [h.flows_eq]
  exact first.ordered_putAll hledger fun inst hinst hname =>
    hdisjoint hname (List.mem_map_of_mem hinst)

/-- The flows in the ledger are those that the registry has. -/
theorem get?_entry (h : contest.Accounted offers definitions first ledger)
    {entry : Nat × List (Instance K V W H)} (hentry : entry ∈ ledger) {inst : Instance K V W H}
    (hinst : inst ∈ entry.2) : contest.flows.get? inst.name = some inst := by
  refine (h.lists.get?_eq_some_iff _ _).mpr ⟨?_, rfl⟩
  rw [h.ordered_eq]
  exact List.mem_append_right _ (List.mem_flatMap.mpr ⟨entry, hentry, hinst⟩)

/-- A name is in one entry at most. -/
theorem entry_eq (h : contest.Accounted offers definitions first ledger)
    {a b : Nat × List (Instance K V W H)} (ha : a ∈ ledger) (hb : b ∈ ledger) {name : String}
    (hnameA : name ∈ a.2.map Instance.name) (hnameB : name ∈ b.2.map Instance.name) : a = b := by
  obtain ⟨-, hledger, -⟩ := List.nodup_append'.mp h.nodup_names
  rw [Ledger.flows, List.map_flatMap, List.nodup_flatMap] at hledger
  have hsymm : Std.Symm (Function.onFun List.Disjoint
      fun entry : Nat × List (Instance K V W H) => entry.2.map Instance.name) :=
    ⟨fun _ _ hdisjoint _ hmemB hmemA => hdisjoint hmemA hmemB⟩
  by_contra hne
  exact hledger.2.forall ha hb hne hnameA hnameB

/-- Flows that are there stay, since only new names are added. -/
theorem get?_run (h : contest.Accounted offers definitions first ledger)
    (schedule : List (Pool.Step W)) {name : String} {inst : Instance K V W H}
    (hget : contest.flows.get? name = some inst) :
    (contest.run schedule).flows.get? name = some inst := by
  obtain ⟨more, hrun⟩ := h.run schedule
  have hflows : (contest.run schedule).flows = contest.flows.putAll more.flows := by
    rw [hrun.flows_eq, Ledger.flows_append, FlowRegistry.putAll_append, h.flows_eq]
  have hnodup := hrun.lists.nodup
  rw [hflows, FlowRegistry.names_putAll, List.nodup_append'] at hnodup
  have hname : name ∈ contest.flows.names := by
    rw [← h.lists.isSome_get?_iff, hget]
    rfl
  rw [hflows, FlowRegistry.get?_putAll_of_not_mem _ fun hmore => hnodup.2.2 hname hmore]
  exact hget

theorem exists_offer (h : contest.Accounted offers definitions first ledger) {i : Nat}
    {result : Except RegistrationFault Unit} (hends : contest.Ends i result) :
    ∃ offer, offers[i]? = some offer := by
  obtain ⟨hlt, -⟩ := List.getElem?_eq_some_iff.mp hends
  exact ⟨_, List.getElem?_eq_getElem (h.length_eq ▸ hlt)⟩

/-- A registration fails with a fault of its own batch, or because a name is taken. -/
theorem faulty_or_late (h : contest.Accounted offers definitions first ledger) {i : Nat}
    {offer : Offer K V W H} {fault : RegistrationFault} (hoffer : offers[i]? = some offer)
    (hends : contest.Ends i (.error fault)) :
    offer.Faulty fault ∨ offer.Late contest.flows fault := by
  have hi : i ∉ ledger.map Prod.fst := by
    intro hmem
    obtain ⟨entry, hentry, rfl⟩ := List.mem_map.mp hmem
    cases hends.symm.trans (h.ends entry hentry)
  obtain ⟨_, hfault, hreason⟩ := (h.stands i offer _ hoffer hends hi).of_done
  cases hfault
  exact hreason

/-- A registration in the ledger has an entry with a flow for every definition. -/
theorem exists_entry (h : contest.Accounted offers definitions first ledger) {i : Nat}
    {offer : Offer K V W H} (hoffer : offers[i]? = some offer)
    (hends : contest.Ends i (.ok ())) :
    ∃ flows, (i, flows) ∈ ledger ∧ offer.Makes flows := by
  by_cases hi : i ∈ ledger.map Prod.fst
  · obtain ⟨⟨_, flows⟩, hentry, rfl⟩ := List.mem_map.mp hi
    obtain ⟨other, hother, hmakes⟩ := h.makes _ hentry
    cases hoffer.symm.trans hother
    exact ⟨flows, hentry, hmakes⟩
  · obtain ⟨fault, hfault, -⟩ := (h.stands i offer _ hoffer hends hi).of_done
    cases hfault

end Accounted

/-- What holds at every moment of a contest that starts with a certain registry. -/
structure Orderly (offers : List (Offer K V W H)) (first : FlowRegistry K V W H)
    (contest : Contest K V W H) (ledger : Ledger K V W H) : Prop where
  /-- The registry is the first one with the flows of the ledger behind. -/
  flows_eq : contest.flows = first.putAll ledger.flows
  /-- The ledger has one entry for each registration that has succeeded, and no others. -/
  ends_ok_iff : ∀ i, contest.Ends i (.ok ()) ↔ i ∈ ledger.map Prod.fst
  once : (ledger.map Prod.fst).Nodup
  nodup : contest.flows.names.Nodup
  /-- Flows that are there stay. -/
  kept : ∀ schedule name inst, contest.flows.get? name = some inst →
    (contest.run schedule).flows.get? name = some inst
  /-- The flows of a registration that has succeeded are all there. -/
  present : ∀ i offer, offers[i]? = some offer → contest.Ends i (.ok ()) →
    ∃ flows, (i, flows) ∈ ledger ∧ offer.Makes flows ∧
      ∀ inst ∈ flows, contest.flows.get? inst.name = some inst
  /-- What is there is there through a registration that has succeeded, unless it was there at the
  start. -/
  absent : ∀ name inst, contest.flows.get? name = some inst →
    first.get? name = some inst ∨ ∃ i flows, (i, flows) ∈ ledger ∧ inst ∈ flows
  /-- A registration fails with a fault of its own batch, or because a name is taken. -/
  refused : ∀ i offer fault, offers[i]? = some offer → contest.Ends i (.error fault) →
    offer.Faulty fault ∨ offer.Late contest.flows fault
  /-- Of two registrations with a common name one fails if the other succeeds. -/
  rivals : ∀ i j a b name, i ≠ j → offers[i]? = some a → offers[j]? = some b →
    name ∈ a.names → name ∈ b.names → contest.Ends i (.ok ()) → ∀ result, contest.Ends j result →
      ∃ fault, result = .error fault ∧ (b.Faulty fault ∨ b.Late contest.flows fault)

theorem Accounted.orderly (hfirst : first.Lists definitions)
    (h : contest.Accounted offers definitions first ledger) :
    contest.Orderly offers first ledger := by
  constructor
  case flows_eq => exact h.flows_eq
  case ends_ok_iff =>
    intro i
    constructor
    · intro hends
      obtain ⟨offer, hoffer⟩ := h.exists_offer hends
      obtain ⟨flows, hentry, -⟩ := h.exists_entry hoffer hends
      exact List.mem_map_of_mem hentry
    · intro hi
      obtain ⟨entry, hentry, rfl⟩ := List.mem_map.mp hi
      exact h.ends entry hentry
  case once => exact h.once
  case nodup => exact h.lists.nodup
  case kept => exact fun schedule name inst hget => h.get?_run schedule hget
  case present =>
    intro i offer hi hends
    obtain ⟨flows, hentry, hmakes⟩ := h.exists_entry hi hends
    exact ⟨flows, hentry, hmakes, fun inst hinst => h.get?_entry hentry hinst⟩
  case absent =>
    intro name inst hget
    obtain ⟨hmem, hname⟩ := (h.lists.get?_eq_some_iff _ _).mp hget
    rw [h.ordered_eq] at hmem
    rcases List.mem_append.mp hmem with hold | hnew
    · exact .inl ((hfirst.get?_eq_some_iff _ _).mpr ⟨hold, hname⟩)
    · obtain ⟨⟨i, flows⟩, hentry, hinst⟩ := List.mem_flatMap.mp hnew
      exact .inr ⟨i, flows, hentry, hinst⟩
  case refused => exact fun i offer fault hoffer hends => h.faulty_or_late hoffer hends
  case rivals =>
    intro i j a b name hne hi hj hnameA hnameB hends result hresult
    cases result with
    | error fault => exact ⟨fault, rfl, h.faulty_or_late hj hresult⟩
    | ok =>
      obtain ⟨flowsA, hentryA, hmakesA⟩ := h.exists_entry hi hends
      obtain ⟨flowsB, hentryB, hmakesB⟩ := h.exists_entry hj hresult
      rw [Offer.names, ← hmakesA.made.name_eq] at hnameA
      rw [Offer.names, ← hmakesB.made.name_eq] at hnameB
      cases h.entry_eq hentryA hentryB hnameA hnameB
      exact absurd rfl hne

end Contest

/-- **Registrations may overlap in any way.** Whatever the order in which any number of
registrations take their steps, a ledger accounts for the registry at every moment. -/
theorem exists_orderly [DecidableEq K] [Named K] {first : FlowRegistry K V W H}
    {definitions : List (Definition K V W H)} (hfirst : first.Lists definitions) (world : W)
    (offers : List (Offer K V W H)) (schedule : List (Pool.Step W)) :
    ∃ ledger, ((Contest.start world first offers).run schedule).Orderly offers first ledger := by
  obtain ⟨ledger, haccounted⟩ := (Contest.accounted_start hfirst world offers).run schedule
  exact ⟨ledger, haccounted.orderly hfirst⟩

/-- Two registrations of the same flow, both of which find its name free: the one that comes first
with its flow succeeds. -/
theorem exists_orderly_two :
    ∃ first, ((FlowRegistry.make .empty .empty [Definition.slow "booted"]).amid [] ()).value =
        .ok first ∧
      first.Lists [Definition.slow "booted"] ∧
      let offer : Offer Empty (fun _ => Unit) Unit Unit := ⟨.empty, .empty, [.slow "late"]⟩
      let looks : List (Pool.Step Unit) := [.resume 0, .resume 1]
      let enters : List (Pool.Step Unit) := [.resume 1, .resume 1, .resume 0, .resume 0]
      let start := Contest.start () first [offer, offer]
      (start.run looks).flows.contains "late" = false ∧
        (start.run (looks ++ enters)).Ends 0 (.error (.duplicateFlow "late")) ∧
        (start.run (looks ++ enters)).Ends 1 (.ok ()) ∧
        (start.run (looks ++ enters)).flows.names = ["booted", "late"] ∧
        ∃ ledger, (start.run (looks ++ enters)).Orderly [offer, offer] first ledger := by
  have hmade : ((FlowRegistry.make .empty .empty [Definition.slow "booted"]).amid [] ()).value =
      .ok _ := rfl
  have hlists := FlowRegistry.lists_of_make (by decide) hmade
  exact ⟨_, hmade, hlists, rfl, rfl, rfl, rfl, exists_orderly hlists () _ _⟩

def Definition.frail (name : String) : Definition Empty (fun _ => Unit) Unit Unit :=
  { Definition.slow name with
    prepare _ := .ok ⟨[], .pause (.done (.error (.setupFailed "no disk")))⟩ }

def Definition.doubled (name : String) : Definition Empty (fun _ => Unit) Unit Unit :=
  { Definition.slow name with plan := Plan.empty.append .execute ["work", "work"] }

/-- Not every rival is refused for its name: a batch that has a fault of its own is refused for this
fault, be it found before the first look or after it. -/
theorem rivals_refused_for_own_faults :
    let offers : List (Offer Empty (fun _ => Unit) Unit Unit) :=
      [⟨.empty, .empty, [.slow "late"]⟩, ⟨.empty, .empty, [.frail "late"]⟩,
        ⟨.empty, .empty, [.doubled "spare", .slow "late"]⟩]
    let looks : List (Pool.Step Unit) := [.resume 1]
    let later : List (Pool.Step Unit) :=
      [.resume 0, .resume 0, .resume 0, .resume 1, .resume 1, .resume 2]
    let contest := (Contest.start () .empty offers).run (looks ++ later)
    contest.Ends 0 (.ok ()) ∧
      contest.Ends 1 (.error (.initialization "late" "execution setup failed: no disk")) ∧
      contest.Ends 2 (.error (.invalidPlan "spare" (.duplicateStage "work"))) ∧
      ¬ ∀ j result, j ≠ 0 → contest.Ends j result →
        ∃ name, result = .error (.duplicateFlow name) := by
  refine ⟨rfl, rfl, rfl, fun h => ?_⟩
  obtain ⟨name, hname⟩ := h 1 _ (by decide) rfl
  cases hname

end StagedFlow
