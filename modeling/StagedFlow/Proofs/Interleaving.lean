import StagedFlow.Proofs.Interference

/-!
# Tasks side by side

A pool holds tasks that share a world. Each of them, a party to the pool, keeps a record that nobody
else touches. A schedule says who goes on next: a party runs from where it has paused to where it
pauses again, and anything else that happens to the world comes between such turns. The journal of a
pool says who did what to the world.

Whatever the others do, a party is on its way through a run of its task among changes of others, so
that what holds of all such runs can be said of the parties of a pool.
-/

namespace StagedFlow

variable {W G α : Type}

namespace Task

def made : Task (W × G) α → W × G → List (W → W)
  | done _, _ => []
  | act change next, w => (fun v => (change (v, w.2)).1) :: (next w).made (change w)
  | pause _, _ => []

/-- The world is what the task has made of it. -/
theorem world_poll (t : Task (W × G) α) (w : W × G) :
    (t.poll w).2.1 = (t.made w).foldl (fun v change => change v) w.1 := by
  induction t generalizing w with
  | done a => rfl
  | act change next ih => exact ih w (change w)
  | pause next ih => rfl

theorem run_poll (t : Task W α) (w : W) : (t.poll w).1.run (t.poll w).2 = t.run w := by
  induction t generalizing w with
  | done a => rfl
  | act change next ih => exact ih w (change w)
  | pause next ih => rfl

/-- What is left of a task at its pause goes on as the whole task does. A task that has ended leaves
it to others to change the world once more. -/
theorem amid_poll (t : Task (W × G) α) (w : W × G) (change : W → W) (more : List (W → W)) :
    let whole := t.amid ((change :: more).map (Prod.map · id)) w
    let rest := (t.poll w).1.amid (more.map (Prod.map · id)) (change (t.poll w).2.1, (t.poll w).2.2)
    whole.value = rest.value ∧ whole.world.2 = rest.world.2 := by
  induction t generalizing w with
  | done a => exact ⟨rfl, rfl⟩
  | act f next ih => exact ih w (f w)
  | pause next ih => exact ⟨rfl, rfl⟩

end Task

structure Party (W G α : Type) where
  task : Task (W × G) α
  record : G

namespace Party

def resumed (party : Party W G α) (w : W) : Party W G α :=
  let after := party.task.poll (w, party.record)
  ⟨after.1, after.2.2⟩

def Ends (party : Party W G α) (a : α) : Prop := party.task = .done a

theorem Ends.resumed {party : Party W G α} {a : α} (h : party.Ends a) (w : W) :
    (party.resumed w).Ends a := by
  rw [Ends, Party.resumed, show party.task = .done a from h]
  rfl

/-- The party is on its way through a run of a task among changes of others: whatever others do from
now on, the run ends as the party does. -/
def Continues (task : Task (W × G) α) (record : G) (party : Party W G α) (w : W) : Prop :=
  ∃ start others, ∀ more : List (W → W),
    let whole := task.amid ((others ++ more).map (Prod.map · id)) (start, record)
    let rest := party.task.amid (more.map (Prod.map · id)) (w, party.record)
    whole.value = rest.value ∧ whole.world.2 = rest.world.2

theorem Continues.start (party : Party W G α) (w : W) :
    party.Continues party.task party.record w :=
  ⟨w, [], fun _ => ⟨rfl, rfl⟩⟩

theorem Continues.resumed {task : Task (W × G) α} {record : G} {party : Party W G α} {w : W}
    (h : party.Continues task record w) (later : W) :
    (party.resumed w).Continues task record later := by
  obtain ⟨start, others, hrun⟩ := h
  refine ⟨start, others ++ [fun _ => later], fun more => ?_⟩
  obtain ⟨hvalue, hrecord⟩ := hrun ((fun _ => later) :: more)
  obtain ⟨hpollValue, hpollRecord⟩ :=
    party.task.amid_poll (w, party.record) (fun _ => later) more
  rw [List.append_assoc, List.singleton_append]
  exact ⟨hvalue.trans hpollValue, hrecord.trans hpollRecord⟩

end Party

/-- Parties over one world, and all that was done to the world so far, with the party that did it if
it was one of them. -/
structure Pool (W G α : Type) where
  parties : List (Party W G α)
  world : W
  journal : List (Option Nat × (W → W))

namespace Pool

inductive Step (W : Type) where
  | resume (i : Nat)
  | outside (change : W → W)

def Step.resumes (i : Nat) : Step W → Bool
  | resume j => i == j
  | outside _ => false

theorem eq_of_resumes {i : Nat} {step : Step W} (h : step.resumes i = true) :
    step = .resume i := by
  cases step with
  | outside change => cases h
  | resume j => rw [beq_iff_eq.mp h]

def step (pool : Pool W G α) : Step W → Pool W G α
  | .resume i =>
    match pool.parties[i]? with
    | none => pool
    | some party =>
      { parties := pool.parties.set i (party.resumed pool.world)
        world := (party.task.poll (pool.world, party.record)).2.1
        journal := pool.journal ++
          (party.task.made (pool.world, party.record)).map fun change => (some i, change) }
  | .outside change =>
    { pool with world := change pool.world, journal := pool.journal ++ [(none, change)] }

def run (pool : Pool W G α) (schedule : List (Step W)) : Pool W G α := schedule.foldl step pool

def share (pool : Pool W G α) (i : Nat) : List (W → W) :=
  (pool.journal.filter fun entry => entry.1 == some i).map Prod.snd

def launch (tasks : List (Task (W × G) α)) (record : G) (w : W) : Pool W G α :=
  ⟨tasks.map (⟨·, record⟩), w, []⟩

theorem run_append (pool : Pool W G α) (before later : List (Step W)) :
    pool.run (before ++ later) = (pool.run before).run later :=
  List.foldl_append

theorem step_resume {pool : Pool W G α} {i : Nat} {party : Party W G α}
    (h : pool.parties[i]? = some party) :
    pool.step (.resume i) =
      { parties := pool.parties.set i (party.resumed pool.world)
        world := (party.task.poll (pool.world, party.record)).2.1
        journal := pool.journal ++
          (party.task.made (pool.world, party.record)).map fun change => (some i, change) } := by
  rw [step, h]

theorem step_resume_of_none {pool : Pool W G α} {i : Nat} (h : pool.parties[i]? = none) :
    pool.step (.resume i) = pool := by
  rw [step, h]

section Step

variable {pool : Pool W G α} {i : Nat} {party : Party W G α}

theorem getElem?_resume (h : pool.parties[i]? = some party) :
    (pool.step (.resume i)).parties[i]? = some (party.resumed pool.world) := by
  rw [step_resume h]
  exact List.getElem?_set_self (List.getElem?_eq_some_iff.mp h).1

theorem share_resume (h : pool.parties[i]? = some party) :
    (pool.step (.resume i)).share i =
      pool.share i ++ party.task.made (pool.world, party.record) := by
  rw [step_resume h]
  simp [share, List.filter_append, List.filter_map, Function.comp_def]

theorem step_of_not_resumes (pool : Pool W G α) {step : Step W} (h : step.resumes i = false) :
    (pool.step step).parties[i]? = pool.parties[i]? ∧ (pool.step step).share i = pool.share i := by
  cases step with
  | outside change => simp [Pool.step, share]
  | resume j =>
    have hne : i ≠ j := by simpa [Step.resumes] using h
    cases hparty : pool.parties[j]? with
    | none => simp [step_resume_of_none hparty]
    | some party =>
      rw [step_resume hparty]
      refine ⟨List.getElem?_set_ne hne.symm, ?_⟩
      simp [share, List.filter_append, List.filter_map, Function.comp_def, hne.symm]

end Step

/-- A party stays in the pool, and what its turns preserve stays true of it. -/
theorem exists_run {P : Party W G α → Prop} (hresumed : ∀ party w, P party → P (party.resumed w))
    {pool : Pool W G α} {i : Nat} {party : Party W G α} (h : pool.parties[i]? = some party)
    (hparty : P party) (schedule : List (Step W)) :
    ∃ later, (pool.run schedule).parties[i]? = some later ∧ P later := by
  induction schedule generalizing pool party with
  | nil => exact ⟨party, h, hparty⟩
  | cons step rest ih =>
    cases hresumes : step.resumes i with
    | false => exact ih ((pool.step_of_not_resumes hresumes).1.trans h) hparty
    | true =>
      obtain rfl := eq_of_resumes hresumes
      exact ih (getElem?_resume h) (hresumed party pool.world hparty)

theorem length_run (pool : Pool W G α) (schedule : List (Step W)) :
    (pool.run schedule).parties.length = pool.parties.length := by
  induction schedule generalizing pool with
  | nil => rfl
  | cons step rest ih =>
    refine (ih (pool.step step)).trans ?_
    cases step with
    | outside change => rfl
    | resume i =>
      cases hparty : pool.parties[i]? with
      | none => rw [step_resume_of_none hparty]
      | some party =>
        rw [step_resume hparty]
        exact List.length_set

theorem getElem?_launch {tasks : List (Task (W × G) α)} {record : G} {w : W} {i : Nat}
    {task : Task (W × G) α} (h : tasks[i]? = some task) :
    (launch tasks record w).parties[i]? = some ⟨task, record⟩ := by
  rw [launch, List.getElem?_map, h, Option.map_some]

theorem continues {tasks : List (Task (W × G) α)} {record : G} {start : W} {i : Nat}
    {task : Task (W × G) α} (h : tasks[i]? = some task) (schedule : List (Step W))
    {party : Party W G α}
    (hparty : ((launch tasks record start).run schedule).parties[i]? = some party) (w : W) :
    party.Continues task record w := by
  obtain ⟨later, hlater, hcontinues⟩ := exists_run
    (P := fun party => ∀ w, party.Continues task record w)
    (fun party now hcontinues later => (hcontinues now).resumed later) (getElem?_launch h)
    (fun w => Party.Continues.start ⟨task, record⟩ w) schedule
  rw [hparty] at hlater
  cases hlater
  exact hcontinues w

/-- The journal accounts for all that has become of the world. -/
theorem world_run (pool : Pool W G α) (start : W)
    (h : pool.world = (pool.journal.map Prod.snd).foldl (fun w change => change w) start)
    (schedule : List (Step W)) :
    (pool.run schedule).world =
      ((pool.run schedule).journal.map Prod.snd).foldl (fun w change => change w) start := by
  induction schedule generalizing pool with
  | nil => exact h
  | cons step rest ih =>
    refine ih (pool.step step) ?_
    cases step with
    | outside change => simp [Pool.step, h]
    | resume i =>
      cases hparty : pool.parties[i]? with
      | none => rwa [step_resume_of_none hparty]
      | some party =>
        rw [step_resume hparty]
        simp only [List.map_append, List.map_map, List.foldl_append, ← h]
        rw [Task.world_poll]
        congr 1
        exact (List.map_id _).symm

/-! ### Every moment -/

/-- At every moment since the start, in the middle of turns too, the world is one that satisfies
`P`. -/
def Always (P : W → Prop) (start : W) (pool : Pool W G α) : Prop :=
  ∀ before, before <+: pool.journal.map Prod.snd →
    P (before.foldl (fun w change => change w) start)

/-- What holds at every moment so far, and of all that is done from then on, holds at every
moment. -/
theorem Always.append {P : W → Prop} {start : W} {pool later : Pool W G α} {more : List (W → W)}
    (h : pool.Always P start)
    (hworld : pool.world = (pool.journal.map Prod.snd).foldl (fun w change => change w) start)
    (hjournal : later.journal.map Prod.snd = pool.journal.map Prod.snd ++ more)
    (hmore : ∀ before, before <+: more →
      P (before.foldl (fun w change => change w) pool.world)) :
    later.Always P start := by
  intro before hbefore
  rw [hjournal] at hbefore
  rcases List.prefix_or_prefix_of_prefix hbefore (List.prefix_append _ more) with hold | hnew
  · exact h before hold
  · obtain ⟨rest, rfl⟩ := hnew
    rw [List.foldl_append, ← hworld]
    exact hmore rest ((List.prefix_append_right_inj _).mp hbefore)

end Pool

end StagedFlow
