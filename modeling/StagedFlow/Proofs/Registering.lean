import StagedFlow.Proofs.Booting

/-!
# Flows that are added later

A registry is in use while flows are added to it: any number of registrations may be under way at
once, each goes on from one of its pauses to the next whenever it is its turn, and hooks come along
meanwhile. `Registrar.step` says what can happen next. What carries the invariant is that a
registration under way can touch the registry in one way only, by putting all its flows behind the
others in its last step.
-/

namespace StagedFlow

variable {K : Type} {V : K → Type} {S W H : Type}

/-- A registration that has yet to put the flows of a batch into the registry beside its world, and
does nothing else to that registry. -/
inductive Enrolling (batch : List (Definition K V W H)) :
    Task (W × FlowRegistry K V W H) (Except RegistrationFault Unit) → Prop where
  | refused (fault : RegistrationFault) : Enrolling batch (.done (.error fault))
  -- The task is given by an equation: as an index `commitShared flows` would stop case analysis.
  | commit {flows : List (Instance K V W H)}
      {task : Task (W × FlowRegistry K V W H) (Except RegistrationFault Unit)}
      (hmade : Made batch flows) (htask : task = FlowRegistry.commitShared flows) :
      Enrolling batch task
  | act {change : W × FlowRegistry K V W H → W × FlowRegistry K V W H}
      {next : W × FlowRegistry K V W H →
        Task (W × FlowRegistry K V W H) (Except RegistrationFault Unit)}
      (hsame : ∀ shared, (change shared).2 = shared.2)
      (hnext : ∀ shared, Enrolling batch (next shared)) : Enrolling batch (.act change next)
  | pause {next : Task (W × FlowRegistry K V W H) (Except RegistrationFault Unit)}
      (hnext : Enrolling batch next) : Enrolling batch (.pause next)

def FlowRegistry.enter (flows : Task W (Except RegistrationFault (List (Instance K V W H)))) :
    Task (W × FlowRegistry K V W H) (Except RegistrationFault Unit) :=
  flows.beside.bind fun made =>
    match made with
    | .error fault => .done (.error fault)
    | .ok flows => commitShared flows

/-- A registration looks at the registry, makes its flows beside it and looks again. -/
theorem FlowRegistry.enroll_eq [DecidableEq K] [Named K] (providers : Bag K V)
    (hooks : HookRegistry W H) (batch : List (Definition K V W H)) :
    enroll providers hooks batch =
      Task.look.bind fun shared : W × FlowRegistry K V W H =>
        match shared.2.checkBatch providers batch with
        | .error fault => .done (.error fault)
        | .ok () => enter (Definition.instantiateAll providers hooks batch) :=
  rfl

namespace Enrolling

variable {batch : List (Definition K V W H)}
  {task : Task (W × FlowRegistry K V W H) (Except RegistrationFault Unit)}

/-- A task that knows nothing of the registry may come first. -/
theorem beside_bind {α β : Type} (t : Task W α) (f : α → β)
    {next : β → Task (W × FlowRegistry K V W H) (Except RegistrationFault Unit)}
    (hnext : ∀ a, Enrolling batch (next (f a))) :
    Enrolling batch ((t.map f).beside.bind next) := by
  induction t with
  | done a => exact hnext a
  | act change rest ih => exact .act (fun _ => rfl) fun shared => ih shared.1
  | pause rest ih => exact .pause ih

theorem instantiateAll_bind {providers : Bag K V} {hooks : HookRegistry W H}
    (hchecked : Definition.checkAll [] batch = .ok ())
    {next : Except RegistrationFault (List (Instance K V W H)) →
      Task (W × FlowRegistry K V W H) (Except RegistrationFault Unit)}
    (herror : ∀ fault, next (.error fault) = .done (.error fault))
    (hok : ∀ flows, next (.ok flows) = FlowRegistry.commitShared flows) :
    Enrolling batch ((Definition.instantiateAll providers hooks batch).beside.bind next) := by
  rw [Definition.instantiateAll]
  cases hmade : batch.mapM (Definition.instantiate providers hooks) with
  | error fault => exact (congrArg (Enrolling batch) (herror fault)).mpr (.refused fault)
  | ok candidates =>
    refine beside_bind _ _ fun result => ?_
    cases result with
    | error fault => exact (congrArg (Enrolling batch) (herror fault)).mpr (.refused fault)
    | ok => exact .commit (made_of_mapM hchecked hmade) (hok _)

theorem enroll [DecidableEq K] [Named K] (providers : Bag K V) (hooks : HookRegistry W H)
    (batch : List (Definition K V W H)) :
    Enrolling batch (FlowRegistry.enroll providers hooks batch) := by
  refine .act (fun _ => rfl) fun shared => ?_
  rw [Task.bind]
  cases hcheck : shared.2.checkBatch providers batch with
  | error fault => exact .refused fault
  | ok =>
    have hchecked := ((shared.2.checkBatch_eq_ok_iff providers batch).mp hcheck).1
    exact instantiateAll_bind hchecked (fun _ => rfl) fun _ => rfl

theorem of_done {result : Except RegistrationFault Unit}
    (h : Enrolling batch (.done result : Task (W × FlowRegistry K V W H) _)) :
    ∃ fault, result = .error fault := by
  cases h with
  | refused fault => exact ⟨fault, rfl⟩
  | commit hmade htask => cases htask

/-- Up to its next pause a registration leaves the registry as it is, or it ends and has put in all
its flows. -/
theorem poll (h : Enrolling batch task) (shared : W × FlowRegistry K V W H) :
    (task.poll shared).2.2 = shared.2 ∧ Enrolling batch (task.poll shared).1 ∨
      (task.poll shared).1 = .done (.ok ()) ∧
        shared.2.Grows (task.poll shared).2.2 batch := by
  induction h generalizing shared with
  | refused fault => exact .inl ⟨rfl, .refused fault⟩
  | @commit flows task hmade htask =>
    subst htask
    rw [FlowRegistry.commitShared, Task.poll, Task.poll]
    cases hcommit : shared.2.commit flows with
    | error fault =>
      refine .inl ⟨?_, .refused fault⟩
      rw [Prod.map_snd, hcommit]
      rfl
    | ok later =>
      refine .inr ⟨rfl, ?_⟩
      rw [Prod.map_snd, hcommit]
      exact FlowRegistry.grows_of_commit hmade hcommit
  | @act change next hsame _ ih =>
    -- The registry at the end is compared with the one after this step, which is the same.
    rw [Task.poll, ← hsame shared]
    exact ih shared (change shared)
  | @pause next hnext _ => exact .inl ⟨rfl, hnext⟩

end Enrolling

/-! ### A registry in use -/

structure Registration (K : Type) (V : K → Type) (W H : Type) where
  batch : List (Definition K V W H)
  task : Task (W × FlowRegistry K V W H) (Except RegistrationFault Unit)

/-- A registry in the world, with the hooks that new flows get and the registrations under way. -/
structure Registrar (K : Type) (V : K → Type) (W H : Type) where
  world : W
  flows : FlowRegistry K V W H
  hooks : HookRegistry W H
  underway : List (Registration K V W H)
  /-- The batches whose registration has ended, in this order, each with the result. -/
  finished : List (List (Definition K V W H) × Except RegistrationFault Unit)

namespace Registrar

inductive Step (K : Type) (V : K → Type) (W H : Type) where
  | register (providers : Bag K V) (batch : List (Definition K V W H))
  | resume (i : Nat)
  | abandon (i : Nat)
  | hook (token : FlowToken) (hook : HookBinding H)
  | observe (observer : Observer W)
  /-- New flows get other hooks from now on. -/
  | switch (hooks : HookRegistry W H)
  | disturb (change : W → W)

def start (world : W) (flows : FlowRegistry K V W H) (hooks : HookRegistry W H) :
    Registrar K V W H :=
  ⟨world, flows, hooks, [], []⟩

def poll (registrar : Registrar K V W H) (others : List (Registration K V W H))
    (registration : Registration K V W H) : Registrar K V W H :=
  let (task, world, flows) := registration.task.poll (registrar.world, registrar.flows)
  match task with
  | .done result =>
    { registrar with
      world, flows, underway := others
      finished := registrar.finished ++ [(registration.batch, result)] }
  | _ => { registrar with world, flows, underway := others ++ [⟨registration.batch, task⟩] }

def step [DecidableEq K] [Named K] (registrar : Registrar K V W H) :
    Step K V W H → Registrar K V W H
  | .register providers batch =>
    registrar.poll registrar.underway
      ⟨batch, FlowRegistry.enroll providers registrar.hooks batch⟩
  | .resume i =>
    match registrar.underway[i]? with
    | some registration => registrar.poll (registrar.underway.eraseIdx i) registration
    | none => registrar
  | .abandon i => { registrar with underway := registrar.underway.eraseIdx i }
  | .hook token hook =>
    match registrar.hooks.register token hook with
    | .ok hooks => { registrar with hooks }
    | .error _ => registrar
  | .observe observer =>
    match registrar.hooks.observe observer with
    | .ok hooks => { registrar with hooks }
    | .error _ => registrar
  | .switch hooks => { registrar with hooks }
  | .disturb change => { registrar with world := change registrar.world }

def accepted (registrar : Registrar K V W H) : List (Definition K V W H) :=
  registrar.finished.flatMap fun (batch, result) =>
    match result with
    | .ok () => batch
    | .error _ => []

/-- What a step does to the flows: nothing, unless it is the last one of a registration that
succeeds. -/
inductive Moves (registrar later : Registrar K V W H) : Prop where
  | stays (hflows : later.flows = registrar.flows) (hfinished : later.finished = registrar.finished)
  | refused (batch : List (Definition K V W H)) (fault : RegistrationFault)
      (hflows : later.flows = registrar.flows)
      (hfinished : later.finished = registrar.finished ++ [(batch, .error fault)])
  | added (batch : List (Definition K V W H))
      (hflows : registrar.flows.Grows later.flows batch)
      (hfinished : later.finished = registrar.finished ++ [(batch, .ok ())])

theorem poll_of_done {registrar : Registrar K V W H} {registration : Registration K V W H}
    {result : Except RegistrationFault Unit} {world : W} {flows : FlowRegistry K V W H}
    (h : registration.task.poll (registrar.world, registrar.flows) = (.done result, world, flows))
    (others : List (Registration K V W H)) :
    registrar.poll others registration =
      { registrar with
        world, flows, underway := others
        finished := registrar.finished ++ [(registration.batch, result)] } := by
  rw [poll, h]

theorem poll_of_not_done {registrar : Registrar K V W H} {registration : Registration K V W H}
    {task : Task (W × FlowRegistry K V W H) (Except RegistrationFault Unit)} {world : W}
    {flows : FlowRegistry K V W H}
    (h : registration.task.poll (registrar.world, registrar.flows) = (task, world, flows))
    (hdone : ∀ result, task ≠ .done result) (others : List (Registration K V W H)) :
    registrar.poll others registration =
      { registrar with
        world, flows, underway := others ++ [⟨registration.batch, task⟩] } := by
  rw [poll, h]
  cases task with
  | done result => exact absurd rfl (hdone result)
  | act => rfl
  | pause => rfl

def Untouched (underway : List (Registration K V W H)) : Prop :=
  ∀ registration ∈ underway, Enrolling registration.batch registration.task

theorem moves_poll (registrar : Registrar K V W H) {others : List (Registration K V W H)}
    (hothers : Untouched others) (registration : Registration K V W H)
    (h : Enrolling registration.batch registration.task) :
    registrar.Moves (registrar.poll others registration) ∧
      Untouched (registrar.poll others registration).underway := by
  have hpoll := h.poll (registrar.world, registrar.flows)
  obtain ⟨⟨task, world, flows⟩, hpolled⟩ :
      ∃ polled, registration.task.poll (registrar.world, registrar.flows) = polled := ⟨_, rfl⟩
  rw [hpolled] at hpoll
  rcases hpoll with ⟨hflows, htask⟩ | ⟨htask, hgrows⟩
  -- A registration that has not touched the registry may have ended all the same, with a fault.
  · by_cases hdone : ∃ result, task = .done result
    · obtain ⟨result, rfl⟩ := hdone
      obtain ⟨fault, rfl⟩ := htask.of_done
      rw [poll_of_done hpolled]
      exact ⟨.refused _ fault hflows rfl, hothers⟩
    · rw [poll_of_not_done hpolled (not_exists.mp hdone)]
      exact ⟨.stays hflows rfl, List.forall_mem_append.mpr
        ⟨hothers, List.forall_mem_singleton.mpr htask⟩⟩
  · rw [show task = _ from htask] at hpolled
    rw [poll_of_done hpolled]
    exact ⟨.added _ hgrows rfl, hothers⟩

/-- A step of any kind moves the flows in one of these ways. -/
theorem moves_step [DecidableEq K] [Named K] {registrar : Registrar K V W H}
    (h : Untouched registrar.underway) (step : Step K V W H) :
    registrar.Moves (registrar.step step) ∧ Untouched (registrar.step step).underway := by
  have herased : ∀ i, Untouched (registrar.underway.eraseIdx i) := fun i other hother =>
    h other (List.mem_of_mem_eraseIdx hother)
  cases step with
  | register providers batch =>
    exact registrar.moves_poll h ⟨batch, FlowRegistry.enroll providers registrar.hooks batch⟩
      (.enroll providers registrar.hooks batch)
  | resume i =>
    rw [step]
    cases hi : registrar.underway[i]? with
    | none => exact ⟨.stays rfl rfl, h⟩
    | some registration =>
      exact registrar.moves_poll (herased i) registration
        (h registration (List.mem_of_getElem? hi))
  | abandon i => exact ⟨.stays rfl rfl, herased i⟩
  | hook token hook =>
    rw [step]
    cases registrar.hooks.register token hook <;> exact ⟨.stays rfl rfl, h⟩
  | observe observer =>
    rw [step]
    cases registrar.hooks.observe observer <;> exact ⟨.stays rfl rfl, h⟩
  | switch hooks => exact ⟨.stays rfl rfl, h⟩
  | disturb change => exact ⟨.stays rfl rfl, h⟩

/-- A registry in use is right: its flows are those that were there at first and those that were
added, and this stays so. -/
structure Keeps [DecidableEq K] [Named K] (first : List (Definition K V W H))
    (registrar : Registrar K V W H) : Prop where
  lists : registrar.flows.Lists (first ++ registrar.accepted)
  isSome_get?_iff : ∀ name,
    (registrar.flows.get? name).isSome = true ↔ name ∈ registrar.flows.names
  /-- Requests are offered to the flows with a route, in the order of the names. -/
  routed_eq : registrar.flows.routed = (registrar.flows.names.filterMap
    registrar.flows.get?).filter fun inst => inst.definition.route.isSome
  definition_routed : registrar.flows.routed.map Instance.definition =
    (first ++ registrar.accepted).filter fun definition => definition.route.isSome
  moves : ∀ step, registrar.Moves (registrar.step step)
  /-- Whatever happens later, a flow that is there stays as it is. -/
  get?_later : ∀ (steps : List (Step K V W H)) (name : String),
    name ∈ registrar.flows.names →
      (steps.foldl Registrar.step registrar).flows.get? name = registrar.flows.get? name
  run_later : ∀ (steps : List (Step K V W H)) (name : String),
    name ∈ registrar.flows.names →
      ∀ {S : Type} (p : Platform S W H) (input : Json) (deps : S),
        (steps.foldl Registrar.step registrar).flows.run p name input deps =
          registrar.flows.run p name input deps

namespace Moves

variable {registrar later : Registrar K V W H} {first : List (Definition K V W H)}

theorem lists (h : registrar.Moves later)
    (hlists : registrar.flows.Lists (first ++ registrar.accepted)) :
    later.flows.Lists (first ++ later.accepted) := by
  cases h with
  | stays hflows hfinished => rwa [accepted, hflows, hfinished]
  | refused batch fault hflows hfinished =>
    rw [accepted, hflows, hfinished, List.flatMap_append, List.flatMap_singleton, List.append_nil]
    exact hlists
  | added batch hgrows hfinished =>
    rw [accepted, hfinished, List.flatMap_append, List.flatMap_singleton, ← List.append_assoc]
    exact hgrows.lists _ hlists

theorem get?_eq (h : registrar.Moves later) {name : String}
    (hname : registrar.flows.contains name = true) :
    later.flows.get? name = registrar.flows.get? name := by
  cases h with
  | stays hflows _ => rw [hflows]
  | refused _ _ hflows _ => rw [hflows]
  | added _ hgrows _ => exact hgrows.get?_eq name hname

end Moves

variable [DecidableEq K] [Named K] {registrar : Registrar K V W H}
  {first : List (Definition K V W H)}

theorem untouched_foldl (h : Untouched registrar.underway) (steps : List (Step K V W H)) :
    Untouched (steps.foldl Registrar.step registrar).underway := by
  induction steps generalizing registrar with
  | nil => exact h
  | cons step rest ih => exact ih (moves_step h step).2

theorem lists_foldl (h : Untouched registrar.underway)
    (hlists : registrar.flows.Lists (first ++ registrar.accepted)) (steps : List (Step K V W H)) :
    (steps.foldl Registrar.step registrar).flows.Lists
      (first ++ (steps.foldl Registrar.step registrar).accepted) := by
  induction steps generalizing registrar with
  | nil => exact hlists
  | cons step rest ih =>
    obtain ⟨hmoves, huntouched⟩ := moves_step h step
    exact ih huntouched (hmoves.lists hlists)

theorem get?_foldl (h : Untouched registrar.underway) {name : String}
    (hname : registrar.flows.contains name = true) (steps : List (Step K V W H)) :
    (steps.foldl Registrar.step registrar).flows.get? name = registrar.flows.get? name := by
  induction steps generalizing registrar with
  | nil => rfl
  | cons step rest ih =>
    obtain ⟨hmoves, huntouched⟩ := moves_step h step
    have hstep := hmoves.get?_eq hname
    have hcontains : (registrar.step step).flows.contains name = true := by
      rwa [FlowRegistry.contains_eq_isSome, hstep, ← FlowRegistry.contains_eq_isSome]
    exact (ih huntouched hcontains).trans hstep

end Registrar

/-- **Flows can be added at any time.** A registry that is made of a checked list of definitions is
right, whatever is done with it and with its hooks afterwards. -/
theorem registrar_keeps [DecidableEq K] [Named K] {providers : Bag K V}
    {hooks : HookRegistry W H} {first : List (Definition K V W H)} {others : List (W → W)}
    {before : W} {flows : FlowRegistry K V W H}
    (hchecked : Definition.checkAll [] first = .ok ())
    (hmade : ((FlowRegistry.make providers hooks first).amid others before).value = .ok flows)
    (world : W) (later : HookRegistry W H) (steps : List (Registrar.Step K V W H)) :
    (steps.foldl Registrar.step (.start world flows later)).Keeps first := by
  have hstart : Registrar.Untouched (Registrar.start world flows later).underway := nofun
  have hfirst : (Registrar.start world flows later).flows.Lists
      (first ++ (Registrar.start world flows later).accepted) := by
    rw [Registrar.accepted, Registrar.start, List.flatMap_nil, List.append_nil]
    exact FlowRegistry.lists_of_make hchecked hmade
  have huntouched := Registrar.untouched_foldl hstart steps
  have hlists := Registrar.lists_foldl hstart hfirst steps
  generalize steps.foldl Registrar.step (Registrar.start world flows later) = registrar at *
  have hstays : ∀ (steps : List (Registrar.Step K V W H)) name,
      name ∈ registrar.flows.names →
        (steps.foldl Registrar.step registrar).flows.get? name = registrar.flows.get? name :=
    fun steps name hname =>
      Registrar.get?_foldl huntouched ((hlists.contains_iff name).mpr hname) steps
  constructor
  case lists => exact hlists
  case isSome_get?_iff => exact hlists.isSome_get?_iff
  case routed_eq => rfl
  case definition_routed => exact hlists.definition_routed
  case moves => exact fun step => (Registrar.moves_step huntouched step).1
  case get?_later => exact hstays
  case run_later =>
    intro steps name hname S p input deps
    rw [FlowRegistry.run, hstays steps name hname, FlowRegistry.run]

instance : Named Empty where
  typeName := Empty.elim

def Definition.slow (name : String) : Definition Empty (fun _ => Unit) Unit Unit where
  token := ⟨name, ⟨"demo", ["work"]⟩⟩
  plan := Plan.empty.append .execute ["work"]
  access := .everyone
  inputSchema := none
  outputSchema := none
  route := none
  guard _ := true
  dependencies := []
  prepare _ := .ok ⟨[], .pause (.done (.ok ()))⟩

/-- Two registrations of the same flow at once: the second one finds the name taken in the end. -/
theorem registrar_keeps_first_of_two :
    Definition.checkAll [] [Definition.slow "booted"] = .ok () ∧
      ∃ flows, ((FlowRegistry.make .empty .empty [Definition.slow "booted"]).amid [] ()).value =
          .ok flows ∧
        let steps : List (Registrar.Step Empty (fun _ => Unit) Unit Unit) :=
          [.register .empty [.slow "late"], .register .empty [.slow "late"], .resume 0, .resume 0]
        let registrar := steps.foldl Registrar.step (.start () flows .empty)
        registrar.flows.names = ["booted", "late"] ∧
          registrar.finished.map Prod.snd = [.ok (), .error (.duplicateFlow "late")] ∧
            registrar.Keeps [.slow "booted"] := by
  have hchecked : Definition.checkAll [] [Definition.slow "booted"] = .ok () := by decide
  have hmade : ((FlowRegistry.make .empty .empty [Definition.slow "booted"]).amid [] ()).value =
      .ok _ := rfl
  exact ⟨hchecked, _, hmade, rfl, rfl, registrar_keeps hchecked hmade () .empty _⟩

end StagedFlow
