import StagedFlow.Proofs.Interference
import StagedFlow.Proofs.Listing

/-!
# Making a registry of flows

A registry is made of definitions that pass their checks: flows are made of all of them, and the
checks that the flows have yet to pass run side by side. They all pass if each of them passes
whatever the others do to the world where it pauses.
-/

namespace StagedFlow

namespace Task

variable {W ε α β : Type}

/-- A task succeeds from a world, whatever others do to the world where it pauses. -/
def SucceedsFrom (t : Task W (Except ε α)) (w : W) : Prop :=
  ∀ others, ∃ a, (t.amid others w).value = .ok a

namespace SucceedsFrom

variable {w : W}

theorem done (a : α) : (done (.ok a) : Task W (Except ε α)).SucceedsFrom w :=
  fun _ => ⟨a, rfl⟩

theorem not_done_error (e : ε) : ¬ (Task.done (.error e) : Task W (Except ε α)).SucceedsFrom w := by
  intro h
  obtain ⟨a, ha⟩ := h []
  cases ha

/-- Where a task pauses, the world can become any other one. -/
theorem pause_iff {next : Task W (Except ε α)} :
    (Task.pause next).SucceedsFrom w ↔ ∀ w', next.SucceedsFrom w' := by
  constructor
  · exact fun h w' others => h ((fun _ => w') :: others)
  · intro h others
    cases others with
    | nil => exact h w []
    | cons f others => exact h (f w) others

theorem map {t : Task W (Except ε α)} (h : t.SucceedsFrom w) (f : α → β) :
    (t.map fun result => result.map f).SucceedsFrom w := by
  intro others
  obtain ⟨a, ha⟩ := h others
  refine ⟨f a, ?_⟩
  rw [amid_map, ha]
  rfl

/-- A task that takes its turn and goes on to what succeeds. -/
theorem tryTurn {k : Task W (Except ε β) → Task W (Except ε (α × β))} {t : Task W (Except ε β)}
    (h : t.SucceedsFrom w)
    (hk : ∀ t' : Task W (Except ε β), (∀ w', t'.SucceedsFrom w') → ∀ w', (k t').SucceedsFrom w') :
    (t.tryTurn k).SucceedsFrom w := by
  induction t generalizing w with
  | done result =>
    cases result with
    | error e => exact absurd h (not_done_error e)
    | ok b => exact pause_iff.mpr (hk _ fun _ => done b)
  | act change next ih => exact fun others => ih w h others
  | pause next => exact pause_iff.mpr (hk next (pause_iff.mp h))

/-- Two tasks side by side: where one of them pauses, the other one is among the others. -/
theorem tryBoth {t : Task W (Except ε α)} {t' : Task W (Except ε β)} (h : t.SucceedsFrom w)
    (h' : ∀ w', t'.SucceedsFrom w') : (t.tryBoth t').SucceedsFrom w := by
  induction t generalizing w t' with
  | done result =>
    cases result with
    | error e => exact absurd h (not_done_error e)
    | ok a => exact (h' w).map (a, ·)
  | act change next ih => exact fun others => ih w h h' others
  | pause next ih => exact (h' w).tryTurn fun t'' h'' w' => ih (pause_iff.mp h w') h''

theorem tryRounds {tasks : List (Task W (Except ε α))}
    (h : ∀ t ∈ tasks, ∀ w, t.SucceedsFrom w) (w : W) : (Task.tryRounds tasks).SucceedsFrom w := by
  induction tasks generalizing w with
  | nil => exact done []
  | cons t rest ih =>
    obtain ⟨hfirst, hrest⟩ := List.forall_mem_cons.mp h
    exact ((hfirst w).tryBoth (ih hrest)).map _

/-- What is left of a task at its first pause meets any world there. -/
theorem step {t : Task W (Except ε α)} (h : t.SucceedsFrom w) (others : List (W → W)) :
    ∀ w', (t.step.amid others w).value.SucceedsFrom w' := by
  induction t generalizing w with
  | done result =>
    cases result with
    | error e => exact absurd h (not_done_error e)
    | ok a => exact fun _ => done a
  | act change next ih => exact ih w h
  | pause next ih => cases others <;> exact pause_iff.mp h

theorem stepAll {tasks : List (Task W (Except ε α))} (h : ∀ t ∈ tasks, ∀ w, t.SucceedsFrom w)
    (others : List (W → W)) (w : W) :
    ∀ t ∈ ((Task.stepAll tasks).amid others w).value, ∀ w, t.SucceedsFrom w := by
  induction tasks generalizing others w with
  | nil => exact List.forall_mem_nil _
  | cons t rest ih =>
    obtain ⟨hfirst, hrest⟩ := List.forall_mem_cons.mp h
    rw [Task.stepAll, amid_bind, amid_map]
    exact List.forall_mem_cons.mpr ⟨(hfirst w).step others, ih hrest _ _⟩

theorem lead {t : Task W (Except ε α)} {rest : List (Task W (Except ε α))} (h : t.SucceedsFrom w)
    (hrest : ∀ t ∈ rest, ∀ w, t.SucceedsFrom w) (others : List (W → W)) :
    ∃ a rest', ((t.lead rest).amid others w).value = .ok (a, rest') ∧
      ∀ t ∈ rest', ∀ w, t.SucceedsFrom w := by
  induction t generalizing w rest others with
  | done result =>
    cases result with
    | error e => exact absurd h (not_done_error e)
    | ok a => exact ⟨a, rest, rfl, hrest⟩
  | act change next ih => exact ih w h hrest others
  | pause next ih =>
    have hpaused : ∀ others w, ∃ a rest',
        (((Task.stepAll rest).bind next.lead).amid others w).value = .ok (a, rest') ∧
          ∀ t ∈ rest', ∀ w, t.SucceedsFrom w := by
      intro others w'
      rw [amid_bind]
      exact ih (pause_iff.mp h _) (stepAll hrest others w') _
    cases others with
    | nil => exact hpaused [] w
    | cons f others => exact hpaused others (f w)

theorem tryInOrder {tasks : List (Task W (Except ε α))} (h : ∀ t ∈ tasks, ∀ w, t.SucceedsFrom w)
    (n : Nat) (w : W) : (Task.tryInOrder n tasks).SucceedsFrom w := by
  induction n generalizing tasks w with
  | zero => exact done []
  | succ n ih =>
    cases tasks with
    | nil => exact done []
    | cons t rest =>
      obtain ⟨hfirst, hrest⟩ := List.forall_mem_cons.mp h
      intro others
      obtain ⟨a, rest', hvalue, hleft⟩ := (hfirst w).lead hrest others
      rw [Task.tryInOrder, amid_bind, hvalue]
      exact (ih hleft _).map (a :: ·) _

theorem tryAll {tasks : List (Task W (Except ε α))}
    (h : ∀ t ∈ tasks, ∀ w, t.SucceedsFrom w) (w : W) : (Task.tryAll tasks).SucceedsFrom w := by
  rw [Task.tryAll]
  split
  · exact tryRounds h w
  · exact tryInOrder h _ w

end SucceedsFrom

end Task

/-! ### Registries made of definitions -/

variable {K : Type} {V : K → Type} {W H : Type} {providers : Bag K V} {hooks : HookRegistry W H}
  {definitions : List (Definition K V W H)}

/-- What a batch of flows is made of. -/
theorem Definition.value_instantiateAll_eq_ok_iff {others : List (W → W)} {w : W}
    {flows : List (Instance K V W H)} :
    ((instantiateAll providers hooks definitions).amid others w).value = .ok flows ↔
      ∃ candidates, List.Forall₂
          (fun definition candidate => definition.instantiate providers hooks = .ok candidate)
          definitions candidates ∧
        (∃ results, ((Task.tryAll (candidates.map Candidate.ready)).amid others w).value =
          .ok results) ∧
        flows = candidates.map Candidate.inst := by
  simp only [← mapM_eq_ok_iff]
  rw [instantiateAll]
  cases definitions.mapM (instantiate providers hooks) with
  | error fault => simp
  | ok candidates =>
    simp only [Task.amid_map, Except.ok.injEq, exists_eq_left']
    cases ((Task.tryAll (candidates.map Candidate.ready)).amid others w).value <;>
      simp [Except.map, eq_comm]

namespace FlowRegistry

/-- A registry is made of one batch. -/
theorem value_make_eq_ok_iff_flows {others : List (W → W)} {w : W}
    {registry : FlowRegistry K V W H} :
    ((make providers hooks definitions).amid others w).value = .ok registry ↔
      ∃ flows, ((Definition.instantiateAll providers hooks definitions).amid others w).value =
        .ok flows ∧ registry = empty.putAll flows := by
  rw [make, Task.amid_map]
  cases ((Definition.instantiateAll providers hooks definitions).amid others w).value <;>
    simp [Except.map, eq_comm]

/-- What a registry of flows is made of. -/
theorem value_make_eq_ok_iff {others : List (W → W)} {w : W} {registry : FlowRegistry K V W H} :
    ((make providers hooks definitions).amid others w).value = .ok registry ↔
      ∃ candidates, List.Forall₂
          (fun definition candidate => definition.instantiate providers hooks = .ok candidate)
          definitions candidates ∧
        (∃ results, ((Task.tryAll (candidates.map Candidate.ready)).amid others w).value =
          .ok results) ∧
        registry = empty.putAll (candidates.map Candidate.inst) := by
  rw [value_make_eq_ok_iff_flows]
  simp only [Definition.value_instantiateAll_eq_ok_iff]
  constructor
  · rintro ⟨_, ⟨candidates, hcandidates, hready, rfl⟩, hregistry⟩
    exact ⟨candidates, hcandidates, hready, hregistry⟩
  · rintro ⟨candidates, hcandidates, hready, hregistry⟩
    exact ⟨_, ⟨candidates, hcandidates, hready, rfl⟩, hregistry⟩

theorem lists_of_make {others : List (W → W)} {w : W} {registry : FlowRegistry K V W H}
    (hchecked : Definition.checkAll [] definitions = .ok ())
    (h : ((make providers hooks definitions).amid others w).value = .ok registry) :
    registry.Lists definitions := by
  obtain ⟨candidates, hcandidates, -, rfl⟩ := value_make_eq_ok_iff.mp h
  have hall := made_of_mapM hchecked ((mapM_eq_ok_iff _ _ _).mpr hcandidates)
  have hlists := Lists.empty.putAll hall.allowed (hall.name_eq ▸ hall.nodup) fun _ _ =>
    List.not_mem_nil
  rwa [hall.definition_eq, List.nil_append] at hlists

theorem value_boot_eq_ok_iff [DecidableEq K] [Named K] {others : List (W → W)} {w : W}
    {registry : FlowRegistry K V W H} :
    ((boot providers hooks definitions).amid others w).value = .ok registry ↔
      (Definition.checkAll [] definitions = .ok () ∧
        Definition.checkDependencies providers definitions = .ok ()) ∧
      ((make providers hooks definitions).amid others w).value = .ok registry := by
  unfold boot
  cases Definition.checkAll [] definitions with
  | error fault => exact ⟨nofun, nofun⟩
  | ok =>
    simp only [bind, Except.bind]
    cases Definition.checkDependencies providers definitions with
    | error fault => exact ⟨nofun, nofun⟩
    | ok => exact ⟨fun h => ⟨⟨trivial, rfl⟩, h⟩, And.right⟩

theorem ordered_putAll (registry : FlowRegistry K V W H) {flows : List (Instance K V W H)}
    (hnodup : (flows.map Instance.name).Nodup)
    (hnew : ∀ inst ∈ flows, inst.name ∉ registry.names) :
    (registry.putAll flows).ordered = registry.ordered ++ flows := by
  induction flows generalizing registry with
  | nil => exact (List.append_nil _).symm
  | cons inst rest ih =>
    obtain ⟨hfresh, hnew⟩ := List.forall_mem_cons.mp hnew
    obtain ⟨hne, hnodup⟩ := List.nodup_cons.mp hnodup
    rw [List.append_cons, ← ordered_put hfresh]
    refine ih (registry.put inst) hnodup fun other hother => ?_
    have hname : other.name ≠ inst.name := fun heq => hne (heq ▸ List.mem_map_of_mem hother)
    exact List.not_mem_append (hnew other hother) (mt List.mem_singleton.mp hname)

end FlowRegistry

/-- A flow can be made of the providers: its own handlers are on stages of its kind, and its check
succeeds, whatever others do meanwhile. -/
def Definition.Starts (providers : Bag K V) (definition : Definition K V W H) : Prop :=
  ∃ prepared, definition.prepare providers = .ok prepared ∧
    (∀ hook ∈ prepared.table, definition.token.kind.allows hook.stage = true) ∧
    ∀ w, prepared.ready.SucceedsFrom w

structure Instance.MadeFrom (providers : Bag K V) (hooks : HookRegistry W H)
    (definition : Definition K V W H) (inst : Instance K V W H) : Prop where
  definition_eq : inst.definition = definition
  bindings_eq : ∃ prepared, definition.prepare providers = .ok prepared ∧
    inst.hooks.bindings = prepared.table ++ hooks.hooksFor definition.name

theorem Definition.Starts.exists_instantiate_eq {definition : Definition K V W H}
    (h : definition.Starts providers) (hhooks : ∀ hook ∈ hooks.hooksFor definition.name,
      definition.token.kind.allows hook.stage = true) :
    ∃ candidate, definition.instantiate providers hooks = .ok candidate ∧
      candidate.inst.MadeFrom providers hooks definition ∧
      ∀ w, candidate.ready.SucceedsFrom w := by
  obtain ⟨prepared, hprepare, htable, hready⟩ := h
  have hbuild := HookMap.build_eq_ok htable hhooks
  refine ⟨_, instantiate_eq_ok_iff.mpr ⟨prepared, _, hprepare, hbuild, rfl⟩,
    ⟨rfl, prepared, hprepare, rfl⟩, fun w others => ?_⟩
  obtain ⟨result, hresult⟩ := hready w others
  refine ⟨result, ?_⟩
  rw [Task.amid_map, hresult]
  rfl

structure FlowRegistry.MadeFrom (providers : Bag K V) (hooks : HookRegistry W H)
    (definitions : List (Definition K V W H)) (registry : FlowRegistry K V W H) : Prop where
  names_eq : registry.names = definitions.map Definition.name
  get?_eq : ∀ definition ∈ definitions, ∃ inst, registry.get? definition.name = some inst ∧
    inst.MadeFrom providers hooks definition

def Definition.Met [DecidableEq K] (providers : Bag K V) (definition : Definition K V W H) : Prop :=
  ∀ key ∈ definition.dependencies, providers.contains key = true

theorem Definition.firstMissing?_eq_none_iff [DecidableEq K] (definition : Definition K V W H) :
    providers.firstMissing? definition.dependencies = none ↔ definition.Met providers := by
  rw [Bag.firstMissing?, List.find?_eq_none, Met]
  simp only [Bool.not_eq_true', Bool.not_eq_false]

/-- Dependencies pass if the providers have them all. -/
theorem Definition.checkDependencies_eq_ok_iff [DecidableEq K] [Named K] :
    checkDependencies providers definitions = .ok () ↔
      ∀ definition ∈ definitions, definition.Met providers := by
  induction definitions with
  | nil => exact ⟨fun _ => List.forall_mem_nil _, fun _ => rfl⟩
  | cons first rest ih =>
    rw [checkDependencies, List.forall_mem_cons, ← firstMissing?_eq_none_iff]
    cases providers.firstMissing? first.dependencies with
    | some key => simp
    | none => simp [ih]

/-- Flows that can be made are all there when their registry is made. -/
theorem FlowRegistry.exists_madeFrom
    (hchecked : Definition.checkAll [] definitions = .ok ())
    (hstarts : ∀ definition ∈ definitions, definition.Starts providers)
    (hhooks : ∀ definition ∈ definitions, ∀ hook ∈ hooks.hooksFor definition.name,
      definition.token.kind.allows hook.stage = true) (others : List (W → W)) (w : W) :
    ∃ registry, ((make providers hooks definitions).amid others w).value = .ok registry ∧
      registry.MadeFrom providers hooks definitions := by
  obtain ⟨candidates, hcandidates, hready, hmade⟩ : ∃ candidates, List.Forall₂
        (fun definition candidate => definition.instantiate providers hooks = .ok candidate)
        definitions candidates ∧
      (∀ ready ∈ candidates.map Candidate.ready, ∀ w, ready.SucceedsFrom w) ∧
      ∀ definition ∈ definitions, ∃ inst ∈ candidates.map Candidate.inst,
        inst.MadeFrom providers hooks definition := by
    clear hchecked
    induction definitions with
    | nil => exact ⟨[], .nil, List.forall_mem_nil _, List.forall_mem_nil _⟩
    | cons definition rest ih =>
      obtain ⟨hfirst, hrest⟩ := List.forall_mem_cons.mp hstarts
      obtain ⟨hfirstHooks, hrestHooks⟩ := List.forall_mem_cons.mp hhooks
      obtain ⟨candidate, hcandidate, hinst, hready⟩ := hfirst.exists_instantiate_eq hfirstHooks
      obtain ⟨candidates, hcandidates, hreadies, hinsts⟩ := ih hrest hrestHooks
      refine ⟨candidate :: candidates, .cons hcandidate hcandidates,
        List.forall_mem_cons.mpr ⟨hready, hreadies⟩, List.forall_mem_cons.mpr
          ⟨⟨candidate.inst, List.mem_cons_self, hinst⟩, fun other hother => ?_⟩⟩
      obtain ⟨inst, hmem, hmade⟩ := hinsts other hother
      exact ⟨inst, List.mem_cons_of_mem _ hmem, hmade⟩
  obtain ⟨results, hresults⟩ := Task.SucceedsFrom.tryAll hready w others
  have hvalue : ((make providers hooks definitions).amid others w).value =
      .ok (empty.putAll (candidates.map Candidate.inst)) :=
    value_make_eq_ok_iff.mpr ⟨candidates, hcandidates, ⟨results, hresults⟩, rfl⟩
  have hlists := lists_of_make hchecked hvalue
  have hall := made_of_mapM hchecked ((mapM_eq_ok_iff _ _ _).mpr hcandidates)
  have hordered : (empty.putAll (candidates.map Candidate.inst)).ordered =
      candidates.map Candidate.inst :=
    ordered_putAll empty (hall.name_eq ▸ hall.nodup) fun _ _ => List.not_mem_nil
  refine ⟨_, hvalue, hlists.names_eq, fun definition hdefinition => ?_⟩
  obtain ⟨inst, hmem, hinst⟩ := hmade definition hdefinition
  refine ⟨inst, (hlists.get?_eq_some_iff _ _).mpr ⟨hordered.symm ▸ hmem, ?_⟩, hinst⟩
  rw [Instance.name, hinst.definition_eq]
  rfl

end StagedFlow
