import StagedFlow.Proofs.Booting
import StagedFlow.Proofs.HookOrder
import StagedFlow.Proofs.Verdicts

/-!
# Which fault a boot reports

A registry is made in four passes. The first one goes through the names, plans and stages of all
definitions, the second one through their dependencies; then the flows are made one by one, and in
the end they all pass their checks side by side. A fault of an earlier pass hides all faults of
later ones, even those of definitions that come first. Within a pass the first definition with a
fault counts, and within a definition its first fault.

Only the last pass depends on the world. What it comes to in a run is told by the verdicts that the
checks write in this run.
-/

namespace StagedFlow

variable {K : Type} {V : K → Type} {W H : Type}

theorem HookMap.build_eq_error_iff (token : FlowToken) (own others : List (HookBinding H))
    (fault : RegistrationFault) :
    build token own others = .error fault ↔
      ∃ hook, IsFirst (fun hook => token.kind.allows hook.stage = false) (own ++ others) hook ∧
        fault = .notAllowed token hook.stage := by
  have hfind : ∀ hook,
      (own ++ others).find? (fun hook => !token.kind.allows hook.stage) = some hook ↔
        IsFirst (fun hook => token.kind.allows hook.stage = false) (own ++ others) hook := by
    intro hook
    rw [IsFirst.find?_eq_some_iff]
    simp only [Bool.not_eq_true']
  simp only [build, ← hfind]
  cases (own ++ others).find? fun hook => !token.kind.allows hook.stage with
  | some hook => simp [eq_comm]
  | none => simp

namespace Definition

structure Sound (definitions : List (Definition K V W H)) : Prop where
  nodup : (definitions.map name).Nodup
  checked : ∀ definition ∈ definitions, definition.Checked

/-- What is wrong with a definition, where certain names are taken: its name, or else its plan, or
else the first stage that its kind does not allow. -/
inductive Wrong (taken : List String) (definition : Definition K V W H) :
    RegistrationFault → Prop where
  | name (hname : definition.name ∈ taken) :
      Wrong taken definition (.duplicateFlow definition.name)
  | plan {fault : PlanFault} (hname : definition.name ∉ taken)
      (hplan : definition.plan.validate = .error fault) :
      Wrong taken definition (.invalidPlan definition.name fault)
  | stage {stage : Stage} (hname : definition.name ∉ taken)
      (hplan : definition.plan.validate = .ok ())
      (hfirst : IsFirst (fun stage => definition.token.kind.allows stage = false)
        definition.plan.stages stage) :
      Wrong taken definition (.notAllowed definition.token stage)

theorem checkAll_nil_eq_ok_iff (definitions : List (Definition K V W H)) :
    checkAll [] definitions = .ok () ↔ Sound definitions := by
  rw [checkAll_eq_ok_iff]
  exact ⟨fun ⟨hall, hnodup⟩ => ⟨hnodup, fun definition hmem => (hall definition hmem).2⟩,
    fun h => ⟨fun definition hmem => ⟨List.not_mem_nil, h.checked definition hmem⟩, h.nodup⟩⟩

theorem firstDisallowed?_eq_some_iff (kind : FlowKind) (plan : Plan) (stage : Stage) :
    kind.firstDisallowed? plan = some stage ↔
      IsFirst (fun stage => kind.allows stage = false) plan.stages stage := by
  rw [FlowKind.firstDisallowed?, IsFirst.find?_eq_some_iff]
  simp only [Bool.not_eq_true']

section CheckAll

variable {taken : List String} {definition : Definition K V W H} {fault : RegistrationFault}

theorem Wrong.checkAll_cons_eq (h : definition.Wrong taken fault)
    (rest : List (Definition K V W H)) : checkAll taken (definition :: rest) = .error fault := by
  rw [checkAll]
  cases h with
  | name hname =>
    rw [if_pos (List.contains_iff_mem.mpr hname)]
    rfl
  | plan hname hplan =>
    rw [if_neg (mt List.contains_iff_mem.mp hname), hplan]
    rfl
  | stage hname hplan hfirst =>
    rw [if_neg (mt List.contains_iff_mem.mp hname), hplan,
      (firstDisallowed?_eq_some_iff _ _ _).mpr hfirst]
    rfl

theorem Checked.checkAll_cons_eq (h : definition.Checked) (hname : definition.name ∉ taken)
    (rest : List (Definition K V W H)) :
    checkAll taken (definition :: rest) = checkAll (taken ++ [definition.name]) rest := by
  rw [checkAll, if_neg (mt List.contains_iff_mem.mp hname), h.plan,
    (FlowKind.firstDisallowed?_eq_none_iff _ _).mpr h.stages]

theorem wrong_or_checked (taken : List String) (definition : Definition K V W H) :
    (∃ fault, definition.Wrong taken fault) ∨ definition.name ∉ taken ∧ definition.Checked := by
  by_cases hname : definition.name ∈ taken
  · exact .inl ⟨_, .name hname⟩
  cases hplan : definition.plan.validate with
  | error fault => exact .inl ⟨_, .plan hname hplan⟩
  | ok =>
    cases hkind : definition.token.kind.firstDisallowed? definition.plan with
    | some stage =>
      exact .inl ⟨_, .stage hname hplan ((firstDisallowed?_eq_some_iff _ _ _).mp hkind)⟩
    | none =>
      exact .inr ⟨hname, hplan, (FlowKind.firstDisallowed?_eq_none_iff _ _).mp hkind⟩

theorem checkAll_cons_eq_error_iff (rest : List (Definition K V W H)) :
    checkAll taken (definition :: rest) = .error fault ↔
      definition.Wrong taken fault ∨ (definition.name ∉ taken ∧ definition.Checked) ∧
        checkAll (taken ++ [definition.name]) rest = .error fault := by
  constructor
  · intro h
    rcases wrong_or_checked taken definition with ⟨other, hwrong⟩ | ⟨hname, hchecked⟩
    · cases (hwrong.checkAll_cons_eq rest).symm.trans h
      exact .inl hwrong
    · exact .inr ⟨⟨hname, hchecked⟩, (hchecked.checkAll_cons_eq hname rest).symm.trans h⟩
  · rintro (hwrong | ⟨⟨hname, hchecked⟩, hrest⟩)
    · exact hwrong.checkAll_cons_eq rest
    · exact (hchecked.checkAll_cons_eq hname rest).trans hrest

/-- The checks of names, plans and stages fail with what is wrong with the first definition that
does not go with those before it. -/
theorem checkAll_eq_error_iff (taken : List String) (definitions : List (Definition K V W H))
    (fault : RegistrationFault) :
    checkAll taken definitions = .error fault ↔
      ∃ before definition after, definitions = before ++ definition :: after ∧
        checkAll taken before = .ok () ∧ definition.Wrong (taken ++ before.map name) fault := by
  induction definitions generalizing taken with
  | nil => simp [checkAll]
  | cons first rest ih =>
    rw [checkAll_cons_eq_error_iff, ih, exists_cons_eq_append]
    simp only [checkAll_cons_eq_ok_iff, List.map_nil, List.append_nil, List.map_cons,
      ← List.append_cons]
    refine or_congr (by simp [checkAll]) ?_
    constructor
    · rintro ⟨⟨hname, hchecked⟩, before, definition, after, hsplit, hbefore, hwrong⟩
      exact ⟨before, definition, after, hsplit, ⟨hname, hchecked, hbefore⟩, hwrong⟩
    · rintro ⟨before, definition, after, hsplit, ⟨hname, hchecked, hbefore⟩, hwrong⟩
      exact ⟨⟨hname, hchecked⟩, before, definition, after, hsplit, hbefore, hwrong⟩

end CheckAll

section Providers

variable {providers : Bag K V} {hooks : HookRegistry W H} {definitions : List (Definition K V W H)}

theorem firstMissing?_eq_some_iff [DecidableEq K] (keys : List K) (key : K) :
    providers.firstMissing? keys = some key ↔
      IsFirst (fun key => providers.contains key = false) keys key := by
  rw [Bag.firstMissing?, IsFirst.find?_eq_some_iff]
  simp only [Bool.not_eq_true']

/-- The dependencies are refused with the first one that is missing, of the first definition that
lacks any. -/
theorem checkDependencies_eq_error_iff [DecidableEq K] [Named K] (fault : RegistrationFault) :
    checkDependencies providers definitions = .error fault ↔
      ∃ definition key, IsFirst (fun definition => ¬ definition.Met providers) definitions
          definition ∧
        IsFirst (fun key => providers.contains key = false) definition.dependencies key ∧
        fault = .missingDependency definition.name (Named.typeName key) := by
  induction definitions with
  | nil => exact ⟨nofun, fun ⟨_, _, hfirst, _⟩ => absurd hfirst IsFirst.not_nil⟩
  | cons first rest ih =>
    rw [checkDependencies]
    simp only [IsFirst.cons_iff]
    cases hmissing : providers.firstMissing? first.dependencies with
    | some key =>
      have hkey := (firstMissing?_eq_some_iff _ _).mp hmissing
      have hunmet : ¬ first.Met providers := fun hmet =>
        Bool.false_ne_true (hkey.holds.symm.trans (hmet key hkey.mem))
      constructor
      · intro h
        cases h
        exact ⟨first, key, .inl ⟨hunmet, rfl⟩, hkey, rfl⟩
      · rintro ⟨definition, other, ⟨-, rfl⟩ | ⟨hmet, -⟩, hother, rfl⟩
        · cases hmissing.symm.trans ((firstMissing?_eq_some_iff _ _).mpr hother)
          rfl
        · exact absurd hunmet hmet
    | none =>
      have hmet := (firstMissing?_eq_none_iff first).mp hmissing
      rw [ih]
      simp only [hmet, not_true_eq_false, false_and, not_false_eq_true, true_and, false_or]

def Makes (providers : Bag K V) (hooks : HookRegistry W H) (definition : Definition K V W H) :
    Prop :=
  ∃ prepared, definition.prepare providers = .ok prepared ∧
    ∀ hook ∈ prepared.table ++ hooks.hooksFor definition.name,
      definition.token.kind.allows hook.stage = true

/-- Why no flow can be made of a definition: it is not created, or else its kind does not allow the
stage of a hook, the first such one of its own and then of others. -/
inductive Spoilt (providers : Bag K V) (hooks : HookRegistry W H)
    (definition : Definition K V W H) : RegistrationFault → Prop where
  | create {fault : FlowFault} (hprepare : definition.prepare providers = .error fault) :
      Spoilt providers hooks definition (.initialization definition.name fault.message)
  | hook {prepared : PreparedFlow W H} {hook : HookBinding H}
      (hprepare : definition.prepare providers = .ok prepared)
      (hfirst : IsFirst (fun hook => definition.token.kind.allows hook.stage = false)
        (prepared.table ++ hooks.hooksFor definition.name) hook) :
      Spoilt providers hooks definition (.notAllowed definition.token hook.stage)

theorem exists_instantiate_eq_ok_iff (definition : Definition K V W H) :
    (∃ candidate, definition.instantiate providers hooks = .ok candidate) ↔
      definition.Makes providers hooks := by
  constructor
  · rintro ⟨candidate, hcandidate⟩
    obtain ⟨prepared, map, hprepare, hbuild, -⟩ := instantiate_eq_ok_iff.mp hcandidate
    refine ⟨prepared, hprepare, ?_⟩
    exact HookMap.bindings_of_build hbuild ▸ HookMap.allows_of_build hbuild
  · rintro ⟨prepared, hprepare, hhooks⟩
    obtain ⟨hown, hothers⟩ := List.forall_mem_append.mp hhooks
    exact ⟨_, instantiate_eq_ok_iff.mpr
      ⟨prepared, _, hprepare, HookMap.build_eq_ok hown hothers, rfl⟩⟩

theorem Spoilt.instantiate_eq {definition : Definition K V W H} {fault : RegistrationFault}
    (h : definition.Spoilt providers hooks fault) :
    definition.instantiate providers hooks = .error fault := by
  rw [instantiate]
  cases h with
  | create hprepare =>
    rw [hprepare]
    rfl
  | hook hprepare hfirst =>
    rw [hprepare]
    change (HookMap.build _ _ _).bind _ = _
    rw [(HookMap.build_eq_error_iff _ _ _ _).mpr ⟨_, hfirst, rfl⟩]
    rfl

/-- No flow is made of a definition exactly if it is spoilt. -/
theorem instantiate_eq_error_iff (definition : Definition K V W H) (fault : RegistrationFault) :
    definition.instantiate providers hooks = .error fault ↔
      definition.Spoilt providers hooks fault := by
  refine ⟨fun h => ?_, Spoilt.instantiate_eq⟩
  have hspoilt : ∃ other, definition.Spoilt providers hooks other := by
    cases hprepare : definition.prepare providers with
    | error flowFault => exact ⟨_, .create hprepare⟩
    | ok prepared =>
      cases hbuild : HookMap.build definition.token prepared.table
          (hooks.hooksFor definition.name) with
      | error buildFault =>
        obtain ⟨hook, hfirst, -⟩ := (HookMap.build_eq_error_iff _ _ _ _).mp hbuild
        exact ⟨_, .hook hprepare hfirst⟩
      | ok map =>
        cases h.symm.trans (instantiate_eq_ok_iff.mpr ⟨prepared, map, hprepare, hbuild, rfl⟩)
  obtain ⟨other, hother⟩ := hspoilt
  cases h.symm.trans hother.instantiate_eq
  exact hother

def raised (name : String) (fault : FlowFault) : RegistrationFault :=
  .initialization name fault.message

def readiness (providers : Bag K V) (definitions : List (Definition K V W H)) :
    List (String × Task W (Except FlowFault Unit)) :=
  definitions.filterMap fun definition =>
    (definition.prepare providers).toOption.map fun prepared => (definition.name, prepared.ready)

/-- What the checks of the flows come to in a run, in the order in which they end. -/
def verdicts (providers : Bag K V) (definitions : List (Definition K V W H))
    (others : List (W → W)) (w : W) : Task.Verdicts String FlowFault :=
  let checks := (readiness providers definitions).map fun check => check.2.telling raised check.1
  ((Task.tryAll checks).amid (others.map (Prod.map · id)) (w, [])).world.2

theorem readiness_of_instantiate {candidates : List (Candidate K V W H)}
    (h : List.Forall₂ (fun definition candidate =>
      definition.instantiate providers hooks = .ok candidate) definitions candidates) :
    (readiness providers definitions).map Prod.fst = definitions.map name ∧
      (readiness providers definitions).map (fun check => check.2.map fun verdict =>
        verdict.mapError (raised check.1)) = candidates.map Candidate.ready := by
  induction h with
  | nil => exact ⟨rfl, rfl⟩
  | cons hfirst _ ih =>
    obtain ⟨prepared, map, hprepare, -, rfl⟩ := instantiate_eq_ok_iff.mp hfirst
    rw [readiness, List.filterMap_cons_some (by rw [hprepare]; rfl), ← readiness]
    obtain ⟨hnames, hready⟩ := ih
    rw [List.map_cons, List.map_cons, List.map_cons, List.map_cons, hnames, hready]
    exact ⟨rfl, rfl⟩

/-- The verdicts decide on the checks with which a batch of flows is made. -/
theorem decides_verdicts {candidates : List (Candidate K V W H)}
    (hnodup : (definitions.map name).Nodup)
    (h : List.Forall₂ (fun definition candidate =>
      definition.instantiate providers hooks = .ok candidate) definitions candidates)
    (others : List (W → W)) (w : W) :
    Task.Decides raised (definitions.map name)
      ((Task.tryAll (candidates.map Candidate.ready)).amid others w).value
      (verdicts providers definitions others w) := by
  obtain ⟨hnames, hready⟩ := readiness_of_instantiate h
  rw [← hnames] at hnodup
  obtain ⟨added, hrun, hdecides⟩ := Task.exists_decides raised hnodup others w []
  rw [hnames, hready] at hdecides
  rw [verdicts, hrun, hready]
  exact hdecides

/-! ### All passes -/

/-- The definitions from which a registry is made in a run in which their checks come to these
verdicts. -/
structure Accepted [DecidableEq K] (providers : Bag K V) (hooks : HookRegistry W H)
    (definitions : List (Definition K V W H)) (verdicts : Task.Verdicts String FlowFault) :
    Prop where
  sound : Sound definitions
  met : ∀ definition ∈ definitions, definition.Met providers
  makes : ∀ definition ∈ definitions, definition.Makes providers hooks
  /-- Every check ends well. -/
  ready : verdicts.Perm (Task.Verdicts.good (definitions.map name))

/-- The fault with which definitions are refused in a run in which their checks come to these
verdicts. A pass counts if all definitions come through the passes before it. -/
inductive Refused [DecidableEq K] [Named K] (providers : Bag K V) (hooks : HookRegistry W H)
    (definitions : List (Definition K V W H)) (verdicts : Task.Verdicts String FlowFault) :
    RegistrationFault → Prop where
  | wrong {before after : List (Definition K V W H)} {definition : Definition K V W H}
      {fault : RegistrationFault} (hsplit : definitions = before ++ definition :: after)
      (hbefore : Sound before) (hwrong : definition.Wrong (before.map name) fault) :
      Refused providers hooks definitions verdicts fault
  | unmet {definition : Definition K V W H} {key : K} (hsound : Sound definitions)
      (hfirst : IsFirst (fun definition => ¬ definition.Met providers) definitions definition)
      (hkey : IsFirst (fun key => providers.contains key = false) definition.dependencies key) :
      Refused providers hooks definitions verdicts
        (.missingDependency definition.name (Named.typeName key))
  | spoilt {definition : Definition K V W H} {fault : RegistrationFault}
      (hsound : Sound definitions) (hmet : ∀ definition ∈ definitions, definition.Met providers)
      (hfirst : IsFirst (fun definition => ¬ definition.Makes providers hooks) definitions
        definition)
      (hspoilt : definition.Spoilt providers hooks fault) :
      Refused providers hooks definitions verdicts fault
  | unready {name : String} {fault : FlowFault} (hsound : Sound definitions)
      (hmet : ∀ definition ∈ definitions, definition.Met providers)
      (hmakes : ∀ definition ∈ definitions, definition.Makes providers hooks)
      (hdecisive : Task.Decisive (definitions.map Definition.name) verdicts name fault) :
      Refused providers hooks definitions verdicts (.initialization name fault.message)

theorem exists_spoilt_iff (definition : Definition K V W H) :
    (∃ fault, definition.Spoilt providers hooks fault) ↔ ¬ definition.Makes providers hooks := by
  simp only [← instantiate_eq_error_iff, ← exists_instantiate_eq_ok_iff]
  cases definition.instantiate providers hooks <;> simp

theorem mapM_instantiate_eq_error_iff (fault : RegistrationFault) :
    definitions.mapM (instantiate providers hooks) = .error fault ↔
      ∃ definition, IsFirst (fun definition => ¬ definition.Makes providers hooks) definitions
          definition ∧
        definition.Spoilt providers hooks fault := by
  simp only [mapM_eq_error_iff, instantiate_eq_error_iff, exists_spoilt_iff]

theorem forall_makes_iff :
    (∀ definition ∈ definitions, definition.Makes providers hooks) ↔
      ∃ candidates, List.Forall₂ (fun definition candidate =>
        definition.instantiate providers hooks = .ok candidate) definitions candidates := by
  simp only [← exists_instantiate_eq_ok_iff]
  refine ⟨exists_mapM_eq_ok, fun ⟨candidates, hcandidates⟩ definition hmem => ?_⟩
  obtain ⟨i, hi, rfl⟩ := List.getElem_of_mem hmem
  exact ⟨_, hcandidates.get hi (hcandidates.length_eq ▸ hi)⟩

end Providers

end Definition

namespace FlowRegistry

variable {providers : Bag K V} {hooks : HookRegistry W H} {definitions : List (Definition K V W H)}
  {others : List (W → W)} {w : W}

/-- Flows are not made, or their checks fail. -/
theorem value_make_eq_error_iff {fault : RegistrationFault} :
    ((make providers hooks definitions).amid others w).value = .error fault ↔
      definitions.mapM (Definition.instantiate providers hooks) = .error fault ∨
        ∃ candidates, List.Forall₂ (fun definition candidate =>
            definition.instantiate providers hooks = .ok candidate) definitions candidates ∧
          ((Task.tryAll (candidates.map Candidate.ready)).amid others w).value = .error fault := by
  simp only [← mapM_eq_ok_iff]
  rw [make, Task.amid_map, Definition.instantiateAll]
  cases definitions.mapM (Definition.instantiate providers hooks) with
  | error other => simp [Except.map]
  | ok candidates =>
    simp only [Task.amid_map]
    cases hready : ((Task.tryAll (candidates.map Candidate.ready)).amid others w).value <;>
      simp [Except.map, hready]

theorem value_boot_eq_error_iff [DecidableEq K] [Named K] {fault : RegistrationFault} :
    ((boot providers hooks definitions).amid others w).value = .error fault ↔
      Definition.checkAll [] definitions = .error fault ∨
        Definition.checkAll [] definitions = .ok () ∧
          (Definition.checkDependencies providers definitions = .error fault ∨
            Definition.checkDependencies providers definitions = .ok () ∧
              ((make providers hooks definitions).amid others w).value = .error fault) := by
  unfold boot
  cases Definition.checkAll [] definitions with
  | error other => simp [bind, Except.bind]
  | ok =>
    cases Definition.checkDependencies providers definitions <;> simp [bind, Except.bind]

end FlowRegistry

section Boot

variable [DecidableEq K] [Named K] (providers : Bag K V) (hooks : HookRegistry W H)
  (definitions : List (Definition K V W H)) (others : List (W → W)) (w : W)

theorem exists_value_boot_eq_ok_iff :
    (∃ registry, ((FlowRegistry.boot providers hooks definitions).amid others w).value =
        .ok registry) ↔
      Definition.Accepted providers hooks definitions
        (Definition.verdicts providers definitions others w) := by
  constructor
  · rintro ⟨registry, hregistry⟩
    obtain ⟨⟨hchecked, hmet⟩, hmade⟩ := FlowRegistry.value_boot_eq_ok_iff.mp hregistry
    obtain ⟨candidates, hcandidates, hready, -⟩ := FlowRegistry.value_make_eq_ok_iff.mp hmade
    have hsound := (Definition.checkAll_nil_eq_ok_iff _).mp hchecked
    exact ⟨hsound, Definition.checkDependencies_eq_ok_iff.mp hmet,
      Definition.forall_makes_iff.mpr ⟨candidates, hcandidates⟩,
      (Definition.decides_verdicts hsound.nodup hcandidates others w).ok_iff.mp hready⟩
  · intro h
    obtain ⟨candidates, hcandidates⟩ := Definition.forall_makes_iff.mp h.makes
    have hready :=
      (Definition.decides_verdicts h.sound.nodup hcandidates others w).ok_iff.mpr h.ready
    exact ⟨_, FlowRegistry.value_boot_eq_ok_iff.mpr
      ⟨⟨(Definition.checkAll_nil_eq_ok_iff _).mpr h.sound,
        Definition.checkDependencies_eq_ok_iff.mpr h.met⟩,
      FlowRegistry.value_make_eq_ok_iff.mpr ⟨candidates, hcandidates, hready, rfl⟩⟩⟩

theorem value_boot_eq_error_iff_refused (fault : RegistrationFault) :
    ((FlowRegistry.boot providers hooks definitions).amid others w).value = .error fault ↔
      Definition.Refused providers hooks definitions
        (Definition.verdicts providers definitions others w) fault := by
  rw [FlowRegistry.value_boot_eq_error_iff, FlowRegistry.value_make_eq_error_iff,
    Definition.checkAll_eq_error_iff, Definition.checkAll_nil_eq_ok_iff,
    Definition.checkDependencies_eq_error_iff, Definition.checkDependencies_eq_ok_iff,
    Definition.mapM_instantiate_eq_error_iff]
  simp only [Definition.checkAll_nil_eq_ok_iff, List.nil_append]
  constructor
  · rintro (⟨before, definition, after, hsplit, hbefore, hwrong⟩ | ⟨hsound, hlater⟩)
    · exact .wrong hsplit hbefore hwrong
    rcases hlater with ⟨definition, key, hfirst, hkey, rfl⟩ | ⟨hmet, hmade⟩
    · exact .unmet hsound hfirst hkey
    rcases hmade with ⟨definition, hfirst, hspoilt⟩ | ⟨candidates, hcandidates, hfails⟩
    · exact .spoilt hsound hmet hfirst hspoilt
    obtain ⟨name, flowFault, hdecisive, rfl⟩ :=
      ((Definition.decides_verdicts hsound.nodup hcandidates others w).error_iff fault).mp hfails
    exact .unready hsound hmet (Definition.forall_makes_iff.mpr ⟨candidates, hcandidates⟩)
      hdecisive
  · intro h
    cases h with
    | wrong hsplit hbefore hwrong => exact .inl ⟨_, _, _, hsplit, hbefore, hwrong⟩
    | unmet hsound hfirst hkey => exact .inr ⟨hsound, .inl ⟨_, _, hfirst, hkey, rfl⟩⟩
    | spoilt hsound hmet hfirst hspoilt =>
      exact .inr ⟨hsound, .inr ⟨hmet, .inl ⟨_, hfirst, hspoilt⟩⟩⟩
    | unready hsound hmet hmakes hdecisive =>
      obtain ⟨candidates, hcandidates⟩ := Definition.forall_makes_iff.mp hmakes
      have hfails := ((Definition.decides_verdicts hsound.nodup hcandidates others w).error_iff
        _).mpr ⟨_, _, hdecisive, rfl⟩
      exact .inr ⟨hsound, .inr ⟨hmet, .inr ⟨candidates, hcandidates, hfails⟩⟩⟩

/-- **What a boot comes to.** In any run, a registry is made exactly if all definitions come through
all passes; otherwise the fault is that of the first pass which they do not come through. -/
theorem boot_decides :
    let result := ((FlowRegistry.boot providers hooks definitions).amid others w).value
    let verdicts := Definition.verdicts providers definitions others w
    ((∃ registry, result = .ok registry) ↔
        Definition.Accepted providers hooks definitions verdicts) ∧
      ∀ fault, result = .error fault ↔
        Definition.Refused providers hooks definitions verdicts fault :=
  ⟨exists_value_boot_eq_ok_iff providers hooks definitions others w,
    value_boot_eq_error_iff_refused providers hooks definitions others w⟩

end Boot

end StagedFlow
