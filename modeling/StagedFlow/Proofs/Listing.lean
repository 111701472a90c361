import StagedFlow.Flow.Registry
import StagedFlow.Proofs.Bags
import StagedFlow.Proofs.Checks

/-!
# What a registry lists

A registry keeps the order of its names apart from its flows. `Lists` says that the two tell of the
same flows, which are made of certain definitions. Flows that are made of a checked batch can be put
behind them as long as their names are new.
-/

namespace StagedFlow

variable {K : Type} {V : K → Type} {W H : Type}

theorem FlowKind.firstDisallowed?_eq_none_iff (kind : FlowKind) (plan : Plan) :
    kind.firstDisallowed? plan = none ↔ ∀ stage ∈ plan.stages, kind.allows stage = true := by
  rw [FlowKind.firstDisallowed?, List.find?_eq_none]
  simp only [Bool.not_eq_true', Bool.not_eq_false]

namespace Definition

structure Checked (definition : Definition K V W H) : Prop where
  plan : definition.plan.validate = .ok ()
  stages : ∀ stage ∈ definition.plan.stages, definition.token.kind.allows stage = true

theorem checkAll_cons_eq_ok_iff (taken : List String) (definition : Definition K V W H)
    (rest : List (Definition K V W H)) :
    checkAll taken (definition :: rest) = .ok () ↔
      definition.name ∉ taken ∧ definition.Checked ∧
        checkAll (taken ++ [definition.name]) rest = .ok () := by
  rw [checkAll]
  by_cases hname : definition.name ∈ taken
  · rw [if_pos (List.contains_iff_mem.mpr hname)]
    exact ⟨nofun, fun ⟨hnew, _⟩ => absurd hname hnew⟩
  rw [if_neg (mt List.contains_iff_mem.mp hname)]
  cases hplan : definition.plan.validate with
  | error fault => exact ⟨nofun, fun ⟨_, hchecked, _⟩ => nomatch hplan.symm.trans hchecked.plan⟩
  | ok =>
    have hstages := definition.token.kind.firstDisallowed?_eq_none_iff definition.plan
    cases hkind : definition.token.kind.firstDisallowed? definition.plan with
    | some stage =>
      exact ⟨nofun, fun ⟨_, hchecked, _⟩ => nomatch hkind.symm.trans (hstages.mpr hchecked.stages)⟩
    | none => exact ⟨fun h => ⟨hname, ⟨hplan, hstages.mp hkind⟩, h⟩, fun ⟨_, _, h⟩ => h⟩

/-- Definitions pass if their names are new and distinct, and each of them is sound in itself. -/
theorem checkAll_eq_ok_iff (taken : List String) (definitions : List (Definition K V W H)) :
    checkAll taken definitions = .ok () ↔
      (∀ definition ∈ definitions, definition.name ∉ taken ∧ definition.Checked) ∧
        (definitions.map name).Nodup := by
  induction definitions generalizing taken with
  | nil => simp [checkAll]
  | cons definition rest ih =>
    rw [checkAll_cons_eq_ok_iff, ih]
    simp only [List.forall_mem_cons, List.map_cons, List.nodup_cons, List.mem_append,
      List.mem_singleton, not_or, List.mem_map, not_exists, not_and]
    constructor
    · rintro ⟨hnew, hchecked, hrest, hnodup⟩
      exact ⟨⟨⟨hnew, hchecked⟩, fun other hother =>
          ⟨(hrest other hother).1.1, (hrest other hother).2⟩⟩,
        fun other hother => (hrest other hother).1.2, hnodup⟩
    · rintro ⟨⟨⟨hnew, hchecked⟩, hrest⟩, hne, hnodup⟩
      exact ⟨hnew, hchecked, fun other hother =>
        ⟨⟨(hrest other hother).1, hne other hother⟩, (hrest other hother).2⟩, hnodup⟩

end Definition

structure Instance.Allowed (inst : Instance K V W H) : Prop where
  checked : inst.definition.Checked
  hooks : ∀ hook ∈ inst.hooks.bindings, inst.definition.token.kind.allows hook.stage = true

structure Made (definitions : List (Definition K V W H)) (flows : List (Instance K V W H)) :
    Prop where
  definition_eq : flows.map Instance.definition = definitions
  allowed : ∀ inst ∈ flows, inst.Allowed
  nodup : (definitions.map Definition.name).Nodup

theorem Made.name_eq {definitions : List (Definition K V W H)} {flows : List (Instance K V W H)}
    (h : Made definitions flows) :
    flows.map Instance.name = definitions.map Definition.name := by
  rw [← h.definition_eq, List.map_map]
  rfl

theorem HookMap.build_eq_ok {token : FlowToken} {own others : List (HookBinding H)}
    (hown : ∀ hook ∈ own, token.kind.allows hook.stage = true)
    (hothers : ∀ hook ∈ others, token.kind.allows hook.stage = true) :
    build token own others = .ok ⟨token, own ++ others⟩ := by
  have hnone : (own ++ others).find? (fun hook => !token.kind.allows hook.stage) = none := by
    rw [List.find?_eq_none]
    intro hook hhook
    simp [List.forall_mem_append.mpr ⟨hown, hothers⟩ hook hhook]
  rw [build, hnone]

theorem HookMap.allows_of_build {token : FlowToken} {own others : List (HookBinding H)}
    {map : HookMap H} (h : build token own others = .ok map) :
    ∀ hook ∈ map.bindings, token.kind.allows hook.stage = true := by
  rw [build] at h
  cases hfind : (own ++ others).find? fun hook => !token.kind.allows hook.stage with
  | some hook => rw [hfind] at h; cases h
  | none =>
    rw [hfind] at h
    cases h
    intro hook hhook
    simpa using List.find?_eq_none.mp hfind hook hhook

theorem Definition.instantiate_eq_ok_iff {providers : Bag K V} {hooks : HookRegistry W H}
    {definition : Definition K V W H}
    {candidate : Candidate K V W H} :
    definition.instantiate providers hooks = .ok candidate ↔
      ∃ prepared map, definition.prepare providers = .ok prepared ∧
        HookMap.build definition.token prepared.table (hooks.hooksFor definition.name) = .ok map ∧
        candidate = ⟨⟨definition, map, hooks.observers⟩, prepared.ready.map fun result =>
          result.mapError fun fault => .initialization definition.name fault.message⟩ := by
  rw [instantiate]
  cases definition.prepare providers with
  | error fault =>
    constructor
    · intro h
      cases h
    · rintro ⟨_, _, hprepare, -⟩
      cases hprepare
  | ok prepared =>
    change (HookMap.build definition.token prepared.table (hooks.hooksFor definition.name)).bind
      _ = .ok candidate ↔ _
    cases hbuild : HookMap.build definition.token prepared.table
        (hooks.hooksFor definition.name) with
    | error fault =>
      constructor
      · intro h
        cases h
      · rintro ⟨_, _, hprepare, hmap, -⟩
        cases hprepare
        cases hbuild.symm.trans hmap
    | ok map =>
      constructor
      · intro h
        exact ⟨prepared, map, rfl, hbuild, (Except.ok.inj h).symm⟩
      · rintro ⟨_, _, hprepare, hmap, rfl⟩
        cases hprepare
        cases hbuild.symm.trans hmap
        rfl

theorem Definition.of_instantiate {providers : Bag K V} {hooks : HookRegistry W H}
    {definition : Definition K V W H} {candidate : Candidate K V W H}
    (h : definition.instantiate providers hooks = .ok candidate) :
    candidate.inst.definition = definition ∧
      ∀ hook ∈ candidate.inst.hooks.bindings, definition.token.kind.allows hook.stage = true := by
  obtain ⟨_, _, -, hbuild, rfl⟩ := instantiate_eq_ok_iff.mp h
  exact ⟨rfl, HookMap.allows_of_build hbuild⟩

theorem made_of_mapM {providers : Bag K V} {hooks : HookRegistry W H}
    {definitions : List (Definition K V W H)} {candidates : List (Candidate K V W H)}
    (hchecked : Definition.checkAll [] definitions = .ok ())
    (h : definitions.mapM (Definition.instantiate providers hooks) = .ok candidates) :
    Made definitions (candidates.map Candidate.inst) := by
  obtain ⟨hall, hnodup⟩ := (Definition.checkAll_eq_ok_iff [] definitions).mp hchecked
  have hmade := (mapM_eq_ok_iff _ _ _).mp h
  clear h hchecked
  refine ⟨?_, ?_, hnodup⟩ <;> clear hnodup
  · induction hmade with
    | nil => rfl
    | cons hfirst _ ih =>
      rw [List.map_cons, List.map_cons, (Definition.of_instantiate hfirst).1,
        ih (List.forall_mem_cons.mp hall).2]
  · induction hmade with
    | nil => exact List.forall_mem_nil _
    | cons hfirst _ ih =>
      obtain ⟨⟨_, hchecked⟩, hrest⟩ := List.forall_mem_cons.mp hall
      obtain ⟨hdefinition, hhooks⟩ := Definition.of_instantiate hfirst
      exact List.forall_mem_cons.mpr
        ⟨⟨hdefinition ▸ hchecked, hdefinition ▸ hhooks⟩, ih hrest⟩

/-! ### Registries -/

namespace FlowRegistry

theorem contains_eq_isSome (registry : FlowRegistry K V W H) (name : String) :
    registry.contains name = (registry.get? name).isSome :=
  Bag.contains_eq_isSome registry.table name

/-- A registry tells in all its parts of flows that are made of certain definitions. -/
structure Lists (registry : FlowRegistry K V W H) (definitions : List (Definition K V W H)) :
    Prop where
  names_eq : registry.names = definitions.map Definition.name
  nodup : registry.names.Nodup
  definition_eq : registry.ordered.map Instance.definition = definitions
  get?_eq_some_iff : ∀ name inst,
    registry.get? name = some inst ↔ inst ∈ registry.ordered ∧ inst.name = name
  allowed : ∀ inst ∈ registry.ordered, inst.Allowed

theorem get?_put (registry : FlowRegistry K V W H) (inst : Instance K V W H) (name : String) :
    (registry.put inst).get? name =
      if name = inst.name then some inst else registry.get? name := by
  split
  case isTrue heq => rw [heq, get?, put, Bag.get?_insert_self]
  case isFalse hne => rw [get?, put, Bag.get?_insert_of_ne _ _ hne, get?]

theorem ordered_put {registry : FlowRegistry K V W H} {inst : Instance K V W H}
    (hnew : inst.name ∉ registry.names) :
    (registry.put inst).ordered = registry.ordered ++ [inst] := by
  rw [ordered, put, List.filterMap_append, ← put]
  congr 1
  · refine List.filterMap_congr fun name hname => ?_
    have hne : name ≠ inst.name := fun heq => hnew (heq ▸ hname)
    rw [get?_put, if_neg hne]
  · exact List.filterMap_cons_some (by rw [get?_put, if_pos rfl])

namespace Lists

theorem empty : (empty : FlowRegistry K V W H).Lists [] where
  names_eq := rfl
  nodup := .nil
  definition_eq := rfl
  get?_eq_some_iff _ _ := ⟨nofun, fun ⟨hmem, _⟩ => nomatch hmem⟩
  allowed := List.forall_mem_nil _

variable {registry : FlowRegistry K V W H} {definitions : List (Definition K V W H)}

theorem name_eq (h : registry.Lists definitions) :
    registry.ordered.map Instance.name = registry.names := by
  rw [h.names_eq, ← h.definition_eq, List.map_map]
  rfl

theorem put (h : registry.Lists definitions) {inst : Instance K V W H} (hallowed : inst.Allowed)
    (hnew : inst.name ∉ registry.names) :
    (registry.put inst).Lists (definitions ++ [inst.definition]) where
  names_eq := by
    rw [List.map_append, ← h.names_eq]
    rfl
  nodup := List.nodup_append.mpr ⟨h.nodup, List.pairwise_singleton _ _,
    fun name hname _ hsame heq => hnew (List.mem_singleton.mp hsame ▸ heq ▸ hname)⟩
  definition_eq := by rw [ordered_put hnew, List.map_append, h.definition_eq, List.map_singleton]
  get?_eq_some_iff name other := by
    rw [get?_put, ordered_put hnew, List.mem_append, List.mem_singleton]
    split
    case isTrue heq =>
      subst heq
      refine ⟨fun hsome => ⟨.inr (Option.some.inj hsome).symm, by rw [Option.some.inj hsome]⟩, ?_⟩
      rintro ⟨hold | rfl, hname⟩
      · exact absurd (h.name_eq ▸ List.mem_map.mpr ⟨other, hold, hname⟩) hnew
      · rfl
    case isFalse hne =>
      rw [h.get?_eq_some_iff]
      refine and_congr_left fun hname => ⟨.inl, fun hor => hor.resolve_right ?_⟩
      rintro rfl
      exact hne hname.symm
  allowed := by
    rw [ordered_put hnew]
    exact List.forall_mem_append.mpr ⟨h.allowed, List.forall_mem_singleton.mpr hallowed⟩

/-- Flows with new names can be put behind the others. -/
theorem putAll (h : registry.Lists definitions) {flows : List (Instance K V W H)}
    (hallowed : ∀ inst ∈ flows, inst.Allowed) (hnodup : (flows.map Instance.name).Nodup)
    (hnew : ∀ inst ∈ flows, inst.name ∉ registry.names) :
    (registry.putAll flows).Lists (definitions ++ flows.map Instance.definition) := by
  induction flows generalizing registry definitions with
  | nil => rwa [List.map_nil, List.append_nil]
  | cons inst rest ih =>
    obtain ⟨hfirst, hallowed⟩ := List.forall_mem_cons.mp hallowed
    obtain ⟨hfresh, hnew⟩ := List.forall_mem_cons.mp hnew
    obtain ⟨hne, hnodup⟩ := List.nodup_cons.mp hnodup
    rw [List.map_cons, List.append_cons]
    refine ih (h.put hfirst hfresh) hallowed hnodup fun other hother => ?_
    have hname : other.name ≠ inst.name := fun heq =>
      hne (heq ▸ List.mem_map_of_mem hother)
    exact List.not_mem_append (hnew other hother) (mt List.mem_singleton.mp hname)

theorem isSome_get?_iff (h : registry.Lists definitions) (name : String) :
    (registry.get? name).isSome = true ↔ name ∈ registry.names := by
  rw [Option.isSome_iff_exists, ← h.name_eq, List.mem_map]
  exact exists_congr fun inst => h.get?_eq_some_iff name inst

theorem contains_iff (h : registry.Lists definitions) (name : String) :
    registry.contains name = true ↔ name ∈ registry.names := by
  rw [contains_eq_isSome]
  exact h.isSome_get?_iff name

/-- The chain for requests has the flows with a route, in their order. -/
theorem definition_routed (h : registry.Lists definitions) :
    registry.routed.map Instance.definition =
      definitions.filter fun definition => definition.route.isSome := by
  rw [← h.definition_eq, List.filter_map]
  rfl

end Lists

theorem get?_putAll_of_not_mem (registry : FlowRegistry K V W H)
    {flows : List (Instance K V W H)} {name : String} (h : name ∉ flows.map Instance.name) :
    (registry.putAll flows).get? name = registry.get? name := by
  induction flows generalizing registry with
  | nil => rfl
  | cons inst rest ih =>
    rw [List.map_cons, List.mem_cons, not_or] at h
    obtain ⟨hne, hrest⟩ := h
    exact (ih (registry.put inst) hrest).trans (by rw [get?_put, if_neg hne])

/-- A batch is put behind the others as a whole, unless one of its names is taken. -/
theorem commit_eq_ok_iff (registry later : FlowRegistry K V W H)
    (flows : List (Instance K V W H)) :
    registry.commit flows = .ok later ↔
      (∀ inst ∈ flows, registry.contains inst.name = false) ∧ later = registry.putAll flows := by
  rw [commit]
  cases hfind : flows.find? fun inst => registry.contains inst.name with
  | some inst =>
    have htaken : registry.contains inst.name = true :=
      List.find?_some (p := fun inst : Instance K V W H => registry.contains inst.name) hfind
    refine ⟨nofun, fun ⟨hfree, _⟩ => ?_⟩
    exact absurd htaken (by simp [hfree inst (List.mem_of_find?_eq_some hfind)])
  | none =>
    have hfree := List.find?_eq_none.mp hfind
    simp only [Bool.not_eq_true] at hfree
    exact ⟨fun h => ⟨hfree, (Except.ok.inj h).symm⟩, fun ⟨_, h⟩ => congrArg _ h.symm⟩

theorem exists_of_commit_eq_error {registry : FlowRegistry K V W H}
    {flows : List (Instance K V W H)} {fault : RegistrationFault}
    (h : registry.commit flows = .error fault) :
    ∃ inst ∈ flows, registry.contains inst.name = true ∧ fault = .duplicateFlow inst.name := by
  rw [commit] at h
  cases hfind : flows.find? fun inst => registry.contains inst.name with
  | none =>
    rw [hfind] at h
    cases h
  | some inst =>
    rw [hfind] at h
    cases h
    have hfirst := (IsFirst.find?_eq_some_iff _).mp hfind
    exact ⟨inst, hfirst.mem, hfirst.holds, rfl⟩

/-- A later batch passes if it is sound, if its names are free and if its dependencies are met. -/
theorem checkBatch_eq_ok_iff [DecidableEq K] [Named K] (registry : FlowRegistry K V W H)
    (providers : Bag K V) (definitions : List (Definition K V W H)) :
    registry.checkBatch providers definitions = .ok () ↔
      Definition.checkAll [] definitions = .ok () ∧
        (∀ definition ∈ definitions, registry.contains definition.name = false) ∧
        Definition.checkDependencies providers definitions = .ok () := by
  rw [checkBatch]
  cases Definition.checkAll [] definitions with
  | error fault => exact ⟨nofun, fun ⟨h, _⟩ => nomatch h⟩
  | ok =>
    have hfree : (definitions.find? fun definition => registry.contains definition.name) = none ↔
        ∀ definition ∈ definitions, registry.contains definition.name = false := by
      simp only [List.find?_eq_none, Bool.not_eq_true]
    rw [← hfree]
    cases definitions.find? fun definition => registry.contains definition.name with
    | some definition => exact ⟨nofun, fun ⟨_, h, _⟩ => nomatch h⟩
    | none => exact ⟨fun h => ⟨rfl, rfl, h⟩, fun h => h.2.2⟩

theorem names_putAll (registry : FlowRegistry K V W H) (flows : List (Instance K V W H)) :
    (registry.putAll flows).names = registry.names ++ flows.map Instance.name := by
  induction flows generalizing registry with
  | nil => rw [List.map_nil, List.append_nil]; rfl
  | cons inst rest ih =>
    rw [List.map_cons, List.append_cons]
    exact ih (registry.put inst)

theorem contains_putAll_iff (registry : FlowRegistry K V W H) (flows : List (Instance K V W H))
    (name : String) :
    (registry.putAll flows).contains name = true ↔
      registry.contains name = true ∨ name ∈ flows.map Instance.name := by
  induction flows generalizing registry with
  | nil => exact ⟨.inl, fun h => h.resolve_right List.not_mem_nil⟩
  | cons inst rest ih =>
    have hput : (registry.put inst).contains name = true ↔
        registry.contains name = true ∨ name = inst.name := by
      rw [contains_eq_isSome, contains_eq_isSome, get?_put]
      by_cases hname : name = inst.name <;> simp [hname]
    rw [List.map_cons, List.mem_cons, ← or_assoc, ← hput]
    exact ih (registry.put inst)

theorem putAll_append (registry : FlowRegistry K V W H) (first later : List (Instance K V W H)) :
    registry.putAll (first ++ later) = (registry.putAll first).putAll later :=
  List.foldl_append

/-- What a batch that is accepted does to a registry. -/
structure Grows (registry later : FlowRegistry K V W H) (batch : List (Definition K V W H)) :
    Prop where
  lists : ∀ definitions, registry.Lists definitions → later.Lists (definitions ++ batch)
  names_eq : later.names = registry.names ++ batch.map Definition.name
  /-- Flows that are there stay the same. -/
  get?_eq : ∀ name, registry.contains name = true → later.get? name = registry.get? name

theorem grows_of_commit {registry later : FlowRegistry K V W H}
    {batch : List (Definition K V W H)} {flows : List (Instance K V W H)}
    (hmade : Made batch flows) (h : registry.commit flows = .ok later) :
    registry.Grows later batch := by
  obtain ⟨hfree, rfl⟩ := (registry.commit_eq_ok_iff later flows).mp h
  constructor
  case lists =>
    intro definitions hlists
    have hnew : ∀ inst ∈ flows, inst.name ∉ registry.names := fun inst hinst hname =>
      absurd ((hlists.contains_iff inst.name).mpr hname) (by simp [hfree inst hinst])
    rw [← hmade.definition_eq]
    exact hlists.putAll hmade.allowed (hmade.name_eq ▸ hmade.nodup) hnew
  case names_eq => rw [names_putAll, hmade.name_eq]
  case get?_eq =>
    intro name hname
    refine registry.get?_putAll_of_not_mem fun hmem => ?_
    obtain ⟨inst, hinst, rfl⟩ := List.mem_map.mp hmem
    exact absurd hname (by simp [hfree inst hinst])

end FlowRegistry

end StagedFlow
