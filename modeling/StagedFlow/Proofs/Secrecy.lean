import StagedFlow.Proofs.Access
import StagedFlow.Proofs.Booting
import StagedFlow.Proofs.Twins

/-!
# What transports do not learn

Two servers whose tools differ in secrets only answer every request alike. Their flows are
counterparts of one another, one by one, and so are the chains that requests go along.
-/

namespace StagedFlow

variable {X L : Type}

namespace CallFlow

variable {behave : X → ToolM X L Unit} {flow flow' : CallFlow X L}
  {observers : List (Observer (World L))}

theorem peers_calling (flow flow' : CallFlow X L) (observers : List (Observer (World L))) :
    (Instance.calling flow observers).Peers (.calling flow' observers) :=
  ⟨rfl, rfl⟩

/-- A stage of a call does what the step of the flow does. -/
theorem alike_runStage {phase : Phase} {stage : Stage} {step : CallStep}
    {found ran found' ran' : Prop} (hstep : StepAlike flow flow' step found ran found' ran')
    (htable : ∀ flow : CallFlow X L, (flow.table.filter fun hook => hook.stage == stage) =
      [.own stage (.call flow step)])
    {ctx ctx' : Context (CallState X L) (Handler X L)} (h : ContextsAgree found ran ctx ctx') :
    (Instance.runStage (toolPlatform behave) (.calling flow observers) phase stage ctx).Alike
      (Abreast (ContextsAgree found' ran') (Stopping X L))
      (Instance.runStage (toolPlatform behave) (.calling flow' observers) phase stage ctx') := by
  have hhook : (Instance.calling flow observers).hooks.resolve stage ctx.scope ctx.attached =
      [.own stage (.call flow step)] := by
    rw [h.unattached.1]
    exact resolve_calling (htable flow) ctx.scope
  have hhook' : (Instance.calling flow' observers).hooks.resolve stage ctx'.scope ctx'.attached =
      [.own stage (.call flow' step)] := by
    rw [h.unattached.2]
    exact resolve_calling (htable flow') ctx'.scope
  exact (peers_calling flow flow' observers).alike_runStage h.callId_eq hhook hhook'
    (hstep _ _ (h.enter stage))

theorem escorted_calling (htwins : flow.Twins flow') :
    Instance.Escorted (toolPlatform behave) (.calling flow observers) (.calling flow' observers)
      (Stopping X L) callPlan.steps (ContextsAgree False False) := by
  refine .cons (fun _ _ h => alike_runStage parseInput_alike (fun _ => rfl) h) ?_
  refine .cons (fun _ _ h => alike_runStage (findTool_alike htwins) (fun _ => rfl) h) ?_
  refine .cons (fun _ _ h => alike_runStage (checkAuthorization_alike htwins) (fun _ => rfl) h) ?_
  refine .cons (fun _ _ h => alike_runStage createContext_alike (fun _ => rfl) h) ?_
  refine .cons (fun _ _ h => alike_runStage checkpoint_alike (fun _ => rfl) h) ?_
  refine .cons (fun _ _ h => alike_runStage checkpoint_alike (fun _ => rfl) h) ?_
  refine .cons (fun _ _ h => alike_runStage validateInput_alike (fun _ => rfl) h) ?_
  refine .cons (fun _ _ h => alike_runStage execute_alike (fun _ => rfl) h) ?_
  refine .cons (fun _ _ h => alike_runStage validateOutput_alike (fun _ => rfl) h) ?_
  refine .cons (fun _ _ h => alike_runStage checkpoint_alike (fun _ => rfl) h) ?_
  refine .cons (fun _ _ h => alike_runStage checkpoint_alike (fun _ => rfl) h) ?_
  refine .cons (fun _ _ h => alike_runStage (finalize_alike htwins) (fun _ => rfl) h) ?_
  exact .nil fun _ _ h => h.mono False.elim fun _ => trivial

/-- The flows that call the tools of two servers are counterparts. -/
theorem counterparts_calling (htwins : flow.Twins flow') :
    Instance.Counterparts (toolPlatform behave) (.calling flow observers)
      (.calling flow' observers) where
  peers := peers_calling flow flow' observers
  escorted := by
    refine ⟨ContextsAgree False False, Stopping X L, escorted_calling htwins, ?_, ?_, ?_⟩
    · intro bracket hbracket phase ctx ctx' h
      rcases List.mem_cons.mp hbracket with rfl | hbracket
      · exact alike_runStage checkpoint_alike (fun _ => rfl) h
      · rw [List.mem_singleton.mp hbracket]
        exact alike_runStage checkpoint_alike (fun _ => rfl) h
    · intro setting
      exact ⟨rfl, rfl, rfl, rfl, rfl, ⟨rfl, rfl⟩, .refl setting.deps⟩
    · intro ctx ctx' h
      refine ⟨h.output_eq, funext fun w => ?_⟩
      have hpermit := h.states.slots .permit (by decide) (by decide) (by decide)
      change Admission.retire ctx'.state w = Admission.retire ctx.state w
      rw [Admission.retire, Admission.retire, Bag.contains_eq_isSome, Bag.contains_eq_isSome,
        hpermit]

end CallFlow

namespace ListFlow

variable {behave : X → ToolM X L Unit} {flow flow' : ListFlow X L}
  {observers : List (Observer (World L))}

/-- Listings are made of what tools say of themselves. -/
theorem listing_eq_of_twins (htools : flow.tools.Twins flow'.tools)
    (hauth : flow'.auth = flow.auth) (caller : Option AuthInfo) :
    flow'.listing caller = flow.listing caller := by
  have hlisting : ∀ flow : ListFlow X L, flow.listing caller =
      ⟨((flow.tools.visible.map Tool.definition).filter fun definition =>
        flow.shows caller definition.owner).map ListedTool.ofDefinition⟩ := by
    intro flow
    rw [listing, List.filter_map, List.map_map]
    rfl
  rw [hlisting, hlisting, htools.visible_eq]
  unfold shows
  rw [hauth]

theorem step_eq_of_twins (htools : flow.tools.Twins flow'.tools)
    (hauth : flow'.auth = flow.auth) (step : ListStep) : flow'.step step = flow.step step := by
  cases step with
  | parseInput => rfl
  | findTools => simp only [step, findTools, listing_eq_of_twins htools hauth]
  | finalize => rfl

/-- A listing attaches nothing to its call. -/
theorem exists_step_eq (flow : ListFlow X L) (step : ListStep)
    (ctx : Context (CallState X L) (Handler X L)) :
    ∃ answer, flow.step step ctx = .done answer ∧ answer.2.attached = [] := by
  cases step with
  | parseInput =>
    have hread : flow.step .parseInput ctx = _ := HookM.bind_context _ ctx
    rw [hread]
    cases ListRequest.checkEnvelope ctx.input with
    | error fault => exact ⟨_, rfl, rfl⟩
    | ok => exact ⟨_, rfl, rfl⟩
  | findTools => exact ⟨_, findTools_eq flow ctx, rfl⟩
  | finalize =>
    cases hget : ctx.state.get? .listing with
    | none =>
      have hmissing : flow.step .finalize ctx = _ := AnswersAgree.bind_require_none hget _
      exact ⟨_, hmissing, rfl⟩
    | some listing => exact ⟨_, finalize_eq hget, rfl⟩

def Bare (ctx ctx' : Context (CallState X L) (Handler X L)) : Prop :=
  ctx' = ctx ∧ ctx.attached = []

theorem alike_runStage (htools : flow.tools.Twins flow'.tools) (hauth : flow'.auth = flow.auth)
    {phase : Phase} {stage : Stage} {step : ListStep}
    (htable : ∀ flow : ListFlow X L, (flow.table.filter fun hook => hook.stage == stage) =
      [.own stage (.list flow step)])
    {ctx ctx' : Context (CallState X L) (Handler X L)} (h : Bare ctx ctx') :
    (Instance.runStage (toolPlatform behave) (.listing flow observers) phase stage ctx).Alike
      (Abreast Bare Bare)
      (Instance.runStage (toolPlatform behave) (.listing flow' observers) phase stage ctx') := by
  obtain ⟨rfl, hattached⟩ := h
  have hhook : ∀ flow, (Instance.listing flow observers).hooks.resolve stage ctx'.scope
      ctx'.attached = [.own stage (.list flow step)] := by
    intro flow
    rw [hattached]
    exact resolve_listing (htable flow) ctx'.scope
  have hpeers : (Instance.listing flow observers).Peers (.listing flow' observers) := ⟨rfl, rfl⟩
  refine hpeers.alike_runStage rfl (hhook flow) (hhook flow') ?_
  change (flow.step step (ctx'.enter stage)).Alike _ (flow'.step step (ctx'.enter stage))
  obtain ⟨⟨result, changes⟩, hstep, hnone⟩ := flow.exists_step_eq step (ctx'.enter stage)
  have hbare : ((ctx'.enter stage).apply changes).attached = [] := by
    change ctx'.attached ++ changes.attached = []
    rw [hattached, hnone, List.append_nil]
  rw [step_eq_of_twins htools hauth, hstep]
  refine .done ?_
  cases result with
  | ok => exact .passed ⟨rfl, hbare⟩
  | error interrupt => exact .stopped (.same _) ⟨rfl, hbare⟩

/-- The flows that list the tools of two servers are counterparts. -/
theorem counterparts_listing (htools : flow.tools.Twins flow'.tools)
    (hauth : flow'.auth = flow.auth) :
    Instance.Counterparts (toolPlatform behave) (.listing flow observers)
      (.listing flow' observers) where
  peers := ⟨rfl, rfl⟩
  escorted := by
    refine ⟨Bare, Bare, ?_, ?_, fun _ => ⟨rfl, rfl⟩, ?_⟩
    · refine .cons (fun _ _ h => alike_runStage htools hauth (fun _ => rfl) h) ?_
      refine .cons (fun _ _ h => alike_runStage htools hauth (fun _ => rfl) h) ?_
      refine .cons (fun _ _ h => alike_runStage htools hauth (fun _ => rfl) h) ?_
      exact .nil fun _ _ h => h
    · intro bracket hbracket
      exact absurd hbracket List.not_mem_nil
    · rintro ctx _ ⟨rfl, -⟩
      exact ⟨rfl, rfl⟩

end ListFlow

section Registries

variable {K : Type} {V : K → Type} {S W H : Type}

/-- Registries that hold, under the same names, flows that are counterparts. -/
structure FlowRegistry.Counterparts (p : Platform S W H)
    (registry registry' : FlowRegistry K V W H) : Prop where
  order_eq : registry'.order = registry.order
  get? : ∀ name, Option.Rel (Instance.Counterparts p) (registry.get? name) (registry'.get? name)

namespace FlowRegistry.Counterparts

variable {p : Platform S W H} {registry registry' : FlowRegistry K V W H}

theorem put (h : Counterparts p registry registry') {inst inst' : Instance K V W H}
    (hinst : inst.Counterparts p inst') :
    Counterparts p (registry.put inst) (registry'.put inst') where
  order_eq := by rw [FlowRegistry.put, FlowRegistry.put, h.order_eq, hinst.peers.name_eq]
  get? name := by
    rw [get?_put, get?_put, hinst.peers.name_eq]
    split
    · exact .some hinst
    · exact h.get? name

theorem putAll (h : Counterparts p registry registry') {flows flows' : List (Instance K V W H)}
    (hflows : List.Forall₂ (Instance.Counterparts p) flows flows') :
    Counterparts p (registry.putAll flows) (registry'.putAll flows') := by
  induction hflows generalizing registry registry' with
  | nil => exact h
  | cons hinst _ ih => exact ih (h.put hinst)

/-- The chains of such registries are counterparts, flow by flow. -/
theorem routed (h : Counterparts p registry registry') :
    List.Forall₂ (Instance.Counterparts p) registry.routed registry'.routed := by
  refine List.rel_filter (fun inst inst' hinst => ?_) ?_
  · simp only [hinst.peers.definition_eq]
  · rw [ordered, ordered, h.order_eq]
    refine List.rel_filterMap (R := (· = ·)) ?_ (List.forall₂_eq_eq_eq ▸ rfl)
    rintro name _ rfl
    exact h.get? name

end FlowRegistry.Counterparts

/-- A definition makes counterparts of the providers of two servers, with the same check to pass. -/
def Definition.MakesCounterparts (p : Platform S W H) (providers providers' : Bag K V)
    (hooks : HookRegistry W H) (definition : Definition K V W H) : Prop :=
  ∀ candidate, definition.instantiate providers hooks = .ok candidate →
    ∃ candidate', definition.instantiate providers' hooks = .ok candidate' ∧
      candidate.inst.Counterparts p candidate'.inst ∧ candidate'.ready = candidate.ready

namespace FlowRegistry

variable {p : Platform S W H} {providers providers' : Bag K V} {hooks : HookRegistry W H}
  {definitions : List (Definition K V W H)}

theorem exists_make_counterparts
    (hmakes : ∀ definition ∈ definitions, definition.MakesCounterparts p providers providers' hooks)
    {others : List (W → W)} {w : W} {registry : FlowRegistry K V W H}
    (hmade : ((make providers hooks definitions).amid others w).value = .ok registry) :
    ∃ registry', ((make providers' hooks definitions).amid others w).value = .ok registry' ∧
      Counterparts p registry registry' := by
  obtain ⟨candidates, hcandidates, hready, rfl⟩ := value_make_eq_ok_iff.mp hmade
  have hboth : ∃ candidates', List.Forall₂
        (fun definition candidate => definition.instantiate providers' hooks = .ok candidate)
        definitions candidates' ∧
      candidates'.map Candidate.ready = candidates.map Candidate.ready ∧
      List.Forall₂ (Instance.Counterparts p) (candidates.map Candidate.inst)
        (candidates'.map Candidate.inst) := by
    clear hready hmade
    induction hcandidates with
    | nil => exact ⟨[], .nil, rfl, .nil⟩
    | @cons definition candidate _ _ hfirst _ ih =>
      obtain ⟨hmakesFirst, hmakesRest⟩ := List.forall_mem_cons.mp hmakes
      obtain ⟨candidate', hfirst', hinst, hcheck⟩ := hmakesFirst candidate hfirst
      obtain ⟨rest', hrest', hchecks, hinsts⟩ := ih hmakesRest
      refine ⟨candidate' :: rest', .cons hfirst' hrest', ?_, .cons hinst hinsts⟩
      rw [List.map_cons, List.map_cons, hcheck, hchecks]
  obtain ⟨candidates', hcandidates', hchecks, hinsts⟩ := hboth
  have hempty : Counterparts p (empty : FlowRegistry K V W H) empty := ⟨rfl, fun _ => .none⟩
  refine ⟨_, value_make_eq_ok_iff.mpr ⟨candidates', hcandidates', ?_, rfl⟩, hempty.putAll hinsts⟩
  rwa [hchecks]

/-- Definitions that make counterparts make registries of counterparts. -/
theorem exists_boot_counterparts [DecidableEq K] [Named K]
    (hcontains : ∀ key, providers'.contains key = providers.contains key)
    (hmakes : ∀ definition ∈ definitions, definition.MakesCounterparts p providers providers' hooks)
    {others : List (W → W)} {w : W} {registry : FlowRegistry K V W H}
    (hboot : ((boot providers hooks definitions).amid others w).value = .ok registry) :
    ∃ registry', ((boot providers' hooks definitions).amid others w).value = .ok registry' ∧
      Counterparts p registry registry' := by
  obtain ⟨⟨hchecked, hdependencies⟩, hmade⟩ := value_boot_eq_ok_iff.mp hboot
  have hsame : Definition.checkDependencies providers' definitions =
      Definition.checkDependencies providers definitions := by
    clear hmakes hboot hchecked hdependencies hmade
    induction definitions with
    | nil => rfl
    | cons definition rest ih =>
      rw [Definition.checkDependencies, Definition.checkDependencies, ih, Bag.firstMissing?,
        Bag.firstMissing?, funext hcontains]
  obtain ⟨registry', hmade', hcounterparts⟩ := exists_make_counterparts hmakes hmade
  exact ⟨registry', value_boot_eq_ok_iff.mpr ⟨⟨hchecked, hsame.trans hdependencies⟩, hmade'⟩,
    hcounterparts⟩

end FlowRegistry

end Registries

/-! ### Servers that keep secrets -/

/-- What two servers provide: the same, but for what tools answer that callers are not to know. -/
structure Providers.Twins (providers providers' : Providers X L) : Prop where
  tools : ∃ tools tools' : ToolRegistry X (World L), providers.get? .tools = some tools ∧
    providers'.get? .tools = some tools' ∧ tools.Twins tools' ∧
    ∀ tool ∈ tools.tools, tool.hooks = []
  get?_eq : ∀ key, key ≠ .tools → providers'.get? key = providers.get? key

namespace Providers.Twins

variable {providers providers' : Providers X L}

theorem contains_eq (h : providers.Twins providers') (key : ProviderKey) :
    providers'.contains key = providers.contains key := by
  rw [Bag.contains_eq_isSome, Bag.contains_eq_isSome]
  by_cases hkey : key = .tools
  · obtain ⟨tools, tools', htools, htools', -⟩ := h.tools
    rw [hkey, htools, htools']
    rfl
  · rw [h.get?_eq key hkey]

theorem auth_eq (h : providers.Twins providers') :
    Providers.auth providers' = Providers.auth providers := by
  rw [Providers.auth, Providers.auth, h.get?_eq .auth (by decide)]

end Providers.Twins

theorem Definition.instantiate_of_bare {K : Type} {V : K → Type} {W H : Type}
    {providers : Bag K V} {hooks : HookRegistry W H} {definition : Definition K V W H}
    {table : List (HookBinding H)} (hprepare : definition.prepare providers = .ok (.ofTable table))
    (hbare : hooks.hooksFor definition.name = [])
    (hbuild : HookMap.build definition.token table [] = .ok ⟨definition.token, table⟩) :
    definition.instantiate providers hooks =
      .ok ⟨⟨definition, ⟨definition.token, table⟩, hooks.observers⟩, .done (.ok ())⟩ := by
  refine instantiate_eq_ok_iff.mpr ⟨_, _, hprepare, ?_, rfl⟩
  rw [hbare]
  exact hbuild

section Servers

variable {behave : X → ToolM X L Unit} {providers providers' : Providers X L}
  {hooks : HookRegistry (World L) (Handler X L)}

theorem CallFlow.makesCounterparts (h : providers.Twins providers')
    (hhooks : hooks.hooksFor callToken.name = []) :
    callFlow.MakesCounterparts (toolPlatform behave) providers providers' hooks := by
  obtain ⟨tools, tools', htools, htools', htwins, hhookless⟩ := h.tools
  intro candidate hcandidate
  rw [Definition.instantiate_of_bare (prepare_callFlow htools) hhooks rfl] at hcandidate
  cases hcandidate
  exact ⟨_, Definition.instantiate_of_bare (prepare_callFlow htools') hhooks rfl,
    counterparts_calling ⟨htwins, hhookless, h.auth_eq, h.get?_eq .renderer (by decide)⟩, rfl⟩

theorem ListFlow.makesCounterparts (h : providers.Twins providers')
    (hhooks : hooks.hooksFor listToken.name = []) :
    listFlow.MakesCounterparts (toolPlatform behave) providers providers' hooks := by
  obtain ⟨tools, tools', htools, htools', htwins, -⟩ := h.tools
  intro candidate hcandidate
  rw [Definition.instantiate_of_bare (prepare_listFlow htools) hhooks rfl] at hcandidate
  cases hcandidate
  exact ⟨_, Definition.instantiate_of_bare (prepare_listFlow htools') hhooks rfl,
    counterparts_listing htwins h.auth_eq, rfl⟩

/-- A definition that makes nothing of what sets the two servers apart. -/
theorem Definition.makesCounterparts_of_prepare_eq {definition : ServedFlow X L}
    (h : definition.prepare providers' = definition.prepare providers) :
    definition.MakesCounterparts (toolPlatform behave) providers providers' hooks := by
  intro candidate hcandidate
  refine ⟨candidate, ?_, Instance.counterparts_self _ _, rfl⟩
  rwa [instantiate, h]

/-- Two servers answer every request alike, whatever flows are added later. -/
theorem exists_boot_answering_alike (behave : X → ToolM X L Unit)
    {definitions : List (ServedFlow X L)} {others : List (World L → World L)} {before : World L}
    {registry : ServedFlows X L} (h : providers.Twins providers')
    (hcall : hooks.hooksFor callToken.name = []) (hlist : hooks.hooksFor listToken.name = [])
    (hdefinitions : ∀ definition ∈ definitions, definition = callFlow ∨ definition = listFlow ∨
      definition.prepare providers' = definition.prepare providers)
    (hboot : ((FlowRegistry.boot providers hooks definitions).amid others before).value =
      .ok registry) :
    ∃ registry' : ServedFlows X L,
      ((FlowRegistry.boot providers' hooks definitions).amid others before).value = .ok registry' ∧
      ∀ added request deps others w,
        ((dispatch (toolPlatform behave) request deps (registry'.putAll added).routed).amid others
            w).value =
          ((dispatch (toolPlatform behave) request deps (registry.putAll added).routed).amid others
            w).value := by
  have hmakes : ∀ definition ∈ definitions,
      definition.MakesCounterparts (toolPlatform behave) providers providers' hooks := by
    intro definition hdefinition
    rcases hdefinitions definition hdefinition with rfl | rfl | hsame
    · exact CallFlow.makesCounterparts h hcall
    · exact ListFlow.makesCounterparts h hlist
    · exact Definition.makesCounterparts_of_prepare_eq hsame
  obtain ⟨registry', hboot', hcounterparts⟩ :=
    FlowRegistry.exists_boot_counterparts h.contains_eq hmakes hboot
  refine ⟨registry', hboot', fun added request deps others w => ?_⟩
  have hadded : List.Forall₂ (Instance.Counterparts (toolPlatform behave)) added added :=
    List.forall₂_same.mpr fun inst _ => Instance.counterparts_self _ inst
  exact Instance.value_dispatch_eq request deps (hcounterparts.putAll hadded).routed others w

end Servers

/-- **Secrets do not reach those who send requests.** Two servers provide tools that differ only in
why they fail, or in what they answer against their output schemas; nothing is hooked into the tool
flows, and nothing else is made of what sets the tools apart. Then the servers answer every request
alike, whatever flows are added later. For any flows at all, requests are answered alike if the last
calls that are made for them end in ways that differ in their reasons only. -/
theorem answers_keep_secrets :
    (∀ {X L : Type} (behave : X → ToolM X L Unit) {providers providers' : Providers X L}
      {hooks : HookRegistry (World L) (Handler X L)} {definitions : List (ServedFlow X L)}
      {others : List (World L → World L)} {before : World L} {registry : ServedFlows X L},
      providers.Twins providers' → hooks.hooksFor callToken.name = [] →
      hooks.hooksFor listToken.name = [] →
      (∀ definition ∈ definitions, definition = callFlow ∨ definition = listFlow ∨
        definition.prepare providers' = definition.prepare providers) →
      ((FlowRegistry.boot providers hooks definitions).amid others before).value = .ok registry →
      ∃ registry' : ServedFlows X L,
        ((FlowRegistry.boot providers' hooks definitions).amid others before).value =
          .ok registry' ∧
        ∀ added request deps others w,
          ((dispatch (toolPlatform behave) request deps (registry'.putAll added).routed).amid others
              w).value =
            ((dispatch (toolPlatform behave) request deps (registry.putAll added).routed).amid
              others w).value) ∧
    ∀ {K : Type} {V : K → Type} {S W H : Type} {p p' : Platform S W H} {request request' : Request}
      {deps deps' : S} {chain chain' : List (Instance K V W H)} {others others' : List (W → W)}
      {w w' : W} {calls calls' : List (Call K V S W H)} {last last' : Call K V S W H},
      Told p request deps chain others w calls → Told p' request' deps' chain' others' w' calls' →
      last ∈ calls.getLast? → last' ∈ calls'.getLast? →
      Undisclosed (last.ending p).value (last'.ending p').value →
      ((dispatch p request deps chain).amid others w).value =
        ((dispatch p' request' deps' chain').amid others' w').value := by
  constructor
  · intro X L behave providers providers' hooks definitions others before registry h hcall hlist
      hdefinitions hboot
    exact exists_boot_answering_alike behave h hcall hlist hdefinitions hboot
  · intro K V S W H p p' request request' deps deps' chain chain' others others' w w' calls calls'
      last last' htold htold' hlast hlast' hends
    exact htold.value_eq_of_undisclosed htold' hlast hlast' hends

def Tool.vault (reason : String) : Tool Unit (World Unit) where
  definition := .start "vault" "Fails."
  execute _ _ := .done (.error (.execution reason))
  hooks := []

def Providers.vault (reason : String) : Providers Unit Unit :=
  Bag.empty.insert .tools ⟨[Tool.vault reason]⟩

theorem Providers.twins_vault (reason reason' : String) :
    (Providers.vault reason).Twins (Providers.vault reason') where
  tools := by
    have htwins : (Tool.vault reason).Twins (Tool.vault reason') :=
      ⟨rfl, rfl, rfl, fun _ _ => .done (.failed ..)⟩
    exact ⟨_, _, rfl, rfl, .cons htwins .nil, List.forall_mem_singleton.mpr rfl⟩
  get?_eq _ hkey := (Bag.get?_insert_of_ne _ _ hkey).trans (Bag.get?_insert_of_ne _ _ hkey).symm

def FlowRegistry.guarding (reason : String) :
    Task (World Unit) (Except RegistrationFault (ServedFlows Unit Unit)) :=
  boot (Providers.vault reason) .empty [callFlow, listFlow]

def Instance.aborted (reason : String) :
    Instance Empty (fun _ => Unit) Nat (Option Interrupt) :=
  .crossed [.own "connect" (some (.signal (.abort (some reason))))]

theorem exists_told_aborted (reason : String) :
    ∃ last, Told .plain (.start "GET" "/") none [Instance.aborted reason] [] 0 [last] ∧
      (last.ending .plain).value = .ok (.aborted (some reason)) := by
  have hhooks : (Instance.aborted reason).hooks.resolve "connect" none [] =
      [.own "connect" (some (.signal (.abort (some reason))))] := by
    have hat : (Instance.aborted reason).hooks.hooksAt "connect" =
        [.own "connect" (some (.signal (.abort (some reason))))] := List.mergeSort_singleton _
    rw [HookMap.resolve, hat]
    exact List.mergeSort_singleton _
  have hwalk : ((Instance.aborted reason).walkOf .plain .plain).value.result =
      .error (.signal (.abort (some reason))) :=
    Instance.result_walk_of_interrupt hhooks rfl _ _
  have hends : (((Instance.aborted reason).called (.start "GET" "/") none [] 0).ending
      .plain).value = .ok (.aborted (some reason)) := by
    have houtcome := Instance.outcome_eq .plain (Instance.aborted reason) .plain
    rw [hwalk] at houtcome
    exact houtcome
  refine ⟨_, .decided rfl rfl (congrArg Response.ofCall? hends) ?_, hends⟩
  rw [hends]
  exact .aborted (some reason)

theorem answers_keep_secrets_vault :
    (∃ registry registry' : ServedFlows Unit Unit,
      ((FlowRegistry.guarding "no key").amid [] ⟨0, 0, ()⟩).value = .ok registry ∧
      ((FlowRegistry.guarding "wrong key").amid [] ⟨0, 0, ()⟩).value = .ok registry' ∧
      ∀ added request deps others w,
        ((dispatch (toolPlatform fun _ => pure ()) request deps
            (registry'.putAll added).routed).amid others w).value =
          ((dispatch (toolPlatform fun _ => pure ()) request deps
            (registry.putAll added).routed).amid others w).value) ∧
      ((dispatch .plain (.start "GET" "/") none [Instance.aborted "no key"]).amid [] 0).value =
        ((dispatch .plain (.start "GET" "/") none [Instance.aborted "wrong key"]).amid []
          0).value := by
  refine ⟨?_, ?_⟩
  · obtain ⟨registry, hboot⟩ : ∃ registry : ServedFlows Unit Unit,
        ((FlowRegistry.guarding "no key").amid [] ⟨0, 0, ()⟩).value = .ok registry := ⟨_, rfl⟩
    obtain ⟨registry', hboot', halike⟩ := answers_keep_secrets.1 (fun _ => pure ())
      (Providers.twins_vault "no key" "wrong key") rfl rfl
      (List.forall_mem_cons.mpr ⟨.inl rfl, List.forall_mem_singleton.mpr (.inr (.inl rfl))⟩) hboot
    exact ⟨registry, registry', hboot, hboot', halike⟩
  · obtain ⟨last, htold, hends⟩ := exists_told_aborted "no key"
    obtain ⟨last', htold', hends'⟩ := exists_told_aborted "wrong key"
    have hundisclosed : Undisclosed (last.ending .plain).value (last'.ending .plain).value := by
      rw [hends, hends']
      exact .stopped (.aborted _) (.aborted _)
    exact answers_keep_secrets.2 htold htold' rfl rfl hundisclosed

end StagedFlow
