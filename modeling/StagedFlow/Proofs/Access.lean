import StagedFlow.Proofs.Calling
import StagedFlow.Proofs.Invoked

/-!
# Listing and calling agree

Two flows decide who may use a tool: one lists the tools that a caller may see, the other checks the
caller when a tool is called. What is shown here is that they decide alike, for every registry that
registrations can make, every policy and every caller: a tool is listed if and only if a call of it
gets past the check.
-/

namespace StagedFlow

variable {X L : Type}

namespace ToolRegistry

variable {W : Type}

def offer (registry : ToolRegistry X W) (tool : Tool X W) : ToolRegistry X W :=
  match registry.register tool with
  | .ok later => later
  | .error _ => registry

def ofOffers (offers : List (Tool X W)) : ToolRegistry X W := offers.foldl offer empty

theorem find?_eq_none_iff {registry : ToolRegistry X W} {name : String} :
    registry.find? name = none ↔ name ∉ registry.names := by
  simp [find?, names]

theorem nodup_offer {registry : ToolRegistry X W} (h : registry.names.Nodup) (tool : Tool X W) :
    (registry.offer tool).names.Nodup := by
  rw [offer, register]
  cases tool.schemaFault? with
  | some fault => exact h
  | none =>
    by_cases htaken : registry.has tool.name
    · simpa only [if_pos htaken] using h
    · simp only [if_neg htaken]
      have hnew : tool.name ∉ registry.names := by
        simpa [has, find?_eq_none_iff] using htaken
      rw [names, List.map_append, List.map_singleton]
      exact List.nodup_append.mpr ⟨h, List.pairwise_singleton _ _, fun name hname _ hsame heq =>
        hnew (List.mem_singleton.mp hsame ▸ heq ▸ hname)⟩

/-- Names are taken once. -/
theorem nodup_ofOffers (offers : List (Tool X W)) : (ofOffers offers).names.Nodup := by
  suffices h : ∀ registry : ToolRegistry X W, registry.names.Nodup →
      (offers.foldl offer registry).names.Nodup from h empty .nil
  induction offers with
  | nil => exact fun _ h => h
  | cons tool offers ih => exact fun registry h => ih _ (nodup_offer h tool)

end ToolRegistry

def callerOf (state : CallState X L) : Option AuthInfo := state.get? .auth

def Instance.listing (flow : ListFlow X L) (observers : List (Observer (World L))) :
    Instance ProviderKey (ProviderKey.Val X L) (World L) (Handler X L) :=
  ⟨listFlow, ⟨listToken, flow.table⟩, observers⟩

namespace ListFlow

variable {flow : ListFlow X L} {observers : List (Observer (World L))}

theorem prepare_listFlow {providers : Providers X L} {tools : ToolRegistry X (World L)}
    (htools : providers.get? .tools = some tools) : listFlow.prepare providers =
      .ok (.ofTable (ListFlow.mk tools (Providers.auth providers)).table) := by
  have hprovided : Providers.tools providers = .ok tools := by
    rw [Providers.tools, htools]
  change (Providers.tools providers >>= fun found =>
    pure (PreparedFlow.ofTable (ListFlow.mk found _).table)) = _
  rw [hprovided]
  rfl

theorem resolve_listing {stage : Stage} {step : ListStep}
    (hstage : (flow.table.filter fun hook => hook.stage == stage) =
      [.own stage (.list flow step)]) (scope : Option String) :
    (Instance.listing flow observers).hooks.resolve stage scope [] =
      [.own stage (.list flow step)] := by
  have hhooks : (Instance.listing flow observers).hooks.hooksAt stage =
      [.own stage (.list flow step)] := by
    rw [HookMap.hooksAt, Instance.listing, hstage, List.mergeSort_singleton]
  rw [HookMap.resolve, hhooks]
  exact List.mergeSort_singleton _

section Steps

variable {ctx : Context (CallState X L) (Handler X L)}

theorem parseInput_eq (h : ListRequest.checkEnvelope ctx.input = .ok ()) :
    flow.step .parseInput ctx = .done (.ok (), .none) := by
  refine (HookM.bind_context _ ctx).trans ?_
  rw [h]
  rfl

theorem findTools_eq (flow : ListFlow X L) (ctx : Context (CallState X L) (Handler X L)) :
    flow.step .findTools ctx = .done (.ok (), {
      state := some (ctx.state.insert .listing (flow.listing (ctx.state.get? .auth))) }) := by
  have hread : (ToolM.get? .auth : ToolM X L (Option AuthInfo)) ctx =
      .done (.ok (ctx.state.get? .auth), .none) := HookM.bind_state _ ctx
  exact (HookM.bind_of_read hread).trans (ToolM.put_eq .listing _ ctx)

theorem finalize_eq {listing : Listing} (h : ctx.state.get? .listing = some listing) :
    flow.step .finalize ctx = .done (.ok (), { output := some (some listing.toJson) }) :=
  ToolM.bind_require h _

end Steps

end ListFlow

/-! ### A call of a tool -/

namespace CallFlow

variable {behave : X → ToolM X L Unit} {flow : CallFlow X L}
  {observers : List (Observer (World L))}

/-- What the walk of a call has come to when the caller was checked. -/
structure Checked (flow : CallFlow X L) (tool : Tool X (World L)) (refusal : Option FlowFault)
    (hooks : HookMap (Handler X L)) (visits : List (Visit (CallState X L) (Handler X L)))
    (walked : Instance.Walked (CallState X L) (Handler X L))
    (found checked : Visit (CallState X L) (Handler X L))
    (later : List (Visit (CallState X L) (Handler X L))) : Prop where
  visits_eq : ∃ parsed, visits = parsed :: found :: checked :: later ∧
    ∀ visit ∈ [parsed, found, checked], ∀ firing ∈ visit.firings, firing.hook ∈ flow.table
  found_stage : found.stage = "findTool"
  found_passes : found.Passes
  checked_stage : checked.stage = "checkToolAuthorization"
  refused : ∀ fault, refusal = some fault →
    ¬ checked.Passes ∧ walked.result = .error (.fault fault)
  admitted : refusal = none → checked.Passes ∧
    ∃ ctx after : Context (CallState X L) (Handler X L), ctx.attached = [] ∧
      ctx.state.get? .tool = some tool ∧ Proceeds hooks ctx later after

theorem own_mem_table {stage : Stage} {step : CallStep}
    (hstage : (flow.table.filter fun hook => hook.stage == stage) =
      [.own stage (.call flow step)]) :
    HookBinding.own stage (.call flow step) ∈ flow.table := by
  have hmem : HookBinding.own stage (.call flow step) ∈
      flow.table.filter fun hook => hook.stage == stage := by
    rw [hstage]
    exact List.mem_singleton_self _
  exact (List.mem_filter.mp hmem).1

/-- A stage of the flow that passes at once, and where the walk goes on. -/
theorem exists_visit {plan : Plan} {phase : Phase} {stage : Stage} {step : CallStep}
    {rest : List (Phase × Stage)} {opened : List Bracket}
    {ctx : Context (CallState X L) (Handler X L)}
    {visits : List (Visit (CallState X L) (Handler X L))}
    {walked : Instance.Walked (CallState X L) (Handler X L)}
    {changes : Changes (CallState X L) (Handler X L)}
    (hwalks : Walks plan (Instance.calling flow observers).hooks ((phase, stage) :: rest) opened ctx
      visits walked)
    (hdoes : ∀ visit ∈ visits, ∀ firing ∈ visit.firings, (toolPlatform behave).Does firing)
    (hstage : (flow.table.filter fun hook => hook.stage == stage) = [.own stage (.call flow step)])
    (hattached : ctx.attached = [])
    (hstep : flow.step step (ctx.enter stage) = .done (.ok (), changes))
    (hnone : changes.attached = []) :
    ∃ visit later after, visits = visit :: later ∧ visit.stage = stage ∧ visit.Passes ∧
      (∀ firing ∈ visit.firings, firing.hook ∈ flow.table) ∧ after.attached = [] ∧
      after.state = changes.state.getD ctx.state ∧
      Walks plan (Instance.calling flow observers).hooks rest
        (Instance.enterBrackets plan stage opened) after later walked := by
  have hresolve : (Instance.calling flow observers).hooks.resolve stage ctx.scope ctx.attached =
      [.own stage (.call flow step)] := by
    rw [hattached]
    exact resolve_calling hstage ctx.scope
  obtain ⟨later, rfl, hrest⟩ := hwalks.exists_later hdoes hresolve hstep
  refine ⟨_, later, _, rfl, rfl, ?_, ?_, ?_, rfl, hrest⟩
  · exact List.forall_mem_singleton.mpr rfl
  · exact List.forall_mem_singleton.mpr (own_mem_table hstage)
  · rw [Context.apply, Context.enter, hattached, hnone]
    rfl

theorem exists_checked {setting : Setting (CallState X L) (World L)}
    (history : History (toolPlatform behave) (Instance.calling flow observers) setting)
    (hdoes : ∀ visit ∈ history.visits, ∀ firing ∈ visit.firings,
      (toolPlatform behave).Does firing) {params : CallParams}
    (hparams : CallParams.ofEnvelope setting.input = .ok params) {tool : Tool X (World L)}
    (htool : flow.tools.find? params.name = some tool) :
    ∃ found checked later, Checked flow tool (refusal? flow.auth (setting.deps.get? .auth) tool)
      (Instance.calling flow observers).hooks history.visits
      ((Instance.calling flow observers).walkOf (toolPlatform behave) setting).value found checked
      later := by
  have hwalks := history.walks
  generalize hstart : (Instance.calling flow observers).startContext (toolPlatform behave)
    setting = start at hwalks
  have hattached : start.attached = [] := by rw [← hstart]; rfl
  have hstate : start.state = setting.deps := by rw [← hstart]; rfl
  have hinput : (start.enter "parseInput").input = setting.input := by rw [← hstart]; rfl
  have hparse := parseInput_eq flow (start.enter "parseInput")
  rw [hinput, hparams] at hparse
  generalize history.visits = visits at hwalks hdoes ⊢
  obtain ⟨parsed, later₁, ctx₁, rfl, -, -, hown₁, hattached₁, hstate₁, hwalks₁⟩ :=
    exists_visit hwalks hdoes rfl hattached hparse rfl
  have hdoes₁ := (List.forall_mem_cons.mp hdoes).2
  have hparams₁ : (ctx₁.enter "findTool").state.get? .params = some params := by
    change ctx₁.state.get? .params = some params
    rw [hstate₁]
    exact Bag.get?_insert_self _ _ _
  have hfind : flow.step .findTool (ctx₁.enter "findTool") = _ := findTool_eq hparams₁
  rw [htool] at hfind
  obtain ⟨found, later₂, ctx₂, rfl, hfound, hpasses, hown₂, hattached₂, hstate₂, hwalks₂⟩ :=
    exists_visit hwalks₁ hdoes₁ rfl hattached₁ hfind rfl
  have hdoes₂ := (List.forall_mem_cons.mp hdoes₁).2
  have htool₂ : ctx₂.state.get? .tool = some tool := by
    rw [hstate₂]
    exact Bag.get?_insert_self _ _ _
  have hauth₂ : ctx₂.state.get? .auth = setting.deps.get? .auth := by
    rw [hstate₂]
    refine (Bag.get?_insert_of_ne _ _ (by decide)).trans ?_
    change ctx₁.state.get? .auth = _
    rw [hstate₁, ← hstate]
    exact Bag.get?_insert_of_ne _ _ (by decide)
  have hcheck := checkAuthorization_eq flow (ctx₂.enter "checkToolAuthorization") htool₂
  rw [show (ctx₂.enter "checkToolAuthorization").state.get? .auth = setting.deps.get? .auth from
    hauth₂] at hcheck
  revert hcheck
  cases refusal? flow.auth (setting.deps.get? .auth) tool with
  | some fault =>
    intro hcheck
    have hresolve : (Instance.calling flow observers).hooks.resolve "checkToolAuthorization"
        ctx₂.scope ctx₂.attached =
          [.own "checkToolAuthorization" (.call flow .checkAuthorization)] := by
      rw [hattached₂]
      exact resolve_calling rfl ctx₂.scope
    obtain ⟨rfl, hresult⟩ := hwalks₂.eq_of_interrupt hdoes₂ hresolve hcheck
    refine ⟨found, _, [], ⟨parsed, rfl, ?_⟩, hfound, hpasses, rfl, ?_, nofun⟩
    · simp only [List.forall_mem_cons]
      exact ⟨hown₁, hown₂, ⟨own_mem_table rfl, List.forall_mem_nil _⟩, List.forall_mem_nil _⟩
    · rintro _ ⟨⟩
      refine ⟨fun hpassed => ?_, hresult⟩
      cases hpassed _ List.mem_cons_self
  | none =>
    rintro ⟨changes, hcheck, hnone, hkeep⟩
    obtain ⟨checked, later₃, ctx₃, rfl, hchecked, hpassed, hown₃, hattached₃, hstate₃, hwalks₃⟩ :=
      exists_visit hwalks₂ hdoes₂ rfl hattached₂ hcheck hnone
    have htool₃ : ctx₃.state.get? .tool = some tool := by
      rw [hstate₃]
      exact (hkeep .tool (by decide)).trans htool₂
    refine ⟨found, checked, later₃, ⟨parsed, rfl, ?_⟩, hfound, hpasses, hchecked, nofun, ?_⟩
    · simp only [List.forall_mem_cons]
      exact ⟨hown₁, hown₂, hown₃, List.forall_mem_nil _⟩
    · exact fun _ => ⟨hpassed, ctx₃, _, hattached₃, htool₃, hwalks₃.proceeds⟩

theorem exists_step_of_mem_table {hook : HookBinding (Handler X L)} (h : hook ∈ flow.table) :
    ∃ step, hook.handler = .call flow step ∧
      (step = .checkAuthorization → hook.stage = "checkToolAuthorization") ∧
      (step = .findTool → hook.stage = "findTool") := by
  obtain ⟨⟨stage, step⟩, hentry, rfl⟩ := List.mem_map.mp h
  refine ⟨step, rfl, ?_⟩
  simp only [List.mem_cons, List.not_mem_nil, or_false, Prod.mk.injEq] at hentry
  rcases hentry with ⟨rfl, rfl⟩ | ⟨rfl, rfl⟩ | ⟨rfl, rfl⟩ | ⟨rfl, rfl⟩ | ⟨rfl, rfl⟩ | ⟨rfl, rfl⟩ |
    ⟨rfl, rfl⟩ | ⟨rfl, rfl⟩ | ⟨rfl, rfl⟩ | ⟨rfl, rfl⟩ | ⟨rfl, rfl⟩ | ⟨rfl, rfl⟩ <;>
  simp [HookBinding.own]

theorem behaves_free (tool : Tool X (World L)) {good : HookBinding (Handler X L) → Prop}
    (hgood : ∀ hook ∈ tool.hooks, good (hook.mapHandler .custom)) : Behaves .free good tool where
  execute _ _ := Task.keeps_free _ fun _ => trivial
  hooks := hgood

/-- Of the flow's own hooks only the check of the caller demands an authorization. -/
theorem stage_of_unauthorized {firing : Firing (CallState X L) (Handler X L)}
    (hdoes : (toolPlatform behave).Does firing) (hown : firing.hook ∈ flow.table)
    {fault : FlowFault} (hresult : firing.result = .error (.fault fault))
    (hfault : Unauthorized fault) : firing.hook.stage = "checkToolAuthorization" := by
  obtain ⟨step, hstep, hcheck, -⟩ := exists_step_of_mem_table hown
  by_cases hne : step = .checkAuthorization
  · exact hcheck hne
  have haccepts : flow.Accepts step .free (fun _ => True) (fun _ => True)
      fun i => ∀ fault, i = .fault fault → ¬ Unauthorized fault := by
    constructor
    case insert => exact fun _ _ _ _ _ => trivial
    case erase => exact fun _ _ => trivial
    case found => exact fun _ _ _ _ _ => trivial
    case tool => exact fun _ _ tool _ => behaves_free tool fun _ _ => trivial
    case renderer => exact fun _ _ _ => Task.keeps_free _ fun _ => trivial
    case faults =>
      rintro fault hfault _ ⟨⟩
      exact hfault
    case refusals => exact fun heq => absurd heq hne
  have hinvoke : (toolPlatform behave).invoke firing.hook = flow.step step := by
    change firing.hook.handler.run behave = _
    rw [hstep]
    rfl
  have hkeeps := keeps_step haccepts firing.seen ⟨fun _ _ => trivial, trivial⟩
  rw [← hinvoke] at hkeeps
  have hmeets := (hdoes _ hkeeps).2
  rw [hresult] at hmeets
  exact absurd hfault (hmeets fault rfl)

/-- A tool without hooks leaves the rest of its call to the flow. -/
theorem own_of_hookless {tool : Tool X (World L)} (hhooks : tool.hooks = [])
    {ctx after : Context (CallState X L) (Handler X L)} (hattached : ctx.attached = [])
    (htool : ctx.state.get? .tool = some tool)
    {visits : List (Visit (CallState X L) (Handler X L))}
    (hproceeds : Proceeds (Instance.calling flow observers).hooks ctx visits after)
    (hdoes : ∀ visit ∈ visits, ∀ firing ∈ visit.firings, (toolPlatform behave).Does firing)
    (hstages : ∀ visit ∈ visits, visit.stage ≠ "findTool") :
    ∀ visit ∈ visits, ∀ firing ∈ visit.firings, firing.hook ∈ flow.table := by
  let good (hook : HookBinding (Handler X L)) : Prop :=
    hook ∈ flow.table ∧ hook.stage ≠ "findTool"
  let fits (state : CallState X L) : Prop :=
    ∀ tool : Tool X (World L), state.get? .tool = some tool → tool.hooks = []
  -- The tool is not looked up again, so that it stays a tool without hooks.
  have hupholds : (toolPlatform behave).Upholds (.ofStates .free good fits fun _ => True) := by
    refine Platform.upholds_ofStates fun hook hgood => ?_
    obtain ⟨hown, hstage⟩ := hgood
    obtain ⟨step, hstep, -, hfind⟩ := exists_step_of_mem_table hown
    have haccepts : flow.Accepts step .free good fits fun _ => True := by
      constructor
      case insert =>
        intro state hstate slot hslot v tool hget
        rw [Bag.get?_insert_of_ne _ _ (by rintro rfl; simp at hslot)] at hget
        exact hstate tool hget
      case erase =>
        intro state hstate tool hget
        rw [Bag.get?_erase_of_ne _ (by decide)] at hget
        exact hstate tool hget
      case found => exact fun heq => absurd (hfind heq) hstage
      case tool =>
        refine fun state hstate tool hget => behaves_free tool ?_
        rw [hstate tool hget]
        exact List.forall_mem_nil _
      case renderer => exact fun _ _ _ => Task.keeps_free _ fun _ => trivial
      case faults => exact fun _ _ => trivial
      case refusals => exact fun _ _ => trivial
    have hinvoke : (toolPlatform behave).invoke hook = flow.step step := by
      change hook.handler.run behave = _
      rw [hstep]
      rfl
    rw [hinvoke]
    exact keeps_step haccepts
  have hfine : (∀ hook ∈ ctx.attached, good hook) ∧ fits ctx.state := by
    refine ⟨by rw [hattached]; exact List.forall_mem_nil _, fun other hget => ?_⟩
    rw [htool] at hget
    exact Option.some.inj hget ▸ hhooks
  have hgood := Proceeds.good hupholds hproceeds hdoes
    (fun visit hvisit hook hhook hstage => ⟨hhook, hstage ▸ hstages visit hvisit⟩) hfine
  exact fun visit hvisit firing hfiring => (hgood visit hvisit firing hfiring).1

structure Decided (behave : X → ToolM X L Unit) (flow : CallFlow X L)
    (observers : List (Observer (World L))) (tool : Tool X (World L))
    (setting : Setting (CallState X L) (World L)) (refusal : Option FlowFault) : Prop where
  found : ∀ place, Passed "findTool"
    ((Instance.calling flow observers).record (toolPlatform behave) place setting)
  checked_iff : ∀ place, Passed "checkToolAuthorization"
    ((Instance.calling flow observers).record (toolPlatform behave) place setting) ↔ refusal = none
  refused : ∀ fault, refusal = some fault →
    (Instance.calling flow observers).outcome (toolPlatform behave) setting = .error fault
  raised : refusal = none → ∀ fault, Unauthorized fault →
    (Instance.calling flow observers).outcome (toolPlatform behave) setting = .error fault →
      tool.hooks ≠ [] ∧ ∃ firing, firing.hook ∉ flow.table ∧
        firing.result = .error (.fault fault) ∧ ∀ place, .fired firing ∈
          (Instance.calling flow observers).record (toolPlatform behave) place setting

theorem decided {setting : Setting (CallState X L) (World L)} {params : CallParams}
    (hparams : CallParams.ofEnvelope setting.input = .ok params) {tool : Tool X (World L)}
    (htool : flow.tools.find? params.name = some tool) :
    Decided behave flow observers tool setting
      (refusal? flow.auth (callerOf setting.deps) tool) := by
  obtain ⟨history, hrecord⟩ :=
    exists_history (toolPlatform behave) (Instance.calling flow observers) setting
  have hplan : (Instance.calling flow observers).plan.WellFormed := wellFormed_callPlan
  have hdoes : ∀ visit ∈ history.visits, ∀ firing ∈ visit.firings,
      (toolPlatform behave).Does firing := fun visit hvisit firing hfiring =>
    Instance.does_of_record_eq hrecord (List.mem_append_left _ hvisit) hfiring
  obtain ⟨found, checked, later, hchecked⟩ := exists_checked history hdoes hparams htool
  obtain ⟨parsed, hvisits, hown⟩ := hchecked.visits_eq
  have hfound : found ∈ history.visits ++ history.closing := by simp [hvisits]
  have hmem : checked ∈ history.visits ++ history.closing := by simp [hvisits]
  constructor
  case found =>
    intro place
    rw [hrecord, ← hchecked.found_stage, history.passed_iff hplan hfound]
    exact hchecked.found_passes
  case checked_iff =>
    intro place
    rw [hrecord, ← hchecked.checked_stage, history.passed_iff hplan hmem]
    cases hrefusal : refusal? flow.auth (callerOf setting.deps) tool with
    | none => exact ⟨fun _ => rfl, fun _ => (hchecked.admitted hrefusal).1⟩
    | some fault => exact ⟨fun h => absurd h (hchecked.refused fault hrefusal).1, nofun⟩
  case refused =>
    intro fault hrefusal
    rw [history.outcome_eq_walk hplan, (hchecked.refused fault hrefusal).2]
    rfl
  case raised =>
    intro hrefusal fault hfault houtcome
    obtain ⟨hpasses, ctx, after, hattached, hget, hproceeds⟩ := hchecked.admitted hrefusal
    have hnodup := history.stages_nodup hplan
    obtain ⟨visit, hvisit, firing, hfiring, hresult⟩ := history.exists_raised hplan houtcome
    have hforeign : firing.hook ∉ flow.table := by
      intro hmine
      have hstage := stage_of_unauthorized (hdoes visit hvisit firing hfiring) hmine hresult hfault
      have hvisit' := List.mem_append_left history.closing hvisit
      have hsame : visit = checked := by
        refine List.inj_on_of_nodup_map hnodup hvisit' hmem ?_
        rw [hchecked.checked_stage, ← hstage, history.stage_hook hvisit' hfiring]
      have hreturned := hpasses firing (hsame ▸ hfiring)
      rw [Firing.Passes, hresult] at hreturned
      cases hreturned
    refine ⟨fun hhooks => hforeign ?_, firing, hforeign, hresult, fun place => ?_⟩
    · have hlater : ∀ visit ∈ later, visit ∈ history.visits := fun visit hvisit => by
        simp [hvisits, hvisit]
      have hstages : ∀ visit ∈ later, visit.stage ≠ "findTool" := by
        intro other hother hstage
        rw [hvisits] at hnodup
        simp only [List.cons_append, List.map_cons, List.nodup_cons, List.mem_cons, List.map_append,
          List.mem_append, List.mem_map, not_or] at hnodup
        exact hnodup.2.1.2.1 ⟨other, hother, hstage.trans hchecked.found_stage.symm⟩
      have hrest := own_of_hookless hhooks hattached hget hproceeds
        (fun visit hvisit => hdoes visit (hlater visit hvisit)) hstages
      rw [hvisits] at hvisit
      have hsplit : visit ∈ [parsed, found, checked] ∨ visit ∈ later := by
        simpa [or_assoc] using hvisit
      exact hsplit.elim (fun h => hown visit h firing hfiring) fun h => hrest visit h firing hfiring
    · rw [hrecord]
      exact fired_mem_marksOf_iff.mpr ⟨visit, List.mem_append_left _ hvisit, hfiring⟩

end CallFlow

/-! ### Agreement -/

section Agreement

variable (behave : X → ToolM X L Unit) (tools : ToolRegistry X (World L)) (auth : AuthConfig)
  (lister caller : Instance ProviderKey (ProviderKey.Val X L) (World L) (Handler X L))

end Agreement

section

variable (behave : X → ToolM X L Unit) (flow : CallFlow X L)
  (observers : List (Observer (World L))) (hnames : flow.tools.names.Nodup)

include hnames

end

def Tool.mail : Tool Unit (World Unit) where
  definition := { ToolDefinition.start "send" "Sends a letter." with owner := some "mail" }
  execute _ _ := .done (.ok .null)
  hooks := []

def Providers.guarded : Providers Unit Unit :=
  (Bag.empty.insert .tools (ToolRegistry.ofOffers [.echo, .mail, .echo])).insert .auth
    (AuthConfig.ofMode .transparent)

end StagedFlow
