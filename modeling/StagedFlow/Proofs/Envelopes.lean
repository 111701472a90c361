import StagedFlow.Proofs.Answering
import StagedFlow.Proofs.Checks
import StagedFlow.Proofs.Entries

/-!
# What the tool flows take as input

Both tool flows read an envelope first: a method and parameters, with nothing else in it. The
envelope, and the parameters in it, may be written as an object or as a list, which gives the values
in their order and may leave out defaults at its end; a `null` counts as a value that was left out.
Every other input is refused: the state stays as it is, and no later stage is entered.
-/

namespace StagedFlow

variable {X L : Type}

theorem Json.mem_of_lookup {name : String} {v : Json} {entries : List (String × Json)}
    (h : lookup name entries = some v) : (name, v) ∈ entries := by
  induction entries with
  | nil => cases h
  | cons entry rest ih =>
    obtain ⟨key, w⟩ := entry
    rw [lookup] at h
    split at h
    case isTrue hkey =>
      cases h
      rw [beq_iff_eq.mp hkey]
      exact List.mem_cons_self
    case isFalse => exact List.mem_cons_of_mem _ (ih h)

theorem Check.string_eq_none_iff (v : Json) : Check.string v = none ↔ ∃ s, v = .str s := by
  cases v <;> simp [Check.string, Check.wrongType]

theorem Check.optional_eq_none_iff (check : Check) (v : Json) :
    check.optional v = none ↔ v = .null ∨ check v = none := by
  cases v <;> simp [Check.optional]

namespace CallParams

/-- What the parameters of a call may hold: a name, which is a string, arguments and metadata. -/
def Entry (entry : String × Json) : Prop :=
  (entry.1 = "name" ∧ ∃ s, entry.2 = .str s) ∨ entry.1 = "arguments" ∨ entry.1 = "_meta"

inductive Given : Json → CallParams → Prop
  | intro {v : Json} {entries : List (String × Json)} {name : String}
      (form : v.entries? ["name", "arguments", "_meta"] = some entries)
      (known : ∀ entry ∈ entries, Entry entry)
      (named : Json.lookup "name" entries = some (.str name)) :
      Given v ⟨name, Json.valueAt? "arguments" entries, Json.valueAt? "_meta" entries⟩

theorem strict_record : record.Strict :=
  ⟨rfl, by decide, by simp [record, Field.required, Field.defaulted]⟩

theorem accepts_iff (entries : List (String × Json)) :
    record.Accepts entries ↔
      (∀ entry ∈ entries, Entry entry) ∧ ∃ v, Json.lookup "name" entries = some v := by
  rw [Record.accepts_iff]
  simp only [record, Field.required, Field.defaulted, List.mem_cons, List.not_mem_nil, or_false,
    exists_eq_or_imp, exists_eq_left, Check.string_eq_none_iff, Check.anything, and_true, Entry,
    forall_eq_or_imp, forall_eq, eq_comm (a := "name"), eq_comm (a := "arguments"),
    eq_comm (a := "_meta"), forall_const, reduceCtorEq, false_imp_iff]

theorem read_eq_ok_iff (v : Json) (params : CallParams) :
    read v = .ok params ↔ Given v params := by
  simp only [read, map_eq_ok_iff, strict_record.read_eq_ok_iff, accepts_iff]
  constructor
  · rintro ⟨entries, ⟨form, known, w, hw⟩, rfl⟩
    obtain ⟨s, rfl⟩ : ∃ s, w = .str s := by
      simpa [Entry] using known _ (Json.mem_of_lookup hw)
    rw [ofFields, Json.stringAt, hw]
    exact .intro form known hw
  · rintro ⟨form, known, named⟩
    refine ⟨_, ⟨form, known, _, named⟩, ?_⟩
    rw [ofFields, Json.stringAt, named]
    rfl

end CallParams

namespace CallRequest

def Entry (entry : String × Json) : Prop :=
  (entry.1 = "method" ∧ ∃ s, entry.2 = .str s) ∨
    (entry.1 = "params" ∧ ∃ params, CallParams.Given entry.2 params)

inductive Given : Json → CallRequest → Prop
  | intro {v w : Json} {entries : List (String × Json)} {method : String} {params : CallParams}
      (form : v.entries? ["method", "params"] = some entries)
      (known : ∀ entry ∈ entries, Entry entry)
      (named : Json.lookup "method" entries = some (.str method))
      (there : Json.lookup "params" entries = some w) (given : CallParams.Given w params) :
      Given v ⟨method, params⟩

theorem strict_record : record.Strict := ⟨rfl, by decide, by simp [record, Field.required]⟩

theorem check_params_iff (v : Json) :
    CallParams.record.check v = none ↔ ∃ params, CallParams.Given v params := by
  simp only [Record.check_eq_none_iff, ← CallParams.read_eq_ok_iff, CallParams.read, map_eq_ok_iff]
  constructor
  · rintro ⟨entries, h⟩
    exact ⟨_, entries, h, rfl⟩
  · rintro ⟨-, entries, h, -⟩
    exact ⟨entries, h⟩

theorem accepts_iff (entries : List (String × Json)) :
    record.Accepts entries ↔
      (∀ entry ∈ entries, Entry entry) ∧ (∃ v, Json.lookup "method" entries = some v) ∧
        ∃ v, Json.lookup "params" entries = some v := by
  rw [Record.accepts_iff]
  simp only [record, Field.required, List.mem_cons, List.not_mem_nil, or_false,
    exists_eq_or_imp, exists_eq_left, Check.string_eq_none_iff, check_params_iff, Entry,
    forall_eq_or_imp, forall_eq, eq_comm (a := "method"), eq_comm (a := "params"), forall_const]

theorem read_eq_ok_iff (v : Json) (request : CallRequest) :
    read v = .ok request ↔ Given v request := by
  simp only [read, map_eq_ok_iff, strict_record.read_eq_ok_iff, accepts_iff]
  constructor
  · rintro ⟨entries, ⟨form, known, ⟨m, hm⟩, w, hw⟩, rfl⟩
    obtain ⟨s, rfl⟩ : ∃ s, m = .str s := by
      simpa [Entry] using known _ (Json.mem_of_lookup hm)
    obtain ⟨params, hparams⟩ : ∃ params, CallParams.Given w params := by
      simpa [Entry] using known _ (Json.mem_of_lookup hw)
    rw [ofFields, Json.stringAt, hm, hw, Option.getD_some,
      (CallParams.read_eq_ok_iff w params).mpr hparams]
    exact .intro form known hm hw hparams
  · rintro ⟨form, known, named, there, given⟩
    refine ⟨_, ⟨form, known, ⟨_, named⟩, _, there⟩, ?_⟩
    rw [ofFields, Json.stringAt, named, there, Option.getD_some,
      (CallParams.read_eq_ok_iff _ _).mpr given]
    rfl

end CallRequest

namespace ListParams

def Entry (entry : String × Json) : Prop :=
  entry.1 = "cursor" ∧ (entry.2 = .null ∨ ∃ s, entry.2 = .str s)

def Given (v : Json) : Prop :=
  ∃ entries, v.entries? ["cursor"] = some entries ∧ ∀ entry ∈ entries, Entry entry

theorem strict_record : record.Strict := ⟨rfl, by decide, by simp [record, Field.defaulted]⟩

theorem check_eq_none_iff (v : Json) : record.check v = none ↔ Given v := by
  simp only [Record.check_eq_none_iff, strict_record.read_eq_ok_iff, Record.accepts_iff, Given]
  simp only [record, Field.defaulted, List.mem_cons, List.not_mem_nil, or_false,
    exists_eq_left, Check.optional_eq_none_iff, Check.string_eq_none_iff, Entry, forall_eq,
    eq_comm (a := "cursor"), List.map_cons, List.map_nil, reduceCtorEq, false_imp_iff, and_true]

end ListParams

namespace ListRequest

def Entry (entry : String × Json) : Prop :=
  (entry.1 = "method" ∧ ∃ s, entry.2 = .str s) ∨
    (entry.1 = "params" ∧ (entry.2 = .null ∨ ListParams.Given entry.2))

inductive Given : Json → String → Prop
  | intro {v : Json} {entries : List (String × Json)} {method : String}
      (form : v.entries? ["method", "params"] = some entries)
      (known : ∀ entry ∈ entries, Entry entry)
      (named : Json.lookup "method" entries = some (.str method)) : Given v method

theorem strict_record : record.Strict :=
  ⟨rfl, by decide, by simp [record, Field.required, Field.defaulted]⟩

theorem accepts_iff (entries : List (String × Json)) :
    record.Accepts entries ↔
      (∀ entry ∈ entries, Entry entry) ∧ ∃ v, Json.lookup "method" entries = some v := by
  rw [Record.accepts_iff]
  simp only [record, Field.required, Field.defaulted, List.mem_cons, List.not_mem_nil, or_false,
    exists_eq_or_imp, exists_eq_left, Check.string_eq_none_iff, Check.optional_eq_none_iff,
    ListParams.check_eq_none_iff, Entry, forall_eq_or_imp, forall_eq, eq_comm (a := "method"),
    eq_comm (a := "params"), forall_const, reduceCtorEq, false_imp_iff, and_true]

theorem exists_read_iff (v : Json) (method : String) :
    (∃ request, read v = .ok request ∧ request.method = method) ↔ Given v method := by
  simp only [read, map_eq_ok_iff, strict_record.read_eq_ok_iff, accepts_iff]
  constructor
  · rintro ⟨_, ⟨entries, ⟨form, known, w, hw⟩, rfl⟩, rfl⟩
    obtain ⟨s, rfl⟩ : ∃ s, w = .str s := by
      simpa [Entry] using known _ (Json.mem_of_lookup hw)
    rw [ofFields, Json.stringAt, hw]
    exact .intro form known hw
  · rintro ⟨form, known, named⟩
    refine ⟨_, ⟨_, ⟨form, known, _, named⟩, rfl⟩, ?_⟩
    rw [ofFields, Json.stringAt, named]
    rfl

end ListRequest

/-! ### Hooks that refuse an input -/

section Refusing

variable {K : Type} {V : K → Type} {S W H : Type} {p : Platform S W H} {inst : Instance K V W H}
  {hook : HookBinding H} {setting : Setting S W} {fault : FlowFault}

theorem Fires.input_seen {hooks : List (HookBinding H)} {ctx after : Context S H}
    {firings : List (Firing S H)} {result : Except Interrupt Unit}
    (h : Fires hooks ctx firings result after) :
    ∀ firing ∈ firings, firing.seen.input = ctx.input := by
  induction h with
  | done => exact List.forall_mem_nil _
  | passed _ ih => exact List.forall_mem_cons.mpr ⟨rfl, ih⟩
  | stopped => exact List.forall_mem_singleton.mpr rfl

theorem Context.applyAll_eq_self {ctx : Context S H} {changes : List (Changes S H)}
    (h : ∀ c ∈ changes, c = .none) : ctx.applyAll changes = ctx := by
  induction changes with
  | nil => rfl
  | cons c rest ih =>
    obtain ⟨rfl, hrest⟩ := List.forall_mem_cons.mp h
    change (ctx.apply .none).applyAll rest = ctx
    rw [Context.apply_none, ih hrest]

structure Instance.Stops (p : Platform S W H) (inst : Instance K V W H) (setting : Setting S W)
    (hook : HookBinding H) (fault : FlowFault) (visit : Visit S H) : Prop where
  stage : visit.stage = hook.stage
  /-- No other stage is entered. -/
  record_eq : ∀ place, inst.record p place setting = inst.marksOf p setting [visit]
  stopped : ¬ visit.Passes
  refused : ∀ firing ∈ visit.firings, firing.hook = hook →
    firing.result = .error (.fault fault) ∧ firing.changes = .none
  /-- Unless another hook has ended the call before, the fault is what it ends with. -/
  failed : (∀ firing ∈ visit.firings, firing.hook ≠ hook → firing.Passes) →
    inst.outcome p setting = .error fault
  /-- Unless another hook has changed the state before, it is as the caller gave it. -/
  kept : (∀ firing ∈ visit.firings, firing.hook = hook) →
    (inst.closingOf p setting).value.state = setting.deps

theorem Proceeds.eq_of_nil {hooks : HookMap H} {ctx after : Context S H}
    (h : Proceeds hooks ctx [] after) : after = ctx := by
  cases h
  rfl

/-- A walk ends with its first stage if that does not pass. -/
theorem Walks.exists_stopped {plan : Plan} {hooks : HookMap H} {step : Phase × Stage}
    {rest : List (Phase × Stage)} {opened : List Bracket} {ctx : Context S H}
    {visits : List (Visit S H)} {walked : Instance.Walked S H}
    (h : Walks plan hooks (step :: rest) opened ctx visits walked)
    (hfails : ∀ visit ∈ visits, visit.step = step → ∀ after,
      ¬ visit.Happens hooks ctx (.ok ()) after) :
    ∃ visit interrupt, visits = [visit] ∧ visit.step = step ∧ walked.result = .error interrupt ∧
      visit.Happens hooks ctx (.error interrupt) walked.context := by
  cases h with
  | passed hvisit _ =>
    exact absurd hvisit (hfails _ List.mem_cons_self rfl _)
  | stopped hvisit => exact ⟨_, _, rfl, rfl, rfl, hvisit⟩

/-- The interrupt of hooks is the one that a hook of them has raised. -/
theorem exists_of_resultOf_eq_error {firings : List (Firing S H)} {interrupt : Interrupt}
    (h : resultOf firings = .error interrupt) :
    ∃ firing ∈ firings, firing.result = .error interrupt := by
  rw [resultOf] at h
  cases hfirst : firings.findSome? Firing.interrupt? with
  | none =>
    rw [hfirst] at h
    cases h
  | some found =>
    rw [hfirst] at h
    cases h
    obtain ⟨firing, hfiring, hraised⟩ := List.exists_of_findSome?_eq_some hfirst
    exact ⟨firing, hfiring, firing.interrupt?_eq_some_iff.mp hraised⟩

/-- A call stops at its first stage if a hook of the flow refuses the input there. -/
theorem exists_stops (hplan : inst.plan.WellFormed) {phase : Phase} {rest : List (Phase × Stage)}
    (hsteps : inst.plan.steps = (phase, hook.stage) :: rest)
    (hpending : inst.plan.pending [hook.stage] = []) (hbound : hook ∈ inst.hooks.bindings)
    (howner : hook.owner = none)
    (hinvoke : ∀ ctx : Context S H, ctx.input = setting.input →
      p.invoke hook ctx = .done (.error (.fault fault), .none)) :
    ∃ visit, inst.Stops p setting hook fault visit := by
  obtain ⟨history, hrecord⟩ := exists_history p inst setting
  have hrefused : ∀ visit ∈ history.visits, ∀ {result after},
      visit.Happens inst.hooks (inst.startContext p setting) result after →
      ∀ firing ∈ visit.firings, firing.hook = hook →
        firing.result = .error (.fault fault) ∧ firing.changes = .none := by
    rintro visit hvisit result after hhappens firing hfiring rfl
    have hdoes := Instance.does_of_record_eq hrecord (List.mem_append_left _ hvisit) hfiring
    have hmade := hdoes (· = (.error (.fault fault), .none)) (by
      rw [hinvoke firing.seen (Fires.input_seen hhappens firing hfiring)]
      exact .done rfl)
    exact Prod.mk.inj hmade
  -- the hook is bound for everyone, so the stage does not pass without it
  have hfails : ∀ visit ∈ history.visits, visit.step = (phase, hook.stage) → ∀ after,
      ¬ visit.Happens inst.hooks (inst.startContext p setting) (.ok ()) after := by
    intro visit hvisit hstep after hhappens
    have hpasses : visit.Passes := hhappens.passes_iff.mpr rfl
    have hfired : hook ∈ visit.firings.map Firing.hook := by
      rw [(Fires.upToStop hhappens).complete hpasses]
      refine ((inst.hooks.stablySorts_resolve _ _ _).mem_iff hook).mpr (List.mem_filter.mpr ?_)
      exact ⟨List.mem_append_left _ hbound,
        decide_eq_true ⟨(congrArg Prod.snd hstep).symm, .inl howner⟩⟩
    obtain ⟨firing, hfiring, heq⟩ := List.mem_map.mp hfired
    have hresult := (hrefused visit hvisit hhappens firing hfiring heq).1
    rw [hpasses firing hfiring] at hresult
    cases hresult
  obtain ⟨visit, interrupt, hvisits, hstep, hwalked, hhappens⟩ :=
    Walks.exists_stopped (hsteps ▸ history.walks) hfails
  have hstage : visit.stage = hook.stage := congrArg Prod.snd hstep
  have hrefused := hrefused visit (hvisits ▸ List.mem_singleton_self _) hhappens
  -- no bracket opens at the first stage, so there is nothing left to close
  have hclosing : history.closing = [] := by
    have hsteps := history.map_step_closing hplan
    rw [hvisits, List.map_singleton, hstage, hpending] at hsteps
    exact List.map_eq_nil_iff.mp hsteps
  have hend : (inst.closingOf p setting).value = (inst.walkOf p setting).value.context := by
    have hproceeds := history.closes.proceeds
    rw [hclosing] at hproceeds
    exact hproceeds.eq_of_nil
  refine ⟨visit, hstage, ?_, ?_, hrefused, fun hothers => ?_, fun honly => ?_⟩
  · rwa [hvisits, hclosing, List.append_nil] at hrecord
  · intro hpasses
    cases hhappens.passes_iff.mp hpasses
  · obtain ⟨firing, hfiring, hraised⟩ :=
      exists_of_resultOf_eq_error (Fires.result_eq hhappens).symm
    have hown : firing.hook = hook := by
      by_contra hne
      rw [hothers firing hfiring hne] at hraised
      cases hraised
    rw [(hrefused firing hfiring hown).1] at hraised
    rw [history.outcome_eq_walk hplan, hwalked, ← Except.error.inj hraised]
    rfl
  · have hchanges : ∀ c ∈ visit.changes, c = .none := by
      intro c hc
      obtain ⟨firing, hfiring, rfl⟩ := List.mem_map.mp hc
      exact (hrefused firing hfiring (honly firing hfiring)).2
    rw [hend, hhappens.after_eq, Context.applyAll_eq_self hchanges]
    rfl

/-- A hook of the flow takes an input that gives something, stores that, and refuses all others:
then the call comes to an end, and nothing is changed. -/
structure Instance.Screens {α : Type} (p : Platform S W H) (inst : Instance K V W H)
    (hook : HookBinding H) (gives : Json → α → Prop) (store : α → S → Option S) : Prop where
  bound : hook ∈ inst.hooks.bindings
  everyone : hook.owner = none
  takes : ∀ ctx a, gives ctx.input a →
    p.invoke hook ctx = .done (.ok (), { state := store a ctx.state })
  refuses : ∀ setting : Setting S W, (∀ a, ¬ gives setting.input a) →
    ∃ text visit, inst.Stops p setting hook (.invalidInput text) visit

theorem screens_of_invoke {α : Type} {gives : Json → α → Prop} {store : α → S → Option S}
    (hplan : inst.plan.WellFormed) {phase : Phase} {rest : List (Phase × Stage)}
    (hsteps : inst.plan.steps = (phase, hook.stage) :: rest)
    (hpending : inst.plan.pending [hook.stage] = []) (hbound : hook ∈ inst.hooks.bindings)
    (howner : hook.owner = none) {read : Json → Except FlowFault α}
    (hread : ∀ input a, read input = .ok a ↔ gives input a)
    (hfault : ∀ input fault, read input = .error fault → ∃ text, fault = .invalidInput text)
    (htakes : ∀ (ctx : Context S H) a, read ctx.input = .ok a →
      p.invoke hook ctx = .done (.ok (), { state := store a ctx.state }))
    (hrefuses : ∀ (ctx : Context S H) fault, read ctx.input = .error fault →
      p.invoke hook ctx = .done (.error (.fault fault), .none)) :
    inst.Screens p hook gives store where
  bound := hbound
  everyone := howner
  takes ctx a hgives := htakes ctx a ((hread _ _).mpr hgives)
  refuses setting hnone := by
    cases hinput : read setting.input with
    | ok a => exact absurd ((hread _ _).mp hinput) (hnone a)
    | error fault =>
      obtain ⟨text, rfl⟩ := hfault _ _ hinput
      exact ⟨text, exists_stops hplan hsteps hpending hbound howner fun ctx hctx =>
        hrefuses ctx _ (hctx ▸ hinput)⟩

end Refusing

/-! ### The first stages of the tool flows -/

theorem checkMethod_eq_ok_iff (wanted got : String) :
    checkMethod wanted got = .ok () ↔ got = wanted := by
  rw [checkMethod]
  split
  case isTrue h => exact iff_of_true rfl (beq_iff_eq.mp h)
  case isFalse h => exact iff_of_false (by simp) fun heq => h (beq_iff_eq.mpr heq)

theorem exists_of_checkMethod_eq_error {wanted got : String} {fault : FlowFault}
    (h : checkMethod wanted got = .error fault) : ∃ text, fault = .invalidInput text := by
  rw [checkMethod] at h
  split at h
  · cases h
  · exact ⟨_, (Except.error.inj h).symm⟩

theorem CallParams.ofEnvelope_eq_ok_iff (input : Json) (params : CallParams) :
    ofEnvelope input = .ok params ↔ CallRequest.Given input ⟨"tools/call", params⟩ := by
  rw [ofEnvelope, ← CallRequest.read_eq_ok_iff]
  cases CallRequest.read input with
  | error fault => exact iff_of_false (by rintro ⟨⟩) (by rintro ⟨⟩)
  | ok request =>
    obtain ⟨method, given⟩ := request
    change (checkMethod "tools/call" method >>= fun _ => .ok given) = _ ↔ _
    have hmethod := checkMethod_eq_ok_iff "tools/call" method
    cases hcheck : checkMethod "tools/call" method with
    | error fault =>
      rw [hcheck] at hmethod
      refine iff_of_false (by rintro ⟨⟩) fun h => ?_
      cases h
      cases hmethod.mpr rfl
    | ok _ =>
      obtain rfl := hmethod.mp hcheck
      simp [bind, Except.bind]

theorem CallParams.exists_of_ofEnvelope_eq_error {input : Json} {fault : FlowFault}
    (h : ofEnvelope input = .error fault) : ∃ text, fault = .invalidInput text := by
  rw [ofEnvelope] at h
  cases hread : CallRequest.read input with
  | error other =>
    rw [hread] at h
    exact ⟨_, (Except.error.inj h).symm⟩
  | ok request =>
    rw [hread] at h
    change (checkMethod "tools/call" request.method >>= fun _ => .ok request.params) = _ at h
    cases hcheck : checkMethod "tools/call" request.method with
    | error other =>
      rw [hcheck] at h
      exact exists_of_checkMethod_eq_error (hcheck.trans (congrArg _ (Except.error.inj h)))
    | ok _ =>
      rw [hcheck] at h
      cases h

theorem ListRequest.checkEnvelope_eq_ok_iff (input : Json) :
    checkEnvelope input = .ok () ↔ Given input "tools/list" := by
  rw [checkEnvelope, ← exists_read_iff]
  cases read input with
  | error fault => exact iff_of_false (by rintro ⟨⟩) (by rintro ⟨_, ⟨⟩, -⟩)
  | ok request =>
    refine (checkMethod_eq_ok_iff "tools/list" request.method).trans ?_
    simp

theorem ListRequest.exists_of_checkEnvelope_eq_error {input : Json} {fault : FlowFault}
    (h : checkEnvelope input = .error fault) : ∃ text, fault = .invalidInput text := by
  rw [checkEnvelope] at h
  cases hread : read input with
  | error other =>
    rw [hread] at h
    exact ⟨_, (Except.error.inj h).symm⟩
  | ok request =>
    rw [hread] at h
    exact exists_of_checkMethod_eq_error h

theorem ListFlow.parseInput_eq_of_error {flow : ListFlow X L}
    {ctx : Context (CallState X L) (Handler X L)} {fault : FlowFault}
    (h : ListRequest.checkEnvelope ctx.input = .error fault) :
    flow.step .parseInput ctx = .done (.error (.fault fault), .none) := by
  refine (HookM.bind_context _ ctx).trans ?_
  rw [h]
  rfl

section Flows

variable {definition : ServedFlow X L} {providers : Providers X L}
  {registry : HookRegistry (World L) (Handler X L)}
  {candidate : Candidate ProviderKey (ProviderKey.Val X L) (World L) (Handler X L)}

/-- The own hooks of a flow are bound to it. -/
theorem mem_bindings_of_instantiate
    (hmade : definition.instantiate providers registry = .ok candidate)
    {prepared : PreparedFlow (World L) (Handler X L)}
    (hprepare : definition.prepare providers = .ok prepared) {hook : HookBinding (Handler X L)}
    (hown : hook ∈ prepared.table) : hook ∈ candidate.inst.hooks.bindings := by
  obtain ⟨found, map, hfound, hbuild, rfl⟩ := Definition.instantiate_eq_ok_iff.mp hmade
  cases hprepare.symm.trans hfound
  change hook ∈ map.bindings
  rw [HookMap.bindings_of_build hbuild]
  exact List.mem_append_left _ hown

/-- A tool flow is made from tools. -/
theorem exists_tools_of_instantiate
    (hmade : definition.instantiate providers registry = .ok candidate)
    (hdefinition : definition = callFlow ∨ definition = listFlow) :
    ∃ tools, providers.get? .tools = some tools := by
  obtain ⟨found, -, hfound, -⟩ := Definition.instantiate_eq_ok_iff.mp hmade
  cases htools : providers.get? .tools with
  | some tools => exact ⟨tools, rfl⟩
  | none =>
    have hmissing : Providers.tools providers = .error (.internal (Providers.missing .tools)) := by
      rw [Providers.tools, htools]
    rcases hdefinition with rfl | rfl
    · change (Providers.tools providers >>= _) = _ at hfound
      rw [hmissing] at hfound
      cases hfound
    · change (Providers.tools providers >>= _) = _ at hfound
      rw [hmissing] at hfound
      cases hfound

/-- **Envelopes are read strictly, but for their form.** Whatever hooks others have put on the two
tool flows, their first stage takes an input exactly if it is an envelope with the right method and
with nothing in it that does not belong there, be it written as an object or as a list. A call of a
tool then keeps its parameters, where a `null` counts as left out, and a listing keeps nothing.
Every other input is refused: the state is left as it is, and no later stage is entered. -/
theorem exists_screens (behave : X → ToolM X L Unit) (providers : Providers X L)
    (registry : HookRegistry (World L) (Handler X L)) :
    (∀ candidate, callFlow.instantiate providers registry = .ok candidate →
      ∃ flow : CallFlow X L, candidate.inst.Screens (toolPlatform behave)
        (.own "parseInput" (.call flow .parseInput))
        (fun input params => CallRequest.Given input ⟨"tools/call", params⟩)
        (fun params state => some (state.insert .params params))) ∧
    ∀ candidate, listFlow.instantiate providers registry = .ok candidate →
      ∃ flow : ListFlow X L, candidate.inst.Screens (toolPlatform behave)
        (.own "parseInput" (.list flow .parseInput))
        (fun input (_ : Unit) => ListRequest.Given input "tools/list") (fun _ _ => none) := by
  constructor
  · intro candidate hmade
    obtain ⟨tools, htools⟩ := exists_tools_of_instantiate hmade (.inl rfl)
    have hbound := mem_bindings_of_instantiate hmade (CallFlow.prepare_callFlow htools)
      List.mem_cons_self
    obtain ⟨_, _, -, -, rfl⟩ := Definition.instantiate_eq_ok_iff.mp hmade
    let flow : CallFlow X L := ⟨tools, Providers.auth providers, providers.get? .renderer⟩
    exact ⟨flow, screens_of_invoke CallFlow.wellFormed_callPlan rfl rfl hbound rfl
      CallParams.ofEnvelope_eq_ok_iff (fun _ _ => CallParams.exists_of_ofEnvelope_eq_error)
      (fun ctx _ h => (CallFlow.parseInput_eq flow ctx).trans (by rw [h]))
      (fun ctx _ h => (CallFlow.parseInput_eq flow ctx).trans (by rw [h]))⟩
  · intro candidate hmade
    obtain ⟨tools, htools⟩ := exists_tools_of_instantiate hmade (.inr rfl)
    have hbound := mem_bindings_of_instantiate hmade (ListFlow.prepare_listFlow htools)
      List.mem_cons_self
    have hplan : listPlan.WellFormed := (Plan.validate_eq_ok_iff listPlan).mp (by decide)
    obtain ⟨_, _, -, -, rfl⟩ := Definition.instantiate_eq_ok_iff.mp hmade
    let flow : ListFlow X L := ⟨tools, Providers.auth providers⟩
    exact ⟨flow, screens_of_invoke hplan rfl rfl hbound rfl
      (fun input _ => ListRequest.checkEnvelope_eq_ok_iff input)
      (fun _ _ => ListRequest.exists_of_checkEnvelope_eq_error)
      (fun ctx _ h => show flow.step .parseInput ctx = _ from ListFlow.parseInput_eq h)
      (fun ctx _ h => show flow.step .parseInput ctx = _ from ListFlow.parseInput_eq_of_error h)⟩

end Flows

/-- A hook of others that runs after the flow's own one and would drop the state of a call. -/
def HookRegistry.dropping : HookRegistry (World Unit) (Handler Bool Unit) :=
  ⟨[(callToken.name, ⟨"drop", "parseInput", 1, none, .custom true⟩)], []⟩

/-- Parameters that hold a field of their own are refused, and the hook behind is not reached. -/
theorem exists_screens_dropping :
    ∃ candidate, callFlow.instantiate (Bag.empty.insert .tools ToolRegistry.empty) .dropping =
        .ok candidate ∧
      (∃ flow : CallFlow Bool Unit, candidate.inst.Screens (toolPlatform tamper)
        (.own "parseInput" (.call flow .parseInput))
        (fun input params => CallRequest.Given input ⟨"tools/call", params⟩)
        (fun params state => some (state.insert .params params))) ∧
      ∀ params, ¬ CallRequest.Given (.obj [("method", .str "tools/call"),
        ("params", .obj [("name", .str "echo"), ("more", .null)])]) ⟨"tools/call", params⟩ := by
  have hmade : callFlow.instantiate (Bag.empty.insert .tools ToolRegistry.empty) .dropping =
      .ok _ := rfl
  refine ⟨_, hmade, (exists_screens tamper _ .dropping).1 _ hmade, fun params hgiven => ?_⟩
  have hread := (CallRequest.read_eq_ok_iff _ _).mpr hgiven
  cases hread

/-- Lists are taken for envelopes: an envelope without a key in it is accepted by both flows. -/
theorem lists_are_taken :
    CallParams.ofEnvelope (.arr [.str "tools/call", .arr [.str "echo"]]) =
        .ok ⟨"echo", none, none⟩ ∧
      ListRequest.checkEnvelope (.arr [.str "tools/list"]) = .ok () :=
  ⟨rfl, rfl⟩

end StagedFlow
