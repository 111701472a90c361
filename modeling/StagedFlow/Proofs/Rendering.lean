import StagedFlow.Proofs.Calling
import StagedFlow.Proofs.ReadBack

/-!
# Rendering is soft

A renderer is asked for metadata when a call has been served: the tool has run, and its output is
checked. Up to then a call is the same with and without it, and what is left after it is to put the
metadata into the result, or to leave the result as it is. So a renderer decides neither whether a
call succeeds nor what it returns as structured content.
-/

namespace StagedFlow

variable {X L : Type}

/-- What some metadata make of an output: they are added to it, and take the place of the text of
structured content. -/
structure Json.Adorned (metadata : List (String × Json)) (plain adorned : Json) : Prop where
  isError : adorned.field? "isError" = plain.field? "isError"
  structured : adorned.field? "structuredContent" = plain.field? "structuredContent"
  /-- Metadata are a map, so that no name comes twice. -/
  metadata : (metadata.map Prod.fst).Nodup →
    adorned.field? "_meta" = if metadata.isEmpty then none else some (.obj metadata)
  content : adorned.field? "content" =
    if (plain.field? "structuredContent").isSome then some (.arr []) else plain.field? "content"

theorem Json.put_of_notMem {name : String} (v : Json) {fields : List (String × Json)}
    (h : name ∉ fields.map Prod.fst) : put name v fields = fields ++ [(name, v)] := by
  induction fields with
  | nil => rfl
  | cons field rest ih =>
    obtain ⟨key, w⟩ := field
    obtain ⟨hkey, hrest⟩ : name ≠ key ∧ name ∉ rest.map Prod.fst := by simpa using h
    rw [put, if_neg (by simpa using hkey.symm), ih hrest, List.cons_append]

/-- Putting fields of distinct names behind others is appending them. -/
theorem Json.foldl_put_eq_append {before fields : List (String × Json)}
    (h : ((before ++ fields).map Prod.fst).Nodup) :
    fields.foldl (fun fields (name, v) => put name v fields) before = before ++ fields := by
  induction fields generalizing before with
  | nil => exact (List.append_nil before).symm
  | cons field rest ih =>
    obtain ⟨name, v⟩ := field
    have hfresh : name ∉ before.map Prod.fst := by
      rw [List.map_append, List.map_cons] at h
      exact fun hmem => (List.disjoint_of_nodup_append h) hmem List.mem_cons_self
    rw [List.append_cons] at h ⊢
    rw [← ih h, List.foldl_cons]
    dsimp only
    rw [put_of_notMem v hfresh]

theorem CallResult.field?_toJson (result : CallResult) (name : String) :
    result.toJson.field? name = Json.lookup name result.entries := by
  rw [toJson_eq, Json.field?]

/-- A rendering adorns a result that has no metadata yet. -/
theorem CallResult.adorned_applyRender {result : CallResult} (hplain : result.metadata = [])
    (metadata : List (String × Json)) :
    Json.Adorned metadata result.toJson (result.applyRender metadata).toJson := by
  obtain ⟨hcontent, hstructured, -, hisError⟩ := result.lookup_entries
  obtain ⟨hcontent', hstructured', hmetadata', hisError'⟩ :=
    (result.applyRender metadata).lookup_entries
  constructor <;> simp only [field?_toJson]
  case isError => rw [hisError', hisError]; rfl
  case structured => rw [hstructured', hstructured]; rfl
  case metadata =>
    intro hnodup
    have hfold : (result.applyRender metadata).metadata = metadata := by
      rw [applyRender, hplain]
      exact Json.foldl_put_eq_append hnodup
    rw [hmetadata', hfold]
  case content =>
    rw [hcontent', hstructured, hcontent, applyRender]
    cases result.structured <;> rfl

namespace CallFlow

/-- A tool of the registry was run at a moment with arguments that meet its input schema, and
answered with an output that meets its output schema. -/
structure Served.Sound (tools : ToolRegistry X (World L)) (others : List (World L → World L))
    (w : World L) (served : Served X L) : Prop where
  registered : served.tool ∈ tools.tools
  valid : served.tool.inputViolations served.arguments = []
  ran : ∃ context,
    ((served.tool.execute served.arguments context).amid others w).value = .ok served.output
  checked : served.tool.outputViolations served.output = []

variable {tools : ToolRegistry X (World L)} {auth : AuthConfig} {call : String}
  {deps : CallState X L} {input : Json} {others : List (World L → World L)} {w : World L}
  {served : Served X L}

theorem checked_eq_ok_iff {tool : Tool X (World L)} {arguments : Json}
    {answer : Except ToolFault Json} :
    checked tool arguments answer = .ok served ↔
      ∃ output, answer = .ok output ∧ tool.outputViolations output = [] ∧
        served = ⟨tool, arguments, output⟩ := by
  cases answer with
  | error fault =>
    constructor
    · intro h
      cases h
    · rintro ⟨output, hanswer, -⟩
      cases hanswer
  | ok output =>
    rw [checked]
    by_cases hviolations : tool.outputViolations output = []
    · rw [if_neg (not_not.mpr hviolations)]
      constructor
      · intro h
        cases h
        exact ⟨output, rfl, hviolations, rfl⟩
      · rintro ⟨_, ⟨⟩, -, rfl⟩
        rfl
    · rw [if_pos hviolations]
      constructor
      · intro h
        cases h
      · rintro ⟨_, ⟨⟩, hchecked, -⟩
        exact absurd hchecked hviolations

theorem sound_of_serveFound {caller : Option AuthInfo} {tool : Tool X (World L)}
    {params : CallParams} (htool : tool ∈ tools.tools)
    (h : ((serveFound auth call caller tool params).amid others w).value = .ok served) :
    served.Sound tools others w := by
  unfold serveFound at h
  cases hrefusal : refusal? auth caller tool with
  | some fault =>
    rw [hrefusal] at h
    cases h
  | none =>
    rw [hrefusal] at h
    dsimp only at h
    by_cases hviolations : tool.inputViolations (argumentsOf params.arguments) ≠ []
    · rw [if_pos hviolations] at h
      cases h
    · rw [if_neg hviolations, Task.amid_map] at h
      obtain ⟨output, hran, hchecked, rfl⟩ := checked_eq_ok_iff.mp h
      exact ⟨htool, not_not.mp hviolations, ⟨_, hran⟩, hchecked⟩

/-- Whatever is served is sound. -/
theorem sound_of_serve (h : ((serve tools auth call deps input).amid others w).value = .ok served) :
    served.Sound tools others w := by
  unfold serve at h
  cases hread : CallRequest.read input with
  | error fault =>
    rw [hread] at h
    cases h
  | ok request =>
    simp only [hread] at h
    by_cases hmethod : request.method ≠ "tools/call"
    · rw [if_pos hmethod] at h
      cases h
    · rw [if_neg hmethod] at h
      cases hfound : tools.find? request.params.name with
      | none =>
        rw [hfound] at h
        cases h
      | some tool =>
        rw [hfound] at h
        exact sound_of_serveFound (List.mem_of_find?_eq_some hfound) h

theorem value_serving (tools : ToolRegistry X (World L)) (auth : AuthConfig)
    (observers : List (Observer (World L))) (early late : List FlowEvent) (call : String)
    (deps : CallState X L) (input : Json) (others : List (World L → World L)) (w : World L) :
    ((serving tools auth observers early late call deps input).amid others w).value =
      ((serve tools auth call deps input).amid others
        (Observer.tell observers early w.countCall)).value := by
  simp only [serving, Task.bind_eq, Task.amid_bind, Task.amid_change]
  rfl

/-! ### Endings with and without a renderer -/

/-- How a call ends without a renderer and with one, from where it was served or refused. What the
end of a call does to the world is `leave`. -/
inductive EndsSoftly (renderer : Renderer (World L)) (deps : CallState X L)
    (leave : Except FlowFault Outcome → World L → World L) :
    Task.Ending (World L) (Except FlowFault (Served X L)) →
      Task.Ending (World L) (Except FlowFault Outcome) →
        Task.Ending (World L) (Except FlowFault Outcome) → Prop where
  /-- A refused call is not rendered. -/
  | refused {fault : FlowFault} {others : List (World L → World L)} {w : World L} :
    EndsSoftly renderer deps leave ⟨.error fault, others, w⟩
      ⟨.error fault, others, leave (.error fault) w⟩ ⟨.error fault, others, leave (.error fault) w⟩
  /-- Nor is the result of a tool without a render contract. -/
  | unasked {served : Served X L} {others : List (World L → World L)} {w : World L}
      {outcome : Except FlowFault Outcome} (hrender : served.tool.definition.render = none)
      (hplain : outcome = plainly (.ok served)) :
    EndsSoftly renderer deps leave ⟨.ok served, others, w⟩ ⟨outcome, others, leave outcome w⟩
      ⟨outcome, others, leave outcome w⟩
  /-- A renderer that fails changes nothing. -/
  | failed {served : Served X L} {others later : List (World L → World L)} {w w' : World L}
      {outcome : Except FlowFault Outcome} {config : RenderConfig} {fault : RenderFault}
      (hrender : served.tool.definition.render = some config)
      (hanswer : (renderer.render (served.request config deps)).amid others w =
        ⟨.error fault, later, w'⟩)
      (hplain : outcome = plainly (.ok served)) :
    EndsSoftly renderer deps leave ⟨.ok served, others, w⟩ ⟨outcome, others, leave outcome w⟩
      ⟨outcome, later, leave outcome w'⟩
  | rendered {served : Served X L} {others later : List (World L → World L)} {w w' : World L}
      {plain adorned : Json} {config : RenderConfig} {metadata : List (String × Json)}
      (hrender : served.tool.definition.render = some config)
      (hanswer : (renderer.render (served.request config deps)).amid others w =
        ⟨.ok metadata, later, w'⟩)
      (hplain : .ok (.completed (some plain)) = plainly (.ok served))
      (hadorned : Json.Adorned metadata plain adorned) :
    EndsSoftly renderer deps leave ⟨.ok served, others, w⟩
      ⟨.ok (.completed (some plain)), others, leave (.ok (.completed (some plain))) w⟩
      ⟨.ok (.completed (some adorned)), later, leave (.ok (.completed (some adorned))) w'⟩

def leaving (observers : List (Observer (World L))) (call : String) (deps : CallState X L)
    (outcome : Except FlowFault Outcome) (w : World L) : World L :=
  Admission.retire deps
    (Observer.emit observers (Instance.finalEvent callToken.name call outcome) w)

theorem Served.result_of_render_none (hrender : served.tool.definition.render = none)
    (renderer : Renderer (World L)) (deps : CallState X L) :
    served.result (some renderer) deps = .done (plainResult served.tool served.output) := by
  simp only [result, hrender]

theorem Served.result_of_render_some {config : RenderConfig}
    (hrender : served.tool.definition.render = some config) (renderer : Renderer (World L))
    (deps : CallState X L) :
    served.result (some renderer) deps =
      (renderer.render (served.request config deps)).map fun answer =>
        match answer with
        | .ok metadata => (plainResult served.tool served.output).applyRender metadata
        | .error _ => plainResult served.tool served.output := by
  unfold result
  generalize served.tool.definition.render = render at hrender
  cases hrender
  rfl

theorem metadata_plainResult (tool : Tool X (World L)) (raw : Json) :
    (plainResult tool raw).metadata = [] := by
  rw [plainResult]
  cases tool.definition.outputSchema <;> rfl

/-- What is served is presented with a renderer as softly as that. -/
theorem endsSoftly_presenting (behave : X → ToolM X L Unit)
    (observers : List (Observer (World L))) (call : String) (deps : CallState X L)
    (renderer : Renderer (World L))
    (reached : Task.Ending (World L) (Except FlowFault (Served X L))) :
    EndsSoftly renderer deps (leaving observers call deps) reached
      ((presenting behave observers call deps none reached.value).amid reached.others reached.world)
      ((presenting behave observers call deps (some renderer) reached.value).amid
        reached.others reached.world) := by
  obtain ⟨result, others, w⟩ := reached
  cases result with
  | error fault => exact .refused
  | ok served =>
    rw [presenting, present_none]
    cases hrender : served.tool.definition.render with
    | none =>
      rw [presenting, present, Served.result_of_render_none hrender]
      exact .unasked hrender rfl
    | some config =>
      rw [presenting, present, Served.result_of_render_some hrender]
      simp only [Task.amid_bind, Task.amid_map]
      cases hanswer : (renderer.render (served.request config deps)).amid others w with
      | mk answer later w' =>
        cases answer with
        | error fault => exact .failed hrender hanswer rfl
        | ok metadata =>
          exact .rendered hrender hanswer rfl
            (CallResult.adorned_applyRender (metadata_plainResult _ _) metadata)

/-- Once it was served, a call ends softly. -/
theorem exists_endsSoftly (behave : X → ToolM X L Unit) (auth : AuthConfig)
    (observers : List (Observer (World L))) (renderer : Renderer (World L))
    (hhooks : ∀ tool ∈ tools.tools, tool.hooks = [])
    (setting : Setting (CallState X L) (World L)) :
    ∃ early late,
      (∀ served, ((serving tools auth observers early late setting.world.nextId setting.deps
          setting.input).amid setting.others setting.world).value = .ok served →
        served.Sound tools setting.others
          (Observer.tell observers early setting.world.countCall)) ∧
      EndsSoftly renderer setting.deps (leaving observers setting.world.nextId setting.deps)
        ((serving tools auth observers early late setting.world.nextId setting.deps
          setting.input).amid setting.others setting.world)
        (((Instance.calling ⟨tools, auth, none⟩ observers).run (toolPlatform behave)
          setting.input setting.deps).amid setting.others setting.world)
        (((Instance.calling ⟨tools, auth, some renderer⟩ observers).run (toolPlatform behave)
          setting.input setting.deps).amid setting.others setting.world) := by
  obtain ⟨early, late, hrun⟩ := exists_amid_run_eq behave auth observers hhooks setting
  refine ⟨early, late, fun served hserved => sound_of_serve ((value_serving ..).symm.trans hserved),
    ?_⟩
  rw [hrun none, hrun (some renderer), Task.amid_bind, Task.amid_bind]
  exact endsSoftly_presenting behave observers _ setting.deps renderer _

end CallFlow

/-- **Rendering is soft.** Take a server without hooks of others and hooks of tools, once without a
renderer and once with one. Both serve every call in the same way: a tool runs once on arguments
that meet its schema, or not at all. Then both end with the same fault, or both complete. If the
tool asks for it, the renderer is asked once, with these arguments and the output, which was
checked; if it answers with metadata, they adorn the output, and otherwise nothing changes. -/
theorem exists_soft_candidates (behave : X → ToolM X L Unit) (providers : Providers X L)
    (registry : HookRegistry (World L) (Handler X L)) (tools : ToolRegistry X (World L))
    (renderer : Renderer (World L)) (htools : providers.get? .tools = some tools)
    (hregistry : registry.hooksFor callToken.name = [])
    (hhooks : ∀ tool ∈ tools.tools, tool.hooks = []) :
    ∃ plain rendering,
      callFlow.instantiate (providers.erase .renderer) registry = .ok plain ∧
      callFlow.instantiate (providers.insert .renderer renderer) registry = .ok rendering ∧
      ∀ setting : Setting (CallState X L) (World L), ∃ early late,
        let reached := (CallFlow.serving tools (Providers.auth providers) registry.observers early
          late setting.world.nextId setting.deps setting.input).amid setting.others setting.world
        (∀ served, reached.value = .ok served → served.Sound tools setting.others
          (Observer.tell registry.observers early setting.world.countCall)) ∧
        CallFlow.EndsSoftly renderer setting.deps
          (CallFlow.leaving registry.observers setting.world.nextId setting.deps) reached
          ((plain.inst.run (toolPlatform behave) setting.input setting.deps).amid
            setting.others setting.world)
          ((rendering.inst.run (toolPlatform behave) setting.input setting.deps).amid
            setting.others setting.world) := by
  have herase : ∀ key, key ≠ .renderer →
      (providers.erase .renderer).get? key = providers.get? key := fun _ hne =>
    Bag.get?_erase_of_ne providers hne
  have hinsert : ∀ key, key ≠ .renderer →
      (providers.insert .renderer renderer).get? key = providers.get? key := fun _ hne =>
    Bag.get?_insert_of_ne providers _ hne
  have hself : (providers.insert .renderer renderer).get? .renderer = some renderer :=
    Bag.get?_insert_self providers _ _
  obtain ⟨ready, hplain⟩ := CallFlow.instantiate_callFlow (providers.erase .renderer) registry
    ((herase .tools (by decide)).trans htools) hregistry
  obtain ⟨ready', hrendering⟩ := CallFlow.instantiate_callFlow
    (providers.insert .renderer renderer) registry
    ((hinsert .tools (by decide)).trans htools) hregistry
  rw [Providers.auth, herase .auth (by decide), Bag.get?_erase_self] at hplain
  rw [Providers.auth, hinsert .auth (by decide), hself] at hrendering
  exact ⟨_, _, hplain, hrendering, CallFlow.exists_endsSoftly behave (Providers.auth providers)
    registry.observers renderer hhooks⟩

def Tool.card : Tool Unit (World Unit) :=
  { Tool.echo with
    definition := { Tool.echo.definition with
      name := "card"
      render := some (.html "<b>\x7b\x7bcity\x7d\x7d</b>") } }

def Providers.cards : Providers Unit Unit := Bag.empty.insert .tools ⟨[Tool.echo, Tool.card]⟩

theorem exists_soft_candidates_cards :
    Providers.cards.get? .tools = some (⟨[.echo, .card]⟩ : ToolRegistry Unit (World Unit)) ∧
      (HookRegistry.empty : HookRegistry (World Unit) (Handler Unit Unit)).hooksFor
        callToken.name = [] ∧
      (∀ tool ∈ [Tool.echo, Tool.card], tool.hooks = []) ∧
      ∃ plain rendering,
        callFlow.instantiate (Providers.cards.erase .renderer) .empty = .ok plain ∧
        callFlow.instantiate (Providers.cards.insert .renderer Renderer.template) .empty =
          .ok rendering ∧
        ∀ setting : Setting (CallState Unit Unit) (World Unit), ∃ early late,
          let reached := (CallFlow.serving ⟨[.echo, .card]⟩ (Providers.auth .cards) [] early late
            setting.world.nextId setting.deps setting.input).amid setting.others setting.world
          (∀ served, reached.value = .ok served → served.Sound ⟨[.echo, .card]⟩ setting.others
            (Observer.tell [] early setting.world.countCall)) ∧
          CallFlow.EndsSoftly .template setting.deps
            (CallFlow.leaving [] setting.world.nextId setting.deps) reached
            ((plain.inst.run (toolPlatform fun _ => pure ()) setting.input setting.deps).amid
              setting.others setting.world)
            ((rendering.inst.run (toolPlatform fun _ => pure ()) setting.input setting.deps).amid
              setting.others setting.world) := by
  have hhooks : ∀ tool ∈ [Tool.echo, Tool.card], tool.hooks = [] := by
    simp [Tool.echo, Tool.card]
  exact ⟨rfl, rfl, hhooks,
    exists_soft_candidates _ .cards .empty ⟨[.echo, .card]⟩ .template rfl rfl hhooks⟩

end StagedFlow
