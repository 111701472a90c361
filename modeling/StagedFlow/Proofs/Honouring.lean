import StagedFlow.Proofs.Admitted
import StagedFlow.Proofs.Conforming
import StagedFlow.Proofs.Filling
import StagedFlow.Proofs.Hosting
import StagedFlow.Proofs.Rendering

/-!
# Tools that honour their schemas

A typed tool honours its schemas if it reads all that its input schema takes, and writes nothing but
what its output schema takes. Once its arguments have passed their check, such a tool can only fail
by its own answer. The tools of the demo honour their schemas, and this is followed here through
their calls on a server: up to the count of the words, and up to the note as it is shown. A template
that asks for fields which every output has is always filled.
-/

namespace StagedFlow

variable {X L : Type}

def Tool.Truthful {W : Type} (tool : Tool X W) : Prop :=
  ∀ arguments call output, (tool.execute arguments call).CanEnd Task.Anywhere (.ok output) →
    tool.outputViolations output = []

namespace CallFlow

variable {tools : ToolRegistry X (World L)} {auth : AuthConfig} {caller : Option AuthInfo}
  {call name : String} {deps : CallState X L} {input : Json} {tool : Tool X (World L)}
  {params : CallParams} {P : World L → Prop} {renderer : Option (Renderer (World L))}

theorem refusal?_ne_invalidOutput : refusal? auth caller tool ≠ some (.invalidOutput name) := by
  unfold refusal?
  cases caller with
  | none => exact nofun
  | some info =>
    cases tool.owner with
    | none => exact nofun
    | some app =>
      dsimp only
      split <;> exact nofun

theorem welcome_eq_of_found (hread : CallParams.ofEnvelope input = .ok params)
    (hfound : tools.find? params.name = some tool) :
    welcome tools auth caller input =
      match refusal? auth caller tool with
      | some fault => .error fault
      | none => .ok (tool, params) := by
  unfold welcome
  cases hrefusal : refusal? auth caller tool with
  | some fault => simp only [hread, hfound, hrefusal]
  | none => simp only [hread, hfound, hrefusal]

theorem find?_of_welcome (h : welcome tools auth caller input = .ok (tool, params)) :
    tools.find? params.name = some tool := by
  unfold welcome at h
  cases hread : CallParams.ofEnvelope input with
  | error fault => simp [hread] at h
  | ok given =>
    cases hfound : tools.find? given.name with
    | none => simp [hread, hfound] at h
    | some found =>
      cases hrefusal : refusal? auth caller found with
      | some fault => simp [hread, hfound, hrefusal] at h
      | none =>
        simp only [hread, hfound, hrefusal, Except.ok.injEq, Prod.mk.injEq] at h
        obtain ⟨rfl, rfl⟩ := h
        exact hfound

theorem welcome_ne_invalidOutput :
    welcome tools auth caller input ≠ .error (.invalidOutput name) := by
  intro h
  unfold welcome at h
  cases hread : CallParams.ofEnvelope input with
  | error fault =>
    obtain ⟨text, rfl⟩ := CallParams.exists_of_ofEnvelope_eq_error hread
    simp [hread] at h
  | ok given =>
    cases hfound : tools.find? given.name with
    | none => simp [hread, hfound] at h
    | some found =>
      cases hrefusal : refusal? auth caller found with
      | none => simp [hread, hfound, hrefusal] at h
      | some fault =>
        simp only [hread, hfound, hrefusal, Except.error.injEq] at h
        exact refusal?_ne_invalidOutput (h ▸ hrefusal)

/-- Only the output of a tool that is not truthful is refused. -/
theorem not_truthful_of_work
    (h : (work call tool params).CanEnd P (.error (.invalidOutput name))) :
    tool.name = name ∧ ¬ tool.Truthful := by
  rw [work] at h
  by_cases hviolations : tool.inputViolations params.argumentsOrNone ≠ []
  · simp only [if_pos hviolations] at h
    cases h.eq_of_done
  · simp only [if_neg hviolations] at h
    obtain ⟨answer, hanswer, hchecked⟩ := h.of_map
    cases answer with
    | error fault => cases hchecked
    | ok output =>
      rw [checked] at hchecked
      split at hchecked
      case isTrue hinvalid =>
        cases hchecked
        exact ⟨rfl, fun htruthful => hinvalid (htruthful _ _ _ hanswer.anywhere)⟩
      case isFalse => cases hchecked

/-- The tool of the name that a refused output comes with is not truthful. -/
theorem not_truthful_of_serve
    (h : (serve tools auth call deps input).CanEnd P (.error (.invalidOutput name))) :
    ∃ tool, tools.find? name = some tool ∧ ¬ tool.Truthful := by
  rw [serve_eq] at h
  cases hwelcome : welcome tools auth (deps.get? .auth) input with
  | error fault =>
    rw [hwelcome] at h
    obtain rfl : fault = .invalidOutput name := (Except.error.inj h.eq_of_done).symm
    exact absurd hwelcome welcome_ne_invalidOutput
  | ok found =>
    obtain ⟨tool, params⟩ := found
    rw [hwelcome] at h
    obtain ⟨hname, hlies⟩ := not_truthful_of_work h
    have hfound := find?_of_welcome hwelcome
    have hasked : tool.name = params.name := by simpa using List.find?_some hfound
    exact ⟨tool, by rw [← hname, hasked, hfound], hlies⟩

theorem exists_of_present {served : Served X L} {outcome : Except FlowFault Outcome}
    (h : (present renderer deps (.ok served)).CanEnd P outcome) :
    ∃ result, (served.result renderer deps).CanEnd P result ∧
      outcome = .ok (.completed (some result.toJson)) :=
  h.of_map

/-- A call that was served completes, whatever its renderer does. -/
theorem eq_error_of_present {served : Except FlowFault (Served X L)} {fault : FlowFault}
    (h : (present renderer deps served).CanEnd P (.error fault)) : served = .error fault := by
  cases served with
  | error other =>
    obtain rfl := Except.error.inj h.eq_of_done
    rfl
  | ok served =>
    obtain ⟨result, -, houtcome⟩ := exists_of_present h
    cases houtcome

theorem Served.result_of_unasked {served : Served X L}
    (hrender : served.tool.definition.render = none) :
    served.result renderer deps = .done (plainResult served.tool served.output) := by
  cases renderer with
  | none => exact served.result_none deps
  | some renderer => exact Served.result_of_render_none hrender renderer deps

/-- An output that its schema takes becomes structured content, rendered or not. -/
theorem structured_of_result {served : Served X L} {result : CallResult}
    (hschema : served.tool.definition.outputSchema.isSome)
    (h : (served.result renderer deps).CanEnd P result) :
    result.toJson.field? "structuredContent" = some served.output ∧
      result.toJson.field? "isError" = some (.bool false) := by
  have hplain : plainResult served.tool served.output = .ofValidated served.output := by
    rw [plainResult, if_pos hschema]
  have hresult : result.structured = some served.output ∧ result.isError = false := by
    unfold Served.result at h
    split at h
    · obtain ⟨answer, -, rfl⟩ := h.of_map
      rw [hplain]
      cases answer <;> exact ⟨rfl, rfl⟩
    · rw [h.eq_of_done, hplain]
      exact ⟨rfl, rfl⟩
  obtain ⟨-, hstructured, -, hisError⟩ := result.lookup_entries
  rw [CallResult.field?_toJson, CallResult.field?_toJson, hstructured, hisError, hresult.1,
    hresult.2]
  exact ⟨rfl, rfl⟩

theorem meta_of_result_template (served : Served X L) {result : CallResult} {config : RenderConfig}
    {metadata : List (String × Json)} (hrender : served.tool.definition.render = some config)
    (hmetadata : Template.render (served.request config deps) = .ok metadata)
    (hnodup : (metadata.map Prod.fst).Nodup) (hne : metadata.isEmpty = false)
    (h : (served.result (some .template) deps).CanEnd P result) :
    result.toJson.field? "_meta" = some (.obj metadata) := by
  have hanswer : (Renderer.template : Renderer (World L)).render (served.request config deps) =
      .done (.ok metadata) := congrArg Task.done hmetadata
  rw [Served.result_of_render_some hrender, hanswer] at h
  obtain rfl : result = (plainResult served.tool served.output).applyRender metadata := h.eq_of_done
  rw [(CallResult.adorned_applyRender (metadata_plainResult _ _) metadata).metadata hnodup,
    if_neg (by simp [hne])]

variable {flow : CallFlow X L} {observers : List (Observer (World L))}

theorem not_truthful_of_admitting (behave : X → ToolM X L Unit)
    (hspare : ∀ event w, (Observer.emit observers event w).permits = w.permits)
    (hhooks : ∀ tool ∈ flow.tools.tools, tool.hooks = [])
    (setting : Setting (CallState X L) (World L))
    (h : (((Instance.admitting flow observers).run (toolPlatform behave) setting.input
      setting.deps).amid setting.others setting.world).value = .error (.invalidOutput name)) :
    ∃ tool, flow.tools.find? name = some tool ∧ ¬ tool.Truthful := by
  have hserves := admitting_serves behave flow observers hspare hhooks setting
  rw [h] at hserves
  split at hserves
  · cases hwelcome : welcome flow.tools flow.auth (setting.deps.get? .auth) setting.input with
    | error fault =>
      rw [hwelcome] at hserves
      obtain rfl : fault = .invalidOutput name := (Except.error.inj hserves).symm
      exact absurd hwelcome welcome_ne_invalidOutput
    | ok found =>
      rw [hwelcome] at hserves
      cases hserves
  · obtain ⟨served, hserved, hpresented⟩ := hserves
    rw [eq_error_of_present hpresented] at hserved
    exact not_truthful_of_serve hserved

/-- A call ends as it is served, unless its caller has no leave or no permit is free. -/
def UnlessRefused (refusal : Option FlowFault) (permits : Nat)
    (outcome : Except FlowFault Outcome) (served : Prop) : Prop :=
  match refusal with
  | some fault => outcome = .error fault
  | none => if permits = 0 then outcome = .ok (.failed (some Admission.refusal)) else served

theorem UnlessRefused.imp {refusal : Option FlowFault} {permits : Nat}
    {outcome : Except FlowFault Outcome} {served answered : Prop}
    (h : UnlessRefused refusal permits outcome served) (himp : served → answered) :
    UnlessRefused refusal permits outcome answered := by
  unfold UnlessRefused at h ⊢
  cases refusal with
  | some fault => exact h
  | none =>
    dsimp only at h ⊢
    split at h
    case isTrue hnone => rwa [if_pos hnone]
    case isFalse hsome => exact (if_neg hsome).mpr (himp h)

/-- A call of a tool that is there is served behind the permit. -/
theorem unlessRefused_of_found (behave : X → ToolM X L Unit)
    (hspare : ∀ event w, (Observer.emit observers event w).permits = w.permits)
    (hhooks : ∀ tool ∈ flow.tools.tools, tool.hooks = [])
    (setting : Setting (CallState X L) (World L))
    (hread : CallParams.ofEnvelope setting.input = .ok params)
    (hfound : flow.tools.find? params.name = some tool) :
    let outcome := (((Instance.admitting flow observers).run (toolPlatform behave) setting.input
      setting.deps).amid setting.others setting.world).value
    UnlessRefused (refusal? flow.auth (setting.deps.get? .auth) tool) setting.world.permits outcome
      (∃ served, (work setting.world.nextId tool params).CanEnd Task.Anywhere served ∧
        (present flow.renderer setting.deps served).CanEnd Task.Anywhere outcome) := by
  intro outcome
  have hserves := admitting_serves behave flow observers hspare hhooks setting
  have hwelcome : welcome flow.tools flow.auth (setting.deps.get? .auth) setting.input = _ :=
    welcome_eq_of_found hread hfound
  simp only [serve_eq, hwelcome] at hserves
  cases hrefusal : refusal? flow.auth (setting.deps.get? .auth) tool with
  | none =>
    simp only [hrefusal] at hserves
    exact hserves
  | some fault =>
    simp only [hrefusal] at hserves
    split at hserves
    · exact hserves
    · obtain ⟨served, hserved, hpresented⟩ := hserves
      rw [hserved.eq_of_done] at hpresented
      exact hpresented.eq_of_done

end CallFlow

/-- A placeholder whose field is there takes the text of this field. -/
theorem Template.fill_of_splitAt? {tool : String} {output v : Json}
    {text before rest inside after filled : List Char}
    (hopen : splitAt? '\x7b' text = some (before, rest))
    (hclose : splitAt? '\x7d' rest = some (inside, after))
    (hfield : output.field? (fieldName inside) = some v)
    (hfilled : fill tool output after = .ok filled) :
    fill tool output text = .ok (before ++ (filler v).toList ++ filled) := by
  rw [fill_eq, hopen]
  simp only [hclose, Piece.fill, hfield, hfilled]
  rfl

/-! ### Typed tools -/

section Typed

variable {W I O : Type} {definition : ToolDefinition} {typing : Typing I O}

theorem Tool.truthful_typed {schema : Json} (hschema : definition.outputSchema = some schema)
    (hwrites : ∀ output, Schema.validate schema (typing.write output) = []) :
    (Tool.typed definition typing : Tool X W).Truthful := by
  intro arguments call output h
  have hrun : typing.run arguments call = .ok output := h.eq_of_done.symm
  have hviolations : (Tool.typed definition typing : Tool X W).outputViolations output =
      Schema.validate schema output := by
    simp only [Tool.outputViolations, Tool.typed, SchemaRules.drafts, hschema]
  rw [hviolations]
  unfold Typing.run at hrun
  cases hread : typing.read arguments with
  | error fault => simp [hread] at hrun
  | ok input =>
    cases hanswer : typing.answer input call with
    | error fault => simp [hread, hanswer, Except.map] at hrun
    | ok answer =>
      simp only [hread, hanswer, Except.map, Except.ok.injEq] at hrun
      rw [← hrun, hwrites]

/-- Behind the check of its arguments, a truthful typed tool that can read them answers as it
wants. -/
theorem CallFlow.eq_of_work_typed {call : String} {params : CallParams} {input : I}
    {answer : Except ToolFault O} {P : World L → Prop} {served : Except FlowFault (Served X L)}
    (htruthful : (Tool.typed definition typing : Tool X (World L)).Truthful)
    (hvalid : Schema.validate definition.inputSchema params.argumentsOrNone = [])
    (hread : typing.read params.argumentsOrNone = .ok input)
    (hanswer : typing.answer input
      ⟨call, definition.name, definition.owner, params.metadata⟩ = answer)
    (h : (work call (.typed definition typing) params).CanEnd P served) :
    served =
      match answer with
      | .error fault => .error (.operationFailed definition.name fault.message)
      | .ok output =>
        .ok ⟨.typed definition typing, params.argumentsOrNone, typing.write output⟩ := by
  have hadmits : ¬ (Tool.typed definition typing : Tool X (World L)).inputViolations
      params.argumentsOrNone ≠ [] := not_not.mpr hvalid
  rw [work] at h
  simp only [if_neg hadmits] at h
  obtain ⟨ran, hran, rfl⟩ := h.of_map
  have hrun : ran = answer.map typing.write := by
    rw [← hanswer]
    refine hran.eq_of_done.trans ?_
    rw [Typing.run, hread]
    rfl
  cases answer with
  | error fault =>
    obtain rfl : ran = .error fault := hrun
    rfl
  | ok output =>
    obtain rfl : ran = .ok (typing.write output) := hrun
    rw [checked, if_neg (not_not.mpr (htruthful _ _ _ hran.anywhere))]

end Typed

namespace Demo

def wordCount {W : Type} : Tool X W := .typed wordCountDefinition wordCountTyping

def createNote {W : Type} : Tool X W := .typed createNoteDefinition createNoteTyping

theorem truthful_wordCount {W : Type} : (wordCount : Tool X W).Truthful :=
  Tool.truthful_typed rfl WordCount.validate_toJson

theorem truthful_createNote {W : Type} : (createNote : Tool X W).Truthful :=
  Tool.truthful_typed rfl Note.validate_toJson

theorem truthful_of_mem_tools {W : Type} : ∀ tool ∈ (tools : List (Tool X W)), tool.Truthful := by
  intro tool htool
  rcases List.mem_pair.mp htool with rfl | rfl
  · exact truthful_wordCount
  · exact truthful_createNote

theorem answer_of_blank {params : CreateNoteParams} (hblank : Text.trim params.title = "")
    (call : ToolCall) :
    createNoteTyping.answer params call = .error (.parameter "title must not be blank") := by
  simp only [createNoteTyping, Note.ofParams, if_pos hblank]

theorem answer_of_not_blank {params : CreateNoteParams} (hblank : ¬ Text.trim params.title = "")
    (call : ToolCall) :
    createNoteTyping.answer params call =
      .ok ⟨"note-" ++ call.callId, params.title, params.body⟩ := by
  simp only [createNoteTyping, Note.ofParams, if_neg hblank]

/-- A note as it is shown: its title and its body are taken as they are. -/
def Note.html (note : Note) : String :=
  "<h1>" ++ note.title ++ "</h1><p>" ++ note.body ++ "</p>"

/-- Every note fills its template. -/
theorem Note.fill_template (tool : String) (note : Note) :
    Template.fill tool note.toJson template.toList = .ok note.html.toList := by
  have hend : Template.fill tool note.toJson "</p>".toList = .ok "</p>".toList := by
    rw [Template.fill_eq]
    rfl
  have hbody : Template.fill tool note.toJson "</h1><p>\x7b\x7bbody\x7d\x7d</p>".toList =
      .ok ("</h1><p>".toList ++ (Template.filler (.str note.body)).toList ++ "</p>".toList) :=
    Template.fill_of_splitAt? rfl rfl rfl hend
  have htitle : Template.fill tool note.toJson template.toList =
      .ok ("<h1>".toList ++ (Template.filler (.str note.title)).toList ++ _) :=
    Template.fill_of_splitAt? rfl rfl rfl hbody
  rw [htitle, html]
  simp only [Template.filler, String.toList_append, List.append_assoc]

theorem Note.render_eq {request : RenderRequest} {note : Note}
    (houtput : request.output = note.toJson) (htemplate : request.config.template = template) :
    Template.render request = .ok [("ui/html", .str note.html),
      ("ui/mimeType", .str request.config.mimeType), ("ui/platform", .str request.hint.name)] := by
  rw [Template.render, houtput, htemplate, fill_template, Except.map, String.ofList_toList]

def Counted (arguments : Json) (outcome : Except FlowFault Outcome) : Prop :=
  ∃ params, WordCountParams.read arguments = .ok params ∧
    arguments.field? "text" = some (.str params.text) ∧
    outcome = .ok (.completed
      (some (CallResult.ofValidated (WordCount.ofText params.text).toJson).toJson))

/-- A note is written: the arguments are read, and the call fails just if the title is blank. The
template renderer shows the note. -/
def Noted (call : String) (renderer : Option (Renderer (World L))) (arguments : Json)
    (outcome : Except FlowFault Outcome) : Prop :=
  ∃ params, CreateNoteParams.read arguments = .ok params ∧
    arguments.field? "title" = some (.str params.title) ∧
    (arguments.field? "body" = some (.str params.body) ∨
      arguments.field? "body" = none ∧ params.body = "") ∧
    if Text.trim params.title = "" then
      outcome = .error (.operationFailed "create_note" "Parameter error: title must not be blank")
    else
      let note : Note := ⟨"note-" ++ call, params.title, params.body⟩
      ∃ result, outcome = .ok (.completed (some result)) ∧
        result.field? "structuredContent" = some note.toJson ∧
        result.field? "isError" = some (.bool false) ∧
        (renderer = some .template → ∃ metadata, result.field? "_meta" = some metadata ∧
          metadata.field? "ui/html" = some (.str note.html))

variable {call : String} {params : CallParams} {deps : CallState X L} {P : World L → Prop}
  {renderer : Option (Renderer (World L))} {served : Except FlowFault (CallFlow.Served X L)}
  {outcome : Except FlowFault Outcome}

theorem counted_of_work (hdistinct : params.argumentsOrNone.Distinct)
    (hvalid : Schema.validate WordCountParams.schema params.argumentsOrNone = [])
    (hwork : (CallFlow.work call wordCount params).CanEnd P served)
    (hpresent : (CallFlow.present renderer deps served).CanEnd P outcome) :
    Counted params.argumentsOrNone outcome := by
  obtain ⟨input, hread, htext⟩ := WordCountParams.exists_read hdistinct hvalid
  obtain rfl := CallFlow.eq_of_work_typed truthful_wordCount hvalid hread rfl hwork
  obtain ⟨result, hresult, rfl⟩ := CallFlow.exists_of_present hpresent
  rw [CallFlow.Served.result_of_unasked rfl] at hresult
  obtain rfl : result = .ofValidated (WordCount.ofText input.text).toJson := hresult.eq_of_done
  exact ⟨input, hread, htext, rfl⟩

theorem noted_of_work (hdistinct : params.argumentsOrNone.Distinct)
    (hvalid : Schema.validate CreateNoteParams.schema params.argumentsOrNone = [])
    (hwork : (CallFlow.work call createNote params).CanEnd P served)
    (hpresent : (CallFlow.present renderer deps served).CanEnd P outcome) :
    Noted call renderer params.argumentsOrNone outcome := by
  obtain ⟨input, hread, htitle, hbody⟩ := CreateNoteParams.exists_read hdistinct hvalid
  refine ⟨input, hread, htitle, hbody, ?_⟩
  by_cases hblank : Text.trim input.title = ""
  · rw [if_pos hblank]
    obtain rfl := CallFlow.eq_of_work_typed truthful_createNote hvalid hread
      (answer_of_blank hblank _) hwork
    exact hpresent.eq_of_done
  · rw [if_neg hblank]
    intro note
    obtain rfl := CallFlow.eq_of_work_typed truthful_createNote hvalid hread
      (answer_of_not_blank hblank _) hwork
    obtain ⟨result, hresult, rfl⟩ := CallFlow.exists_of_present hpresent
    obtain ⟨hstructured, hisError⟩ := CallFlow.structured_of_result rfl hresult
    refine ⟨_, rfl, hstructured, hisError, ?_⟩
    rintro rfl
    have hmetadata := CallFlow.meta_of_result_template
      ⟨createNote, params.argumentsOrNone, note.toJson⟩ rfl (note.render_eq rfl rfl) (by simp) rfl
      hresult
    exact ⟨_, hmetadata, rfl⟩

/-! ### Servers with these tools -/

namespace Hosts

variable {store : Store X L}

theorem exists_caller (h : Hosts store) : ∃ caller, ∃ registry : ToolRegistry X (World L),
    callFlow.instantiate store.providers store.hooks = .ok caller ∧
      caller.inst = Instance.admitting
        ⟨registry, Providers.auth store.providers, store.providers.get? .renderer⟩
        store.hooks.observers ∧
      (∀ tool ∈ registry.tools, tool.hooks = []) ∧
      ∀ tool ∈ Demo.tools, registry.find? tool.name = some tool := by
  obtain ⟨registry, htools, hhooks, hfound⟩ := h.tools
  have hmade := CallFlow.exists_instantiate store.providers store.hooks htools
  have hallowed : ∀ hook ∈ (Admission.hooks : List (HookBinding (Handler X L))),
      callToken.kind.allows hook.stage = true := by
    intro hook hhook
    rcases List.mem_pair.mp hhook with rfl | rfl <;> rfl
  rw [h.hooks] at hmade
  obtain ⟨ready, hmade⟩ := hmade hallowed
  exact ⟨_, registry, hmade, rfl, hhooks, hfound⟩

end Hosts

/-- How a call ends on a server of the demo. No output of a tool of the demo is refused. Where a
call names such a tool with arguments that meet its schema, it ends with a refusal if the caller has
no leave or no permit is free, and else as the tool says. -/
structure Honours (auth : AuthConfig) (renderer : Option (Renderer (World L)))
    (setting : Setting (CallState X L) (World L)) (outcome : Except FlowFault Outcome) : Prop where
  accepted : ∀ tool ∈ (tools : List (Tool X (World L))), outcome ≠ .error (.invalidOutput tool.name)
  counted : ∀ params, CallParams.ofEnvelope setting.input = .ok params →
    params.argumentsOrNone.Distinct → params.name = "word_count" →
    Schema.validate WordCountParams.schema params.argumentsOrNone = [] →
    CallFlow.UnlessRefused
      (CallFlow.refusal? auth (setting.deps.get? .auth) (wordCount : Tool X (World L)))
      setting.world.permits outcome (Counted params.argumentsOrNone outcome)
  noted : ∀ params, CallParams.ofEnvelope setting.input = .ok params →
    params.argumentsOrNone.Distinct → params.name = "create_note" →
    Schema.validate CreateNoteParams.schema params.argumentsOrNone = [] →
    CallFlow.UnlessRefused
      (CallFlow.refusal? auth (setting.deps.get? .auth) (createNote : Tool X (World L)))
      setting.world.permits outcome
      (Noted setting.world.nextId renderer params.argumentsOrNone outcome)

theorem Hosts.exists_honours {store : Store X L} (h : Hosts store) (behave : X → ToolM X L Unit) :
    ∃ caller, callFlow.instantiate store.providers store.hooks = .ok caller ∧
      ∀ setting : Setting (CallState X L) (World L),
        Honours (Providers.auth store.providers) (store.providers.get? .renderer) setting
          ((caller.inst.run (toolPlatform behave) setting.input setting.deps).amid
            setting.others setting.world).value := by
  obtain ⟨caller, registry, hmade, hinst, hhooks, hfound⟩ := h.exists_caller
  let flow : CallFlow X L :=
    ⟨registry, Providers.auth store.providers, store.providers.get? .renderer⟩
  refine ⟨caller, hmade, fun setting => ?_⟩
  rw [hinst]
  constructor
  case accepted =>
    intro tool htool hrefused
    obtain ⟨other, hother, hlies⟩ :=
      CallFlow.not_truthful_of_admitting behave h.observers hhooks setting hrefused
    -- Nobody else bears the name of the demo's tool.
    obtain rfl : tool = other := Option.some.inj ((hfound tool htool).symm.trans hother)
    exact hlies (truthful_of_mem_tools tool htool)
  case counted =>
    intro params hread hdistinct hname hvalid
    have hthere : flow.tools.find? params.name = some wordCount := by
      rw [hname]
      exact hfound wordCount List.mem_cons_self
    refine (CallFlow.unlessRefused_of_found behave h.observers hhooks setting hread hthere).imp ?_
    rintro ⟨served, hwork, hpresent⟩
    exact counted_of_work hdistinct hvalid hwork hpresent
  case noted =>
    intro params hread hdistinct hname hvalid
    have hthere : flow.tools.find? params.name = some createNote := by
      rw [hname]
      exact hfound createNote (List.mem_cons_of_mem _ List.mem_cons_self)
    refine (CallFlow.unlessRefused_of_found behave h.observers hhooks setting hread hthere).imp ?_
    rintro ⟨served, hwork, hpresent⟩
    exact noted_of_work hdistinct hvalid hwork hpresent

/-- The demo server can be assembled, with any policy, and it honours the schemas of the demo's
tools; it shows every note. -/
theorem exists_assembled_honours (auth : AuthConfig) (format : TraceFormat) :
    ∃ store caller, assemble auth format = .ok store ∧
      callFlow.instantiate store.providers store.hooks = .ok caller ∧
      ∀ setting : Setting (CallState Empty Unit) (World Unit),
        Honours auth (some .template) setting
          ((caller.inst.run platform setting.input setting.deps).amid
            setting.others setting.world).value := by
  obtain ⟨store, hstore, hhosts, -, hrenderer, hauth, -⟩ := exists_hosts auth format
  have hplatform : platform = toolPlatform _ := rfl
  obtain ⟨caller, hmade, hcalls⟩ := hhosts.exists_honours _
  rw [hauth, hrenderer, ← hplatform] at hcalls
  exact ⟨store, caller, hstore, hmade, hcalls⟩

/-- **The demo's tools honour their schemas.** On a server that hosts the demo, no call ends with a
refused output of one of its tools, since no tool answers with such an output. A call with arguments
that meet the schema of its tool ends with a refusal if the caller has no leave or no permit is
free. Otherwise its arguments are read: the words of a text are always counted, and a note is
written, and shown, just if its title is not blank. -/
theorem exists_honouring {store : Store X L} (h : Hosts store) (behave : X → ToolM X L Unit) :
    ∃ caller, callFlow.instantiate store.providers store.hooks = .ok caller ∧
      (∀ tool ∈ (tools : List (Tool X (World L))), tool.Truthful) ∧
      ∀ setting : Setting (CallState X L) (World L),
        let outcome := ((caller.inst.run (toolPlatform behave) setting.input setting.deps).amid
          setting.others setting.world).value
        (∀ tool ∈ (tools : List (Tool X (World L))), outcome ≠ .error (.invalidOutput tool.name)) ∧
        ∀ params, CallParams.ofEnvelope setting.input = .ok params →
          params.argumentsOrNone.Distinct →
          (params.name = "word_count" →
            Schema.validate WordCountParams.schema params.argumentsOrNone = [] →
            CallFlow.UnlessRefused (CallFlow.refusal? (Providers.auth store.providers)
              (setting.deps.get? .auth) (wordCount : Tool X (World L))) setting.world.permits
              outcome (Counted params.argumentsOrNone outcome)) ∧
          (params.name = "create_note" →
            Schema.validate CreateNoteParams.schema params.argumentsOrNone = [] →
            CallFlow.UnlessRefused (CallFlow.refusal? (Providers.auth store.providers)
              (setting.deps.get? .auth) (createNote : Tool X (World L))) setting.world.permits
              outcome (Noted setting.world.nextId (store.providers.get? .renderer)
                params.argumentsOrNone outcome)) := by
  obtain ⟨caller, hmade, hcalls⟩ := h.exists_honours behave
  refine ⟨caller, hmade, truthful_of_mem_tools, fun setting => ?_⟩
  have hhonours := hcalls setting
  exact ⟨hhonours.accepted, fun params hread hdistinct =>
    ⟨hhonours.counted params hread hdistinct, hhonours.noted params hread hdistinct⟩⟩

/-- A note whose title looks like a placeholder. -/
def bracedNote : Json := .obj [("title", .str "\x7b\x7bbody\x7d\x7d"), ("tags", .arr [])]

def bracedCall : Json :=
  .obj [("method", .str "tools/call"), ("params", .obj
    [("name", .str "create_note"), ("arguments", bracedNote)])]

/-- The assembled server writes such a note, and shows its title as it stands. -/
theorem exists_honouring_assembled :
    ∃ store, assemble .default .pretty = .ok store ∧ Hosts store ∧
      CallParams.ofEnvelope bracedCall = .ok ⟨"create_note", some bracedNote, none⟩ ∧
      bracedNote.Distinct ∧ Schema.validate CreateNoteParams.schema bracedNote = [] ∧
      ∃ caller, callFlow.instantiate store.providers store.hooks = .ok caller ∧
        ∃ result metadata,
          ((caller.inst.run platform bracedCall .empty).amid [] store.world).value =
            .ok (.completed (some result)) ∧
          result.field? "_meta" = some metadata ∧
          metadata.field? "ui/html" =
            some (.str "<h1>\x7b\x7bbody\x7d\x7d</h1><p></p>") := by
  have hhosts : Hosts (assembled .default .pretty) := hosts_assembled _ _
  have hread : CallParams.ofEnvelope bracedCall = .ok ⟨"create_note", some bracedNote, none⟩ := rfl
  have hdistinct : bracedNote.Distinct := by
    rintro fields ⟨⟩
    decide
  have hvalid : Schema.validate CreateNoteParams.schema bracedNote = [] := rfl
  have hplatform : platform = toolPlatform _ := rfl
  obtain ⟨caller, hcaller, -, hcalls⟩ := exists_honouring hhosts _
  rw [← hplatform] at hcalls
  obtain ⟨-, hnotes⟩ :=
    (hcalls ⟨bracedCall, .empty, (assembled .default .pretty).world, []⟩).2 _ hread hdistinct
  obtain ⟨⟨title, body⟩, -, htitle, hbody, hends⟩ := hnotes rfl hvalid
  obtain rfl : title = "\x7b\x7bbody\x7d\x7d" := (Json.str.inj (Option.some.inj htitle)).symm
  obtain rfl : body = "" := by
    rcases hbody with hgiven | ⟨-, hempty⟩
    · cases hgiven
    · exact hempty
  rw [if_neg (by decide)] at hends
  obtain ⟨result, houtcome, -, -, hshown⟩ := hends
  obtain ⟨metadata, hmeta, hhtml⟩ := hshown rfl
  exact ⟨_, assemble_eq _ _, hhosts, hread, hdistinct, hvalid, caller, hcaller, result, metadata,
    houtcome, hmeta, hhtml⟩

end Demo

end StagedFlow
