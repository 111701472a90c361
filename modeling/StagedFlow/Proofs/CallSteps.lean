import StagedFlow.Proofs.Keeping
import StagedFlow.Tool.Platform

/-!
# Terms of tool calls

What the flow of tool calls does by itself, and what it leaves to others: it runs tools, asks a
renderer, and attaches the hooks of tools. If these keep to some terms, the stages of the flow do.
-/

namespace StagedFlow

variable {X L : Type} {manner : Task.Manner (World L)} {good : HookBinding (Handler X L) → Prop}
  {fits : CallState X L → Prop} {raises : Interrupt → Prop} {flow : CallFlow X L}

namespace ToolM

theorem keeps_require {slot : Slot} {Q : slot.Val X L → Prop}
    (h : ∀ state, fits state → ∀ v, state.get? slot = some v → Q v)
    (hmissing : ∀ reason, raises (.fault (.internal reason))) :
    (require slot : ToolM X L _).Keeps (.ofStates manner good fits raises) Q := by
  refine HookM.Keeps.stateOf.bind fun state hstate => ?_
  rw [Bag.require]
  cases hget : state.get? slot with
  | none => exact .interrupt (hmissing _)
  | some v => exact .pure (h state hstate v hget)

theorem keeps_put {slot : Slot} {v : slot.Val X L}
    (h : ∀ state, fits state → fits (state.insert slot v)) :
    (put slot v : ToolM X L Unit).Keeps (.ofStates manner good fits raises) fun _ => True :=
  HookM.Keeps.stateOf.bind fun state hstate =>
    .setState (h state hstate)

end ToolM

namespace CallFlow

def Unauthorized : FlowFault → Prop
  | .authorizationRequired _ _ _ => True
  | _ => False

structure Behaves (manner : Task.Manner (World L)) (good : HookBinding (Handler X L) → Prop)
    (tool : Tool X (World L)) : Prop where
  execute : ∀ arguments call, (tool.execute arguments call).Keeps manner fun _ => True
  hooks : ∀ hook ∈ tool.hooks, good (hook.mapHandler .custom)

/-- What a step of the flow needs of the terms. -/
structure Accepts (flow : CallFlow X L) (step : CallStep) (manner : Task.Manner (World L))
    (good : HookBinding (Handler X L) → Prop) (fits : CallState X L → Prop)
    (raises : Interrupt → Prop) : Prop where
  /-- States that differ in what the flow notes down fit alike. -/
  insert : ∀ state, fits state → ∀ slot : Slot,
    slot ∈ [.params, .call, .anonymous, .validated, .execution, .raw] → ∀ v : slot.Val X L,
      fits (state.insert slot v)
  erase : ∀ state, fits state → fits (state.erase .execution)
  found : step = .findTool → ∀ state, fits state → ∀ tool ∈ flow.tools.tools,
    fits (state.insert .tool tool)
  tool : ∀ state, fits state → ∀ tool, state.get? .tool = some tool → Behaves manner good tool
  renderer : ∀ renderer, flow.renderer = some renderer → ∀ request,
    (renderer.render request).Keeps manner fun _ => True
  faults : ∀ fault, ¬ Unauthorized fault → raises (Interrupt.fault fault)
  refusals : step = .checkAuthorization → ∀ fault, raises (Interrupt.fault fault)

namespace Accepts

variable {step : CallStep}

theorem require (h : flow.Accepts step manner good fits raises) {slot : Slot}
    {Q : slot.Val X L → Prop} (hQ : ∀ state, fits state → ∀ v, state.get? slot = some v → Q v) :
    (ToolM.require slot : ToolM X L _).Keeps (.ofStates manner good fits raises) Q :=
  ToolM.keeps_require hQ fun _ => h.faults _ not_false

theorem requireTool (h : flow.Accepts step manner good fits raises) :
    (ToolM.require .tool : ToolM X L (Tool X (World L))).Keeps (.ofStates manner good fits raises)
      (Behaves manner good) :=
  h.require h.tool

theorem requireAny (h : flow.Accepts step manner good fits raises) (slot : Slot) :
    (ToolM.require slot : ToolM X L _).Keeps (.ofStates manner good fits raises) fun _ => True :=
  h.require fun _ _ _ _ => trivial

theorem put (h : flow.Accepts step manner good fits raises) (slot : Slot)
    (hslot : slot ∈ [Slot.params, .call, .anonymous, .validated, .execution, .raw])
    (v : slot.Val X L) :
    (ToolM.put slot v : ToolM X L Unit).Keeps (.ofStates manner good fits raises)
      fun _ => True :=
  ToolM.keeps_put fun state hstate => h.insert state hstate slot hslot v

theorem fault {α : Type} (h : flow.Accepts step manner good fits raises) {fault : FlowFault}
    (hfault : ¬ Unauthorized fault) {Q : α → Prop} :
    (HookM.fault fault : ToolM X L α).Keeps (.ofStates manner good fits raises) Q :=
  .interrupt (h.faults _ hfault)

end Accepts

theorem not_unauthorized_of_ofEnvelope {input : Json} {fault : FlowFault}
    (h : CallParams.ofEnvelope input = .error fault) : ¬ Unauthorized fault := by
  intro hfault
  rw [CallParams.ofEnvelope] at h
  cases hread : CallRequest.read input with
  | error _ =>
    rw [hread] at h
    cases h
    exact hfault
  | ok request =>
    rw [hread] at h
    have h : (checkMethod "tools/call" request.method >>= fun _ => .ok request.params) = _ := h
    rw [checkMethod] at h
    split at h
    · cases h
    · cases h
      exact hfault

theorem keeps_attachAll (h : ∀ fault, ¬ Unauthorized fault → raises (.fault fault))
    {hooks : List (HookBinding X)} (hgood : ∀ hook ∈ hooks, good (hook.mapHandler .custom)) :
    (attachAll hooks : ToolM X L Unit).Keeps (.ofStates manner good fits raises)
      fun _ => True := by
  induction hooks with
  | nil => exact .pure trivial
  | cons hook rest ih =>
    obtain ⟨hhook, hrest⟩ := List.forall_mem_cons.mp hgood
    refine (HookM.Keeps.attach hhook).bind fun answer _ => ?_
    cases answer with
    | ok _ => exact ih hrest
    | error refusal => exact .interrupt (h _ not_false)

theorem keeps_rendered {tool : Tool X (World L)} {raw : Json} {state : CallState X L}
    (h : ∀ renderer, flow.renderer = some renderer → ∀ request,
      (renderer.render request).Keeps manner fun _ => True) :
    (flow.rendered tool raw state).Keeps manner fun _ => True := by
  unfold rendered
  cases tool.definition.render with
  | none => exact .done trivial
  | some config =>
    cases hrenderer : flow.renderer with
    | none => exact .done trivial
    | some renderer => exact (h renderer hrenderer _).map fun _ _ => trivial

/-- Each step of the flow keeps to terms that accept it. -/
theorem keeps_step {step : CallStep} (h : flow.Accepts step manner good fits raises) :
    (flow.step step).Keeps (.ofStates manner good fits raises) fun _ => True := by
  cases step with
  | parseInput =>
    refine HookM.Keeps.context.bind fun ctx _ => ?_
    refine (HookM.Keeps.ofExcept (Q := fun _ => True) (fun _ _ => trivial) fun fault hfault =>
      h.faults fault (not_unauthorized_of_ofEnvelope hfault)).bind fun params _ => ?_
    exact h.put .params (by decide) params
  | findTool =>
    refine (h.requireAny .params).bind fun (params : CallParams) _ => ?_
    cases hfound : flow.tools.find? params.name with
    | none =>
      refine h.fault ?_
      exact not_false
    | some tool =>
      have htool : tool ∈ flow.tools.tools := List.mem_of_find?_eq_some hfound
      exact ToolM.keeps_put fun state hstate => h.found rfl state hstate tool htool
  | checkAuthorization =>
    refine HookM.Keeps.stateOf.bind fun state _ => ?_
    refine (HookM.Keeps.ofExcept (Q := fun _ => True) (fun _ _ => trivial) fun fault _ =>
      h.refusals rfl fault).bind fun access _ => ?_
    cases access with
    | none => exact .pure trivial
    | some access => exact h.put .anonymous (by decide) access
  | createContext =>
    refine h.requireTool.bind fun tool htool => ?_
    refine (h.requireAny .params).bind fun (params : CallParams) _ => ?_
    refine HookM.Keeps.context.bind fun ctx _ => ?_
    refine (keeps_attachAll h.faults htool.hooks).bind fun _ _ => ?_
    exact (h.put .call (by decide) _).bind fun _ _ => .checkpoint _
  | validateInput =>
    refine h.requireTool.bind fun tool _ => ?_
    refine (h.requireAny .params).bind fun (params : CallParams) _ => ?_
    dsimp only
    cases tool.inputViolations params.argumentsOrNone with
    | nil => exact h.put .validated (by decide) _
    | cons violation rest =>
      refine h.fault ?_
      exact not_false
  | execute =>
    refine h.requireTool.bind fun tool htool => ?_
    refine (h.requireAny .validated).bind fun (arguments : Json) _ => ?_
    refine (h.requireAny .call).bind fun (call : ToolCall) _ => ?_
    refine (HookM.Keeps.lift (htool.execute arguments call)).bind fun answer _ => ?_
    cases answer with
    | ok output => exact h.put .execution (by decide) _
    | error fault =>
      refine h.fault ?_
      exact not_false
  | validateOutput =>
    refine HookM.Keeps.stateOf.bind fun state hstate => ?_
    cases state.get? .execution with
    | none =>
      refine h.fault ?_
      exact not_false
    | some output => exact .setState (h.insert _ (h.erase state hstate) .raw (by decide) output)
  | finalize =>
    refine h.requireTool.bind fun tool _ => ?_
    refine (h.requireAny .raw).bind fun (raw : Json) _ => ?_
    cases tool.outputViolations raw with
    | nil =>
      refine (HookM.Keeps.state (P := fun _ => True) fun _ _ => trivial).bind fun state _ => ?_
      exact (HookM.Keeps.lift (keeps_rendered h.renderer)).bind fun _ _ => .setOutput _
    | cons violation rest =>
      refine h.fault ?_
      exact not_false
  | checkpoint =>
    refine HookM.Keeps.context.bind fun ctx _ => ?_
    cases ctx.stage with
    | none => exact .pure trivial
    | some stage => exact .checkpoint stage

def Carries (manner : Task.Manner (World L)) (good : HookBinding (Handler X L) → Prop)
    (state : CallState X L) : Prop :=
  ∀ tool, state.get? .tool = some tool → Behaves manner good tool

/-- A flow whose tools and renderer keep to a manner accepts terms that ask no more than this, and
that mind neither what the flow notes down nor how it fails. -/
theorem accepts_of_behaves {also : CallState X L → Prop} (step : CallStep)
    (htools : ∀ tool ∈ flow.tools.tools, Behaves manner good tool)
    (hrenderer : ∀ renderer, flow.renderer = some renderer → ∀ request,
      (renderer.render request).Keeps manner fun _ => True)
    (hinsert : ∀ state (slot : Slot) (v : slot.Val X L), slot ≠ .permit → also state →
      also (state.insert slot v))
    (herase : ∀ state, also state → also (state.erase .execution)) :
    flow.Accepts step manner good (fun state => Carries manner good state ∧ also state)
      fun _ => True where
  insert state hstate slot hslot v := by
    have hne : slot ≠ .tool ∧ slot ≠ .permit := by
      constructor <;> · rintro rfl; simp at hslot
    refine ⟨fun tool htool => hstate.1 tool ?_, hinsert state slot v hne.2 hstate.2⟩
    rwa [Bag.get?_insert_of_ne _ _ hne.1.symm] at htool
  erase state hstate := by
    refine ⟨fun tool htool => hstate.1 tool ?_, herase state hstate.2⟩
    rwa [Bag.get?_erase_of_ne _ (by decide)] at htool
  found _ state hstate tool htool := by
    refine ⟨fun found hfound => ?_, hinsert state _ _ (by decide) hstate.2⟩
    cases (Bag.get?_insert_self state Slot.tool tool).symm.trans hfound
    exact htools tool htool
  tool state hstate := hstate.1
  renderer := hrenderer
  faults _ _ := trivial
  refusals _ _ := trivial

end CallFlow

/-- Each step of the listing keeps to terms that do not mind what it notes down and how it fails. -/
theorem ListFlow.keeps_step {flow : ListFlow X L} (step : ListStep)
    (hinsert : ∀ state, fits state → ∀ listing : Listing, fits (state.insert .listing listing))
    (hfaults : ∀ fault, raises (.fault fault)) :
    (flow.step step).Keeps (.ofStates manner good fits raises) fun _ => True := by
  cases step with
  | parseInput =>
    refine HookM.Keeps.context.bind fun ctx _ => ?_
    exact .ofExcept (fun _ _ => trivial) fun fault _ => hfaults fault
  | findTools =>
    have hread : (ToolM.get? .auth : ToolM X L (Option AuthInfo)).Keeps
        (.ofStates manner good fits raises) fun _ => True :=
      HookM.Keeps.stateOf.bind fun _ _ => .pure trivial
    refine hread.bind fun auth _ => ?_
    exact ToolM.keeps_put fun state hstate => hinsert state hstate _
  | finalize =>
    have hlisting : (ToolM.require .listing : ToolM X L Listing).Keeps
        (.ofStates manner good fits raises) fun _ => True :=
      ToolM.keeps_require (fun _ _ _ _ => trivial) fun _ => hfaults _
    exact hlisting.bind fun listing _ => .setOutput _

end StagedFlow
