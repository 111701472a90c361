import StagedFlow.Proofs.Counterparts
import StagedFlow.Proofs.DirectCall

/-!
# Tools that differ in secrets only

A tool may fail with a reason, or answer what its output schema forbids. Two tools that differ only
there take their calls through the same stages side by side. The states of the calls hold different
tools and, once the tool has run, may hold different outputs; they agree in everything else, and so
does what the stages do.
-/

namespace StagedFlow

variable {X L : Type}

namespace Tool

variable {W : Type}

/-- Answers of a tool that its caller cannot tell apart. -/
inductive Indistinct (tool : Tool X W) : Except ToolFault Json → Except ToolFault Json → Prop where
  | same (answer : Except ToolFault Json) : Indistinct tool answer answer
  | failed (fault fault' : ToolFault) : Indistinct tool (.error fault) (.error fault')
  | forbidden {output output' : Json} (h : tool.outputViolations output ≠ [])
    (h' : tool.outputViolations output' ≠ []) : Indistinct tool (.ok output) (.ok output')

/-- Tools that say the same of themselves and do the same, up to what they answer. -/
structure Twins (tool tool' : Tool X W) : Prop where
  definition_eq : tool'.definition = tool.definition
  hooks_eq : tool'.hooks = tool.hooks
  rules_eq : tool'.rules = tool.rules
  alike : ∀ arguments call,
    (tool.execute arguments call).Alike tool.Indistinct (tool'.execute arguments call)

namespace Twins

variable {tool tool' : Tool X W}

theorem refl (tool : Tool X W) : tool.Twins tool :=
  ⟨rfl, rfl, rfl, fun arguments call => .same (tool.execute arguments call) .same⟩

theorem name_eq (h : tool.Twins tool') : tool'.name = tool.name := by
  rw [name, name, h.definition_eq]

theorem owner_eq (h : tool.Twins tool') : tool'.owner = tool.owner := by
  rw [owner, owner, h.definition_eq]

theorem inputViolations_eq (h : tool.Twins tool') (arguments : Json) :
    tool'.inputViolations arguments = tool.inputViolations arguments := by
  rw [inputViolations, inputViolations, h.definition_eq, h.rules_eq]

theorem outputViolations_eq (h : tool.Twins tool') (output : Json) :
    tool'.outputViolations output = tool.outputViolations output := by
  rw [outputViolations, outputViolations, h.definition_eq, h.rules_eq]

end Twins

end Tool

def ToolRegistry.Twins {W : Type} (tools tools' : ToolRegistry X W) : Prop :=
  List.Forall₂ Tool.Twins tools.tools tools'.tools

namespace ToolRegistry.Twins

variable {W : Type} {tools tools' : ToolRegistry X W}

theorem find? (h : tools.Twins tools') (name : String) :
    Option.Rel (fun tool tool' => tool ∈ tools.tools ∧ tool.Twins tool') (tools.find? name)
      (tools'.find? name) := by
  unfold ToolRegistry.Twins at h
  unfold ToolRegistry.find?
  generalize tools.tools = l at h
  generalize tools'.tools = l' at h
  induction h with
  | nil => exact .none
  | @cons tool tool' rest rest' htool _ ih =>
    rw [List.find?_cons, List.find?_cons, htool.name_eq]
    cases tool.name == name with
    | true => exact .some ⟨List.mem_cons_self, htool⟩
    | false =>
      generalize rest.find? (fun tool => tool.name == name) = found at ih
      generalize rest'.find? (fun tool => tool.name == name) = found' at ih
      cases ih with
      | none => exact .none
      | some hrest => exact .some ⟨List.mem_cons_of_mem _ hrest.1, hrest.2⟩

theorem visible_eq (h : tools.Twins tools') :
    tools'.visible.map Tool.definition = tools.visible.map Tool.definition := by
  unfold ToolRegistry.Twins at h
  unfold ToolRegistry.visible
  generalize tools.tools = l at h
  generalize tools'.tools = l' at h
  induction h with
  | nil => rfl
  | @cons tool tool' _ _ htool _ ih =>
    rw [List.filter_cons, List.filter_cons, htool.definition_eq]
    cases tool.definition.hidden with
    | true => exact ih
    | false =>
      simp only [Bool.not_false, if_true, List.map_cons, ih, htool.definition_eq]

end ToolRegistry.Twins

/-- Outputs of a tool in two states: the same ones, or such as the tool must not answer. They can
differ only when the tool has run. -/
def OutputsAgree (ran : Prop) (tool : Option (Tool X (World L))) (output output' : Option Json) :
    Prop :=
  output' = output ∨ ran ∧ ∃ t o o', tool = some t ∧ output = some o ∧ output' = some o' ∧
    t.outputViolations o ≠ [] ∧ t.outputViolations o' ≠ []

/-- The states of two calls. A tool that was `found` has no hooks of its own. -/
structure StatesAgree (found ran : Prop) (state state' : CallState X L) : Prop where
  slots : ∀ slot, slot ≠ .tool → slot ≠ .execution → slot ≠ .raw →
    state'.get? slot = state.get? slot
  tools : Option.Rel Tool.Twins (state.get? .tool) (state'.get? .tool)
  hookless : found → ∀ tool : Tool X (World L), state.get? .tool = some tool → tool.hooks = []
  execution : OutputsAgree ran (state.get? .tool) (state.get? .execution) (state'.get? .execution)
  raw : OutputsAgree ran (state.get? .tool) (state.get? .raw) (state'.get? .raw)

theorem OutputsAgree.mono {ran ran' : Prop} {tool : Option (Tool X (World L))}
    {output output' : Option Json} (h : OutputsAgree ran tool output output')
    (hran : ran → ran') : OutputsAgree ran' tool output output' :=
  h.imp_right fun ⟨hold, hboth⟩ => ⟨hran hold, hboth⟩

/-- If there is an output in one state, then there is one in the other. -/
theorem OutputsAgree.rel {ran : Prop} {tool : Option (Tool X (World L))}
    {output output' : Option Json} (h : OutputsAgree ran tool output output') :
    Option.Rel (fun o o' => o' = o ∨
      ∃ t, tool = some t ∧ t.outputViolations o ≠ [] ∧ t.outputViolations o' ≠ []) output
      output' := by
  rcases h with rfl | ⟨-, t, o, o', htool, rfl, rfl, hviolations, hviolations'⟩
  · cases output' with
    | none => exact .none
    | some o => exact .some (.inl rfl)
  · exact .some (.inr ⟨t, htool, hviolations, hviolations'⟩)

namespace StatesAgree

variable {found ran : Prop} {state state' : CallState X L}

theorem refl (state : CallState X L) : StatesAgree False False state state where
  slots _ _ _ _ := rfl
  tools := by
    cases state.get? .tool with
    | none => exact .none
    | some tool => exact .some (.refl tool)
  hookless := False.elim
  execution := .inl rfl
  raw := .inl rfl

theorem mono {found' ran' : Prop} (h : StatesAgree found ran state state')
    (hfound : found' → found) (hran : ran → ran') : StatesAgree found' ran' state state' where
  slots := h.slots
  tools := h.tools
  hookless hyes := h.hookless (hfound hyes)
  execution := h.execution.mono hran
  raw := h.raw.mono hran

/-- Both calls put the same into their states. -/
theorem insert (h : StatesAgree found ran state state') (slot : Slot) (v : slot.Val X L)
    (htool : slot ≠ .tool) (hexecution : slot ≠ .execution) (hraw : slot ≠ .raw) :
    StatesAgree found ran (state.insert slot v) (state'.insert slot v) where
  slots other h₁ h₂ h₃ := by
    by_cases heq : other = slot
    · subst heq
      rw [Bag.get?_insert_self, Bag.get?_insert_self]
    · rw [Bag.get?_insert_of_ne _ _ heq, Bag.get?_insert_of_ne _ _ heq, h.slots other h₁ h₂ h₃]
  tools := by
    rw [Bag.get?_insert_of_ne _ _ htool.symm, Bag.get?_insert_of_ne _ _ htool.symm]
    exact h.tools
  hookless hfound tool hget := by
    rw [Bag.get?_insert_of_ne _ _ htool.symm] at hget
    exact h.hookless hfound tool hget
  execution := by
    rw [Bag.get?_insert_of_ne _ _ htool.symm, Bag.get?_insert_of_ne _ _ hexecution.symm,
      Bag.get?_insert_of_ne _ _ hexecution.symm]
    exact h.execution
  raw := by
    rw [Bag.get?_insert_of_ne _ _ htool.symm, Bag.get?_insert_of_ne _ _ hraw.symm,
      Bag.get?_insert_of_ne _ _ hraw.symm]
    exact h.raw

/-- Both calls find their tool. -/
theorem insert_tool (h : StatesAgree found False state state') {tool tool' : Slot.Val X L .tool}
    (htool : Tool.Twins tool tool') (hhooks : Tool.hooks tool = []) :
    StatesAgree True False (state.insert .tool tool) (state'.insert .tool tool') where
  slots slot h₁ h₂ h₃ := by
    rw [Bag.get?_insert_of_ne _ _ h₁, Bag.get?_insert_of_ne _ _ h₁, h.slots slot h₁ h₂ h₃]
  tools := by
    rw [Bag.get?_insert_self, Bag.get?_insert_self]
    exact .some htool
  hookless _ other hother := by
    rw [Bag.get?_insert_self] at hother
    exact Option.some.inj hother ▸ hhooks
  execution := by
    refine .inl ?_
    rw [Bag.get?_insert_of_ne _ _ (by decide), Bag.get?_insert_of_ne _ _ (by decide)]
    exact h.execution.resolve_right And.left
  raw := by
    refine .inl ?_
    rw [Bag.get?_insert_of_ne _ _ (by decide), Bag.get?_insert_of_ne _ _ (by decide)]
    exact h.raw.resolve_right And.left

/-- Both calls put away what their tool has answered. -/
theorem insert_execution (h : StatesAgree found ran state state')
    {output output' : Slot.Val X L .execution}
    (houtputs : OutputsAgree True (state.get? .tool) (some output) (some output')) :
    StatesAgree found True (state.insert .execution output)
      (state'.insert .execution output') where
  slots slot h₁ h₂ h₃ := by
    rw [Bag.get?_insert_of_ne _ _ h₂, Bag.get?_insert_of_ne _ _ h₂, h.slots slot h₁ h₂ h₃]
  tools := by
    rw [Bag.get?_insert_of_ne _ _ (by decide), Bag.get?_insert_of_ne _ _ (by decide)]
    exact h.tools
  hookless hfound tool hget := by
    rw [Bag.get?_insert_of_ne _ _ (by decide)] at hget
    exact h.hookless hfound tool hget
  execution := by
    rw [Bag.get?_insert_self, Bag.get?_insert_self, Bag.get?_insert_of_ne _ _ (by decide)]
    exact houtputs
  raw := by
    rw [Bag.get?_insert_of_ne _ _ (by decide), Bag.get?_insert_of_ne _ _ (by decide),
      Bag.get?_insert_of_ne _ _ (by decide)]
    exact h.raw.mono fun _ => trivial

/-- Both calls take the output for granted. -/
theorem promote (h : StatesAgree found ran state state') {output output' : Slot.Val X L .raw}
    (houtput : state.get? .execution = some output)
    (houtput' : state'.get? .execution = some output') :
    StatesAgree found ran ((state.erase .execution).insert .raw output)
      ((state'.erase .execution).insert .raw output') where
  slots slot h₁ h₂ h₃ := by
    rw [Bag.get?_insert_of_ne _ _ h₃, Bag.get?_insert_of_ne _ _ h₃, Bag.get?_erase_of_ne _ h₂,
      Bag.get?_erase_of_ne _ h₂, h.slots slot h₁ h₂ h₃]
  tools := by
    rw [Bag.get?_insert_of_ne _ _ (by decide), Bag.get?_insert_of_ne _ _ (by decide),
      Bag.get?_erase_of_ne _ (by decide), Bag.get?_erase_of_ne _ (by decide)]
    exact h.tools
  hookless hfound tool hget := by
    rw [Bag.get?_insert_of_ne _ _ (by decide), Bag.get?_erase_of_ne _ (by decide)] at hget
    exact h.hookless hfound tool hget
  execution := by
    refine .inl ?_
    rw [Bag.get?_insert_of_ne _ _ (by decide), Bag.get?_insert_of_ne _ _ (by decide),
      Bag.get?_erase_self, Bag.get?_erase_self]
  raw := by
    have hmoved := h.execution
    rw [houtput, houtput'] at hmoved
    rw [Bag.get?_insert_self, Bag.get?_insert_self, Bag.get?_insert_of_ne _ _ (by decide),
      Bag.get?_erase_of_ne _ (by decide)]
    exact hmoved

end StatesAgree

structure ContextsAgree (found ran : Prop) (ctx ctx' : Context (CallState X L) (Handler X L)) :
    Prop where
  callId_eq : ctx'.callId = ctx.callId
  input_eq : ctx'.input = ctx.input
  scope_eq : ctx'.scope = ctx.scope
  stage_eq : ctx'.stage = ctx.stage
  output_eq : ctx'.output = ctx.output
  unattached : ctx.attached = [] ∧ ctx'.attached = []
  states : StatesAgree found ran ctx.state ctx'.state

namespace ContextsAgree

variable {found ran found' ran' : Prop} {ctx ctx' : Context (CallState X L) (Handler X L)}
  {changes changes' : Changes (CallState X L) (Handler X L)}

theorem enter (h : ContextsAgree found ran ctx ctx') (stage : Stage) :
    ContextsAgree found ran (ctx.enter stage) (ctx'.enter stage) :=
  { h with stage_eq := rfl }

theorem mono (h : ContextsAgree found ran ctx ctx') (hfound : found' → found)
    (hran : ran → ran') : ContextsAgree found' ran' ctx ctx' :=
  { h with states := h.states.mono hfound hran }

theorem apply (h : ContextsAgree found ran ctx ctx')
    (hattached : changes.attached = [] ∧ changes'.attached = [])
    (houtput : changes'.output = changes.output)
    (hstates : StatesAgree found' ran' (changes.state.getD ctx.state)
      (changes'.state.getD ctx'.state)) :
    ContextsAgree found' ran' (ctx.apply changes) (ctx'.apply changes') where
  callId_eq := h.callId_eq
  input_eq := h.input_eq
  scope_eq := h.scope_eq
  stage_eq := h.stage_eq
  output_eq := by rw [Context.apply, Context.apply, houtput, h.output_eq]
  unattached := by
    rw [Context.apply, Context.apply, hattached.1, hattached.2, h.unattached.1, h.unattached.2]
    exact ⟨rfl, rfl⟩
  states := hstates

end ContextsAgree

abbrev Stopping (X L : Type) : Pairing (CallState X L) (Handler X L) := ContextsAgree False True

/-! ### Handlers side by side -/

def AnswersAgree (found ran : Prop) (ctx ctx' : Context (CallState X L) (Handler X L))
    (answer answer' : Except Interrupt Unit × Changes (CallState X L) (Handler X L)) : Prop :=
  Abreast (ContextsAgree found ran) (Stopping X L) (answer.1, ctx.apply answer.2)
    (answer'.1, ctx'.apply answer'.2)

namespace AnswersAgree

variable {found ran found' ran' : Prop} {ctx ctx' : Context (CallState X L) (Handler X L)}

theorem fault (h : ContextsAgree found ran ctx ctx') {fault fault' : FlowFault}
    (hfault : (Interrupt.fault fault).Alike (.fault fault')) :
    ((HookM.fault fault : ToolM X L Unit) ctx).Alike (AnswersAgree found' ran' ctx ctx')
      ((HookM.fault fault' : ToolM X L Unit) ctx') := by
  refine .done (.stopped hfault ?_)
  rw [Context.apply_none, Context.apply_none]
  exact h.mono False.elim fun _ => trivial

/-- Both handlers put another state in place. -/
theorem setState (h : ContextsAgree found ran ctx ctx') {state state' : CallState X L}
    (hstates : StatesAgree found' ran' state state') :
    ((HookM.setState state : ToolM X L Unit) ctx).Alike (AnswersAgree found' ran' ctx ctx')
      ((HookM.setState state' : ToolM X L Unit) ctx') :=
  .done (.passed (h.apply ⟨rfl, rfl⟩ rfl hstates))

theorem bind_require_none {β : Type} {slot : Slot}
    {ctx : Context (CallState X L) (Handler X L)} (h : ctx.state.get? slot = none)
    (k : slot.Val X L → ToolM X L β) : (ToolM.require slot >>= k) ctx =
      (HookM.fault (.internal ("call state is missing " ++ Named.typeName slot)) : ToolM X L β)
        ctx := by
  have hrequire : (ToolM.require slot : ToolM X L _) ctx =
      .done (.error (.fault (.internal ("call state is missing " ++ Named.typeName slot))),
        .none) := by
    rw [ToolM.require, HookM.bind_state, Bag.require, h]
    rfl
  change HookM.bind (ToolM.require slot) k ctx = _
  rw [HookM.bind, hrequire]
  rfl

/-- Both handlers need a value of a slot. -/
theorem require (h : ContextsAgree found ran ctx ctx') {slot : Slot}
    {R : slot.Val X L → slot.Val X L → Prop}
    (hslot : Option.Rel R (ctx.state.get? slot) (ctx'.state.get? slot))
    {next next' : slot.Val X L → ToolM X L Unit}
    (hnext : ∀ v v', ctx.state.get? slot = some v → ctx'.state.get? slot = some v' → R v v' →
      (next v ctx).Alike (AnswersAgree found' ran' ctx ctx') (next' v' ctx')) :
    ((ToolM.require slot >>= next) ctx).Alike (AnswersAgree found' ran' ctx ctx')
      ((ToolM.require slot >>= next') ctx') := by
  cases hget : ctx.state.get? slot with
  | none =>
    cases hget' : ctx'.state.get? slot with
    | none =>
      rw [bind_require_none hget, bind_require_none hget']
      exact fault h (.same _)
    | some v' =>
      rw [hget, hget'] at hslot
      cases hslot
  | some v =>
    cases hget' : ctx'.state.get? slot with
    | none =>
      rw [hget, hget'] at hslot
      cases hslot
    | some v' =>
      have hrel := hslot
      rw [hget, hget'] at hrel
      cases hrel with
      | some hrel =>
        rw [ToolM.bind_require hget, ToolM.bind_require hget']
        exact hnext v v' hget hget' hrel

/-- Both handlers need a value that the states have in common. -/
theorem require_same (h : ContextsAgree found ran ctx ctx') {slot : Slot}
    (hslot : ctx'.state.get? slot = ctx.state.get? slot)
    {next next' : slot.Val X L → ToolM X L Unit}
    (hnext : ∀ v, (next v ctx).Alike (AnswersAgree found' ran' ctx ctx') (next' v ctx')) :
    ((ToolM.require slot >>= next) ctx).Alike (AnswersAgree found' ran' ctx ctx')
      ((ToolM.require slot >>= next') ctx') := by
  have hrel : Option.Rel (· = ·) (ctx.state.get? slot) (ctx'.state.get? slot) := by
    rw [hslot]
    cases ctx.state.get? slot with
    | none => exact .none
    | some v => exact .some rfl
  refine require h hrel fun v v' _ _ heq => ?_
  rw [← heq]
  exact hnext v

/-- Both handlers put the same into the state. -/
theorem put (h : ContextsAgree found ran ctx ctx') (slot : Slot) (v : slot.Val X L)
    (htool : slot ≠ .tool) (hexecution : slot ≠ .execution) (hraw : slot ≠ .raw) :
    ((ToolM.put slot v : ToolM X L Unit) ctx).Alike (AnswersAgree found ran ctx ctx')
      ((ToolM.put slot v : ToolM X L Unit) ctx') := by
  rw [ToolM.put_eq, ToolM.put_eq]
  exact setState h (h.states.insert slot v htool hexecution hraw)

end AnswersAgree

/-! ### The steps of a call -/

namespace CallFlow

structure Twins (flow flow' : CallFlow X L) : Prop where
  tools : flow.tools.Twins flow'.tools
  hookless : ∀ tool ∈ flow.tools.tools, tool.hooks = []
  auth_eq : flow'.auth = flow.auth
  renderer_eq : flow'.renderer = flow.renderer

def StepAlike (flow flow' : CallFlow X L) (step : CallStep) (found ran found' ran' : Prop) : Prop :=
  ∀ ctx ctx', ContextsAgree found ran ctx ctx' →
    (flow.step step ctx).Alike (AnswersAgree found' ran' ctx ctx') (flow'.step step ctx')

variable {flow flow' : CallFlow X L} {found ran : Prop}

theorem parseInput_alike : StepAlike flow flow' .parseInput found ran found ran := by
  intro ctx ctx' h
  rw [parseInput_eq, parseInput_eq, h.input_eq]
  cases CallParams.ofEnvelope ctx.input with
  | error fault => exact AnswersAgree.fault h (.same _)
  | ok params =>
    exact AnswersAgree.setState h
      (h.states.insert .params params (by decide) (by decide) (by decide))

theorem findTool_alike (htwins : flow.Twins flow') :
    StepAlike flow flow' .findTool found False True False := by
  intro ctx ctx' h
  refine AnswersAgree.require_same h (h.states.slots .params (by decide) (by decide) (by decide))
    fun (params : CallParams) => ?_
  have hfound := htwins.tools.find? params.name
  generalize flow.tools.find? params.name = sought at hfound
  generalize flow'.tools.find? params.name = sought' at hfound
  cases hfound with
  | none => exact AnswersAgree.fault h (.same _)
  | some htool =>
    have hhooks := htwins.hookless _ htool.1
    exact Task.Alike.done
      (.passed (h.apply ⟨rfl, rfl⟩ rfl (h.states.insert_tool htool.2 hhooks)))

theorem authorize_eq (htwins : flow.Twins flow') {state state' : CallState X L}
    (h : StatesAgree found ran state state') : flow'.authorize state' = flow.authorize state := by
  have hauth := h.slots .auth (by decide) (by decide) (by decide)
  have htools := h.tools
  cases hget : state.get? .tool with
  | none =>
    rw [hget] at htools
    cases hget' : state'.get? .tool with
    | none =>
      unfold authorize Bag.require
      rw [hauth, hget, hget', htwins.auth_eq]
    | some tool' => rw [hget'] at htools; cases htools
  | some tool =>
    rw [hget] at htools
    cases hget' : state'.get? .tool with
    | none => rw [hget'] at htools; cases htools
    | some tool' =>
      rw [hget'] at htools
      cases htools with
      | some htool =>
        rw [authorize_eq_leave flow hget, authorize_eq_leave flow' hget', hauth, htwins.auth_eq]
        unfold leave
        rw [htool.owner_eq, htool.name_eq]

theorem checkAuthorization_alike (htwins : flow.Twins flow') :
    StepAlike flow flow' .checkAuthorization found ran found ran := by
  intro ctx ctx' h
  have hread : flow.step .checkAuthorization ctx = _ := HookM.bind_state _ ctx
  have hread' : flow'.step .checkAuthorization ctx' = _ := HookM.bind_state _ ctx'
  rw [hread, hread', authorize_eq htwins h.states]
  cases flow.authorize ctx.state with
  | error fault => exact AnswersAgree.fault h (.same _)
  | ok access =>
    cases access with
    | none => exact Task.Alike.done (.passed (h.apply ⟨rfl, rfl⟩ rfl h.states))
    | some access =>
      exact Task.Alike.done (.passed (h.apply ⟨rfl, rfl⟩ rfl
        (h.states.insert .anonymous access (by decide) (by decide) (by decide))))

theorem createContext_alike : StepAlike flow flow' .createContext True ran True ran := by
  intro ctx ctx' h
  refine AnswersAgree.require h h.states.tools
    fun (tool tool' : Tool X (World L)) hget _ (htool : tool.Twins tool') => ?_
  refine AnswersAgree.require_same h (h.states.slots .params (by decide) (by decide) (by decide))
    fun (params : CallParams) => ?_
  have hhooks : tool.hooks = [] := h.states.hookless trivial tool hget
  rw [HookM.bind_context, HookM.bind_context, htool.hooks_eq, hhooks, htool.name_eq,
    htool.owner_eq, h.callId_eq]
  exact Task.Alike.done (.passed (h.apply ⟨rfl, rfl⟩ rfl
    (h.states.insert .call ⟨ctx.callId, tool.name, tool.owner, params.metadata⟩ (by decide)
      (by decide) (by decide))))

theorem checkpoint_alike : StepAlike flow flow' .checkpoint found ran found ran := by
  intro ctx ctx' h
  have hread : flow.step .checkpoint ctx = _ := HookM.bind_context _ ctx
  have hread' : flow'.step .checkpoint ctx' = _ := HookM.bind_context _ ctx'
  rw [hread, hread', h.stage_eq]
  cases ctx.stage with
  | none => exact .done (.passed (h.apply ⟨rfl, rfl⟩ rfl h.states))
  | some stage => exact .done (.passed (h.apply ⟨rfl, rfl⟩ rfl h.states))

theorem validateInput_alike : StepAlike flow flow' .validateInput found ran found ran := by
  intro ctx ctx' h
  refine AnswersAgree.require h h.states.tools
    fun (tool tool' : Tool X (World L)) _ _ (htool : tool.Twins tool') => ?_
  refine AnswersAgree.require_same h (h.states.slots .params (by decide) (by decide) (by decide))
    fun (params : CallParams) => ?_
  simp only [htool.inputViolations_eq, htool.name_eq]
  cases tool.inputViolations params.argumentsOrNone with
  | nil =>
    exact AnswersAgree.put h .validated params.argumentsOrNone (by decide) (by decide) (by decide)
  | cons violation rest => exact AnswersAgree.fault h (.same _)

theorem execute_alike : StepAlike flow flow' .execute found False found True := by
  intro ctx ctx' h
  refine AnswersAgree.require h h.states.tools
    fun (tool tool' : Tool X (World L)) hget _ (htool : tool.Twins tool') => ?_
  refine AnswersAgree.require_same h
    (h.states.slots .validated (by decide) (by decide) (by decide)) fun (arguments : Json) => ?_
  refine AnswersAgree.require_same h (h.states.slots .call (by decide) (by decide) (by decide))
    fun (call : ToolCall) => ?_
  rw [HookM.bind_lift, HookM.bind_lift]
  refine (htool.alike arguments call).bind fun answer answer' hanswer => ?_
  rw [htool.name_eq]
  cases hanswer with
  | same =>
    cases answer with
    | error fault => exact AnswersAgree.fault h (.same _)
    | ok output => exact AnswersAgree.setState h (h.states.insert_execution (.inl rfl))
  | failed fault fault' => exact AnswersAgree.fault h (.operation ..)
  | forbidden hoff hoff' =>
    exact AnswersAgree.setState h (h.states.insert_execution
      (.inr ⟨trivial, tool, _, _, hget, rfl, rfl, hoff, hoff'⟩))

theorem validateOutput_alike : StepAlike flow flow' .validateOutput found ran found ran := by
  intro ctx ctx' h
  have hread : flow.step .validateOutput ctx = _ := HookM.bind_state _ ctx
  have hread' : flow'.step .validateOutput ctx' = _ := HookM.bind_state _ ctx'
  have hrel := h.states.execution.rel
  rw [hread, hread']
  cases hget : ctx.state.get? .execution with
  | none =>
    rw [hget] at hrel
    cases hget' : ctx'.state.get? .execution with
    | none => exact AnswersAgree.fault h (.same _)
    | some output' => rw [hget'] at hrel; cases hrel
  | some output =>
    rw [hget] at hrel
    cases hget' : ctx'.state.get? .execution with
    | none => rw [hget'] at hrel; cases hrel
    | some output' => exact AnswersAgree.setState h (h.states.promote hget hget')

theorem rendered_eq (htwins : flow.Twins flow') {tool tool' : Tool X (World L)}
    (htool : tool.Twins tool') (raw : Json) {state state' : CallState X L}
    (h : StatesAgree found ran state state') :
    flow'.rendered tool' raw state' = flow.rendered tool raw state := by
  have hauth := h.slots .auth (by decide) (by decide) (by decide)
  have hsession := h.slots .session (by decide) (by decide) (by decide)
  have hvalidated := h.slots .validated (by decide) (by decide) (by decide)
  unfold rendered plainResult renderRequest sessionOf
  rw [htool.definition_eq, htool.name_eq, htwins.renderer_eq, hauth, hsession, hvalidated]

theorem finalize_alike (htwins : flow.Twins flow') :
    StepAlike flow flow' .finalize found ran found ran := by
  intro ctx ctx' h
  refine AnswersAgree.require h h.states.tools
    fun (tool tool' : Tool X (World L)) hget _ (htool : tool.Twins tool') => ?_
  refine AnswersAgree.require h h.states.raw.rel fun (raw raw' : Json) _ _ hraw => ?_
  rw [htool.outputViolations_eq, htool.name_eq]
  rcases hraw with rfl | ⟨other, hother, hoff, hoff'⟩
  · cases tool.outputViolations raw' with
    | nil =>
      change ((HookM.state >>= fun state => HookM.lift (flow.rendered tool raw' state) >>=
          fun result => (HookM.setOutput result.toJson : ToolM X L Unit)) ctx).Alike _
        ((HookM.state >>= fun state => HookM.lift (flow'.rendered tool' raw' state) >>=
          fun result => (HookM.setOutput result.toJson : ToolM X L Unit)) ctx')
      rw [HookM.bind_state, HookM.bind_state, HookM.bind_lift, HookM.bind_lift,
        rendered_eq htwins htool raw' h.states]
      have hsame := Task.Alike.same (R := (· = ·)) (flow.rendered tool raw' ctx.state) fun _ => rfl
      refine hsame.bind fun result result' heq => ?_
      rw [heq]
      exact Task.Alike.done (.passed (h.apply ⟨rfl, rfl⟩ rfl h.states))
    | cons violation rest => exact AnswersAgree.fault h (.same _)
  · obtain rfl : tool = other := Option.some.inj (hget.symm.trans hother)
    cases hviolations : tool.outputViolations raw with
    | nil => exact absurd hviolations hoff
    | cons violation rest =>
      cases hviolations' : tool.outputViolations raw' with
      | nil => exact absurd hviolations' hoff'
      | cons violation' rest' => exact AnswersAgree.fault h (.same _)

end CallFlow

end StagedFlow
