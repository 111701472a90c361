import Mathlib.Data.List.Permutation
import StagedFlow.Proofs.Contributions
import StagedFlow.Proofs.Layers

/-!
# Tool servers assembled of plugins

A tool server has the plugins that open the registries of flows, hooks and tools, the plugin for the
tool flows, and any others that contribute to these registries. In whatever order they are added,
the registries are open when the first contribution is made, and frozen after the last one.
-/

namespace StagedFlow

variable {X L : Type}

open ServerM Server

structure Contributor (X L : Type) where
  info : PluginInfo
  contributions : List (Contribution X L)
  /-- What the plugin says when it gives up. -/
  complaint : String
  cleanup : Program (Store X L)

def Contributor.plugin (contributor : Contributor X L) : Plugin (Store X L) where
  info := contributor.info
  build := .handing contributor.complaint contributor.contributions
  ready := .done
  cleanup := contributor.cleanup

inductive Part (X L : Type) where
  | flows
  | tools
  | toolFlows (auth : Option AuthConfig) (renderer : Option (Renderer (World L)))
  | contributor (contributor : Contributor X L)

namespace Part

def plugin : Part X L → Plugin (Store X L)
  | flows => flowsPlugin
  | tools => toolsPlugin
  | toolFlows auth renderer => toolFlowsPlugin auth renderer
  | contributor c => c.plugin

def contributor? : Part X L → Option (Contributor X L)
  | contributor c => some c
  | _ => none

def contributions : Part X L → List (Contribution X L)
  | toolFlows _ _ => [.flow callFlow, .flow listFlow]
  | contributor c => c.contributions
  | _ => []

/-- The plugin depends on no other one. -/
def opens (part : Part X L) : Bool := part.plugin.info.dependencies.isEmpty

end Part

def contributors (parts : List (Part X L)) : List (Contributor X L) :=
  parts.filterMap Part.contributor?

def contributed (parts : List (Part X L)) : List (Contribution X L) :=
  parts.flatMap Part.contributions

/-- Plugins of a tool server: the plugins for flows, tools and tool flows, once each, and others
that depend on the first two of these. What these others contribute is sound, and suits what the
others of them contribute. -/
structure Offered (parts : List (Part X L)) : Prop where
  perm : ∃ auth renderer, parts.Perm
    (.flows :: .tools :: .toolFlows auth renderer :: (contributors parts).map .contributor)
  types : (parts.map fun part => part.plugin.info.type).Nodup
  dependencies : ∀ c ∈ contributors parts, ∀ dependency,
    dependency ∈ c.info.dependencies ↔ dependency ∈ [flowsPluginType, toolsPluginType]
  sound : ∀ c ∈ contributors parts, ∀ contribution ∈ c.contributions, contribution.Sound
  suits : ((contributors parts).flatMap Contributor.contributions).Pairwise Contribution.Suits
  /-- Hooks for the tool flows are on stages of these. -/
  allowed : ∀ c ∈ contributors parts, ∀ token hook, .hook token hook ∈ c.contributions →
    ∀ toolFlow ∈ [callToken, listToken], toolFlow.name = token.name →
      toolFlow.kind.allows hook.stage = true
  /-- The flows need no providers. -/
  free : ∀ c ∈ contributors parts, ∀ flow, .flow flow ∈ c.contributions → flow.dependencies = []

/-- Plugins of a tool server that respect its names. -/
structure Assembly (parts : List (Part X L)) : Prop extends Offered parts where
  /-- None of the others passes itself off as one of those that it depends on. -/
  names : ∀ c ∈ contributors parts, c.info.name ∉ [flowsPluginType, toolsPluginType]
  /-- None of the others declares a flow under the name of a tool flow. -/
  apart : ∀ c ∈ contributors parts, ∀ flow, .flow flow ∈ c.contributions →
    flow.name ∉ [callToken.name, listToken.name]

theorem checked_callFlow : (callFlow : ServedFlow X L).Checked where
  plan := show callPlan.validate = .ok () by decide
  stages := show ∀ stage ∈ callPlan.stages, callToken.kind.allows stage = true by decide

theorem checked_listFlow : (listFlow : ServedFlow X L).Checked where
  plan := show listPlan.validate = .ok () by decide
  stages := show ∀ stage ∈ listPlan.stages, listToken.kind.allows stage = true by decide

namespace Assembly

variable {parts : List (Part X L)}

theorem opens_eq_false (h : Assembly parts) {c : Contributor X L} (hc : c ∈ contributors parts) :
    (Part.contributor c).opens = false := by
  have hmem : flowsPluginType ∈ c.info.dependencies :=
    (h.dependencies c hc _).mpr List.mem_cons_self
  exact List.isEmpty_eq_false_iff.mpr (List.ne_nil_of_mem hmem)

theorem mem_iff (h : Assembly parts) : ∃ auth renderer, ∀ part, part ∈ parts ↔
    part = .flows ∨ part = .tools ∨ part = .toolFlows auth renderer ∨
      ∃ c ∈ contributors parts, part = .contributor c := by
  obtain ⟨auth, renderer, hperm⟩ := h.perm
  refine ⟨auth, renderer, fun part => hperm.mem_iff.trans ?_⟩
  simp only [List.mem_cons, List.mem_map, eq_comm]

theorem mem_contributed (h : Assembly parts) (contribution : Contribution X L) :
    contribution ∈ contributed parts ↔ contribution = .flow callFlow ∨
      contribution = .flow listFlow ∨ ∃ c ∈ contributors parts, contribution ∈ c.contributions := by
  obtain ⟨auth, renderer, hmem⟩ := h.mem_iff
  rw [contributed, List.mem_flatMap]
  constructor
  · rintro ⟨part, hpart, hmade⟩
    rcases (hmem part).mp hpart with rfl | rfl | rfl | ⟨c, hc, rfl⟩
    · exact absurd hmade List.not_mem_nil
    · exact absurd hmade List.not_mem_nil
    · rcases List.mem_cons.mp hmade with rfl | hlist
      · exact .inl rfl
      · exact .inr (.inl (List.mem_singleton.mp hlist))
    · exact .inr (.inr ⟨c, hc, hmade⟩)
  · rintro (rfl | rfl | ⟨c, hc, hmade⟩)
    · exact ⟨_, (hmem _).mpr (.inr (.inr (.inl rfl))), List.mem_cons_self⟩
    · exact ⟨_, (hmem _).mpr (.inr (.inr (.inl rfl))), List.mem_cons_of_mem _ List.mem_cons_self⟩
    · exact ⟨_, (hmem _).mpr (.inr (.inr (.inr ⟨c, hc, rfl⟩))), hmade⟩

theorem sound_contributed (h : Assembly parts) {contribution : Contribution X L}
    (hmem : contribution ∈ contributed parts) : contribution.Sound := by
  rcases (h.mem_contributed contribution).mp hmem with rfl | rfl | ⟨c, hc, hmade⟩
  · exact checked_callFlow
  · exact checked_listFlow
  · exact h.sound c hc contribution hmade

/-- All that is contributed suits, the two tool flows included. -/
theorem suits_contributed (h : Assembly parts) :
    (contributed parts).Pairwise Contribution.Suits := by
  obtain ⟨auth, renderer, hperm⟩ := h.perm
  have hcontributed : (contributed parts).Perm ([.flow callFlow, .flow listFlow] ++
      (contributors parts).flatMap Contributor.contributions) := by
    refine (hperm.flatMap_right Part.contributions).trans (.of_eq ?_)
    simp only [List.flatMap_cons, List.flatMap_map]
    rfl
  have htools : ∀ flow : ServedFlow X L, flow.token ∈ [callToken, listToken] →
      ∀ contribution ∈ (contributors parts).flatMap Contributor.contributions,
        (Contribution.flow flow).Suits contribution := by
    intro flow htoken contribution hcontribution
    obtain ⟨c, hc, hmade⟩ := List.mem_flatMap.mp hcontribution
    cases contribution with
    | tool t => trivial
    | flow other =>
      intro hname
      refine h.apart c hc other hmade (hname ▸ ?_)
      exact List.mem_map_of_mem (f := FlowToken.name) htoken
    | hook token hook => exact h.allowed c hc token hook hmade flow.token htoken
  refine (hcontributed.pairwise_iff fun hsuits => hsuits.symm).mpr (List.pairwise_append.mpr
    ⟨?_, h.suits, ?_⟩)
  · exact List.pairwise_pair.mpr (show "tools:call-tool" ≠ "tools:list-tools" by decide)
  · simp only [List.forall_mem_cons]
    exact ⟨htools callFlow List.mem_cons_self,
      htools listFlow (List.mem_cons_of_mem _ List.mem_cons_self), List.forall_mem_nil _⟩

/-- Two plugins depend on nothing; the others depend on these. -/
theorem layered (h : Assembly parts) :
    Layered ((parts.map Part.plugin).map Plugin.info) [flowsPluginType, toolsPluginType] := by
  obtain ⟨auth, renderer, hmem⟩ := h.mem_iff
  constructor
  case dependencies =>
    simp only [List.forall_mem_map]
    intro part hpart
    rcases (hmem part).mp hpart with rfl | rfl | rfl | ⟨c, hc, rfl⟩
    · exact .inl rfl
    · exact .inl rfl
    · exact .inr fun _ => Iff.rfl
    · exact .inr (h.dependencies c hc)
  case met =>
    have hinfo : ∀ part ∈ parts, part.plugin.info ∈ (parts.map Part.plugin).map Plugin.info :=
      fun part hpart => List.mem_map_of_mem (List.mem_map_of_mem hpart)
    simp only [List.forall_mem_cons]
    refine ⟨⟨_, hinfo .flows ((hmem _).mpr (.inl rfl)), rfl⟩,
      ⟨_, hinfo .tools ((hmem _).mpr (.inr (.inl rfl))), rfl⟩, List.forall_mem_nil _⟩
  case bare =>
    simp only [List.forall_mem_map]
    intro part hpart hneeded
    rcases (hmem part).mp hpart with rfl | rfl | rfl | ⟨c, hc, rfl⟩
    · rfl
    · rfl
    · exact absurd hneeded (show toolFlowsPluginType ∉ _ by decide)
    · exact absurd hneeded (h.names c hc)

/-- The registries are opened by two plugins. -/
theorem filter_opens (h : Assembly parts) :
    parts.filter Part.opens = [.flows, .tools] ∨ parts.filter Part.opens = [.tools, .flows] := by
  obtain ⟨auth, renderer, hperm⟩ := h.perm
  have hnone : ((contributors parts).map Part.contributor).filter Part.opens = [] := by
    rw [List.filter_eq_nil_iff]
    simp only [List.forall_mem_map, Bool.not_eq_true]
    exact fun c hc => h.opens_eq_false hc
  have hopens := hperm.filter Part.opens
  rw [List.filter_cons_of_pos rfl, List.filter_cons_of_pos rfl,
    List.filter_cons_of_neg Bool.false_ne_true, hnone] at hopens
  exact List.perm_pair.mp hopens

theorem contributed_filter (h : Assembly parts) :
    contributed (parts.filter fun part => !part.opens) = contributed parts := by
  obtain ⟨auth, renderer, hmem⟩ := h.mem_iff
  have hnone : ∀ part ∈ parts, part.opens = true → part.contributions = [] := by
    intro part hpart hopens
    rcases (hmem part).mp hpart with rfl | rfl | rfl | ⟨c, hc, rfl⟩
    · rfl
    · rfl
    · cases hopens
    · rw [h.opens_eq_false hc] at hopens
      cases hopens
  clear h hmem
  induction parts with
  | nil => rfl
  | cons part rest ih =>
    obtain ⟨hfirst, hrest⟩ := List.forall_mem_cons.mp hnone
    cases hopens : part.opens with
    | true =>
      rw [List.filter_cons_of_neg (by simp [hopens]), ih hrest, contributed, contributed,
        List.flatMap_cons, hfirst hopens, List.nil_append]
    | false =>
      rw [List.filter_cons_of_pos (by simp [hopens]), contributed, contributed, List.flatMap_cons,
        List.flatMap_cons]
      exact congrArg _ (ih hrest)

end Assembly

/-! ### Building the plugins -/

def Store.opened (store : Store X L) : Store X L :=
  store.openFlows.putResource .tools ToolRegistry.empty

theorem Store.gathers_opened (store : Store X L) : store.opened.Gathers [] where
  tools := Bag.get?_insert_self _ _ _
  flows := (Bag.get?_insert_of_ne _ _ (by decide)).trans (Bag.get?_insert_self _ _ _)
  hooks := Bag.get?_insert_self _ _ _

theorem Store.Gathers.provideTo {store : Store X L} {before : List (Contribution X L)}
    (h : store.Gathers before) (auth : Option AuthConfig) (renderer : Option (Renderer (World L))) :
    (store.provideTo auth renderer).Gathers before := by
  cases auth <;> cases renderer <;> exact ⟨h.tools, h.flows, h.hooks⟩

/-- A plugin that opens no registry takes nothing away from those that are open. -/
theorem Store.Gathers.exists_takes {store : Store X L} {before : List (Contribution X L)}
    (h : store.Gathers before) {part : Part X L} (hopens : part.opens = false)
    (hsound : ∀ c ∈ part.contributions, c.Sound)
    (hsuits : (before ++ part.contributions).Pairwise Contribution.Suits) :
    ∃ later, part.plugin.build.Takes store later ∧
      later.Gathers (before ++ part.contributions) := by
  cases part with
  | flows => cases hopens
  | tools => cases hopens
  | toolFlows auth renderer =>
    obtain ⟨later, hdeclare, hgathers⟩ := (h.provideTo auth renderer).exists_declare
      [callFlow, listFlow] "FlowsPlugin must be added before ToolFlowsPlugin"
    exact ⟨later, .act rfl (.act hdeclare (.done later)), hgathers⟩
  | contributor c => exact h.exists_handing hsound hsuits c.complaint

theorem Store.Gathers.exists_passes {store : Store X L} {before : List (Contribution X L)}
    (h : store.Gathers before) {parts : List (Part X L)}
    (hopens : ∀ part ∈ parts, part.opens = false) (hsound : ∀ c ∈ contributed parts, c.Sound)
    (hsuits : (before ++ contributed parts).Pairwise Contribution.Suits) :
    ∃ later, Passes Plugin.build (parts.map Part.plugin) store later ∧
      later.Gathers (before ++ contributed parts) := by
  induction parts generalizing store before with
  | nil =>
    refine ⟨store, .nil store, ?_⟩
    rwa [contributed, List.flatMap_nil, List.append_nil]
  | cons part rest ih =>
    obtain ⟨hfirst, hrest⟩ := List.forall_mem_cons.mp hopens
    rw [contributed, List.flatMap_cons] at hsound hsuits ⊢
    obtain ⟨hsoundFirst, hsoundRest⟩ := List.forall_mem_append.mp hsound
    rw [← List.append_assoc] at hsuits ⊢
    obtain ⟨mid, htakes, hmid⟩ :=
      h.exists_takes hfirst hsoundFirst (List.pairwise_append.mp hsuits).1
    obtain ⟨later, hpasses, hlater⟩ := ih hmid hrest hsoundRest hsuits
    exact ⟨later, .cons htakes hpasses, hlater⟩

def Store.frozen (store : Store X L) (tools : List (Tool X (World L))) : Store X L :=
  { store with resources := store.resources.erase .tools }.provide .tools ⟨tools⟩

theorem Store.Gathers.freezeTools_eq {store : Store X L} {contributions : List (Contribution X L)}
    (h : store.Gathers contributions) :
    store.freezeTools = .ok (store.frozen (contributions.filterMap Contribution.tool?)) := by
  rw [Store.freezeTools, h.tools]
  rfl

namespace Assembly

variable {parts : List (Part X L)}

def inOrder (parts : List (Part X L)) : List (Plugin (Store X L)) :=
  (parts.filter Part.opens).map Part.plugin ++
    (parts.filter fun part => !part.opens).map Part.plugin

theorem sorted_eq (h : Assembly parts) :
    Server.sorted [] (parts.map Part.plugin) = .ok (inOrder parts) := by
  rw [sorted_of_layered h.layered, List.filter_map, List.filter_map]
  rfl

/-- The registries are opened before contributions are made. -/
theorem exists_passes_build (h : Assembly parts) (store : Store X L) :
    ∃ later, Passes Plugin.build (inOrder parts) store later ∧
      later.Gathers (contributed parts) := by
  have hopened : Passes Plugin.build ((parts.filter Part.opens).map Part.plugin) store
      store.opened := by
    rcases h.filter_opens with hfilter | hfilter <;> rw [hfilter]
    · exact .cons (.act rfl (.done _)) (.cons (.act rfl (.done _)) (.nil _))
    · exact .cons (.act rfl (.done _)) (.cons (.act rfl (.done _)) (.nil _))
  let rest := parts.filter fun part => !part.opens
  have hopens : ∀ part ∈ rest, part.opens = false := fun part hpart =>
    (Bool.not_eq_true' _).mp (List.mem_filter.mp hpart).2
  have hcontributed : contributed rest = contributed parts := h.contributed_filter
  have hsound : ∀ c ∈ contributed rest, c.Sound := by
    rw [hcontributed]
    exact fun _ => h.sound_contributed
  have hsuits : ([] ++ contributed rest).Pairwise Contribution.Suits := by
    rw [List.nil_append, hcontributed]
    exact h.suits_contributed
  obtain ⟨later, hpasses, hgathers⟩ := store.gathers_opened.exists_passes hopens hsound hsuits
  rw [List.nil_append, hcontributed] at hgathers
  exact ⟨later, hopened.append hpasses, hgathers⟩

/-- The registry of tools is frozen when all contributions are made. -/
theorem passes_ready (h : Assembly parts) {store : Store X L}
    (hgathers : store.Gathers (contributed parts)) :
    Passes Plugin.ready (inOrder parts) store
      (store.frozen ((contributed parts).filterMap Contribution.tool?)) := by
  have hfreeze : (toolsPlugin : Plugin (Store X L)).ready.Takes store
      (store.frozen ((contributed parts).filterMap Contribution.tool?)) :=
    .act hgathers.freezeTools_eq (.done _)
  have hidle : ∀ plugin ∈ (parts.filter fun part => !part.opens).map Part.plugin,
      plugin.ready = .done := by
    simp only [List.forall_mem_map]
    intro part hpart
    have hopens := (List.mem_filter.mp hpart).2
    cases part with
    | tools => cases hopens
    | flows => rfl
    | toolFlows auth renderer => rfl
    | contributor c => rfl
  have hroots : Passes Plugin.ready ((parts.filter Part.opens).map Part.plugin) store
      (store.frozen ((contributed parts).filterMap Contribution.tool?)) := by
    rcases h.filter_opens with hfilter | hfilter <;> rw [hfilter]
    · exact .cons (.done _) (.cons hfreeze (.nil _))
    · exact .cons hfreeze (.cons (.done _) (.nil _))
  exact hroots.append (.of_done hidle _)

end Assembly

section Adding

variable {S : Type} {plugins : List (Plugin S)} {plugin : Plugin S} {server : Server S}

/-- A program that adds a plugin goes on when the plugin is added. -/
theorem run_add (plugin : Plugin S) (next : Program S) :
    run (.add plugin.info plugin.build plugin.ready plugin.cleanup next) =
      add plugin >>= fun _ => run next := by
  simp only [add, run, Program.run, bind_assoc]
  congr! 3
  funext server
  by_cases hbuilding : server.progress = .building
  · simp only [if_pos hbuilding, bind_assoc, pure_bind]
  · simp only [if_neg hbuilding, bind_assoc, pure_bind]

theorem run_addAll (plugins : List (Plugin S)) :
    run (.addAll plugins .done) = plugins.forM add := by
  induction plugins with
  | nil => rfl
  | cons plugin rest ih =>
    rw [List.forM, ← ih, ← run_add]
    rfl

/-- A plugin of a new type waits until the server is finished. -/
theorem exec_add (hprogress : server.progress = .notStarted)
    (hnew : plugin.info.type ∉ server.types) :
    exec (add plugin) server = (.ok (),
      { server with
        pending := server.pending ++ [plugin]
        types := server.types ++ [plugin.info.type] }) := by
  have henlist : exec (enlist plugin.info) server =
      (.ok (), { server with types := server.types ++ [plugin.info.type] }) := by
    rw [exec_enlist, if_neg (by simp [hnew])]
  have hstays : server.progress ≠ .building := by
    rw [hprogress]
    decide
  change exec (enlist plugin.info >>= fun _ => _) server = _
  rw [exec_bind_of_ok henlist, exec_bind_of_ok (exec_get _), if_neg hstays,
    exec_bind_of_ok (exec_suspend _ _)]
  rfl

/-- Plugins of different types can be added one after another. -/
theorem exec_forM_add (hprogress : server.progress = .notStarted)
    (htypes : (server.types ++ plugins.map fun plugin => plugin.info.type).Nodup) :
    exec (plugins.forM add) server = (.ok (),
      { server with
        pending := server.pending ++ plugins
        types := server.types ++ plugins.map fun plugin => plugin.info.type }) := by
  induction plugins generalizing server with
  | nil =>
    rw [List.map_nil, List.append_nil, List.append_nil]
    exact exec_pure _ _
  | cons plugin rest ih =>
    rw [List.map_cons, List.append_cons] at htypes
    have hnew : plugin.info.type ∉ server.types := fun hold =>
      List.disjoint_of_nodup_append (List.pairwise_append.mp htypes).1 hold List.mem_cons_self
    let next : Server S :=
      ⟨server.store, server.progress, server.pending ++ [plugin], server.built,
        server.types ++ [plugin.info.type]⟩
    have hrest := @ih next hprogress htypes
    simp only [next, List.append_assoc, List.singleton_append] at hrest
    exact (exec_bind_of_ok (exec_add hprogress hnew)).trans hrest

end Adding

/-! ### What has arrived -/

/-- How a server that is assembled of plugins finishes, and what it holds then. -/
structure Assembled (parts : List (Part X L)) (before after : Store X L) : Prop where
  finishes : ∃ added finished : Server (Store X L),
    exec (run (.addAll (parts.map Part.plugin) .done)) (.start before) = (.ok (), added) ∧
      exec finish added = (.ok (), finished) ∧ finished.store = after
  /-- The registry of tools is frozen. -/
  resource : after.resources.get? .tools = none
  tools : after.providers.get? .tools =
    some (⟨(contributed parts).filterMap Contribution.tool?⟩ : ToolRegistry X (World L))
  flows : after.flows = (contributed parts).filterMap Contribution.flow?
  hooks : after.hooks.hooks = (contributed parts).filterMap Contribution.hook?
  mem_flows : ∀ flow, flow ∈ after.flows ↔ flow = callFlow ∨ flow = listFlow ∨
    ∃ c ∈ contributors parts, .flow flow ∈ c.contributions
  /-- If flows can be made of the providers, then all flows are there, each with its own hooks and
  behind them those for it, in the order of addition. -/
  boots : (∀ c ∈ contributors parts, ∀ flow, .flow flow ∈ c.contributions →
      flow.Starts after.providers) → ∀ others w, ∃ registry : ServedFlows X L,
    (after.boot.amid others w).value = .ok registry ∧
      registry.MadeFrom after.providers after.hooks after.flows ∧
      ∀ flow ∈ after.flows, ∃ inst, registry.get? flow.name = some inst ∧
        inst.definition = flow ∧ ∀ token hook, .hook token hook ∈ contributed parts →
          token.name = flow.name → hook ∈ inst.hooks.bindings

theorem starts_callFlow {providers : Providers X L} {tools : ToolRegistry X (World L)}
    (h : providers.get? .tools = some tools) : callFlow.Starts providers := by
  refine ⟨_, CallFlow.prepare_callFlow h, fun hook hhook => ?_, fun w => .done ()⟩
  exact checked_callFlow.stages hook.stage (CallFlow.stage_mem_of_mem_table hhook)

theorem starts_listFlow {providers : Providers X L} {tools : ToolRegistry X (World L)}
    (h : providers.get? .tools = some tools) : listFlow.Starts providers := by
  refine ⟨_, ListFlow.prepare_listFlow h, ?_, fun w => .done ()⟩
  exact List.forall_mem_cons.mpr ⟨rfl, List.forall_mem_cons.mpr
    ⟨rfl, List.forall_mem_singleton.mpr rfl⟩⟩

namespace Assembly

variable {parts : List (Part X L)}

theorem flow_mem_iff (flow : ServedFlow X L) :
    flow ∈ (contributed parts).filterMap Contribution.flow? ↔
      .flow flow ∈ contributed parts := by
  rw [List.mem_filterMap]
  constructor
  · rintro ⟨c, hc, hflow⟩
    cases c with
    | tool t => cases hflow
    | flow f => exact Option.some.inj hflow ▸ hc
    | hook token h => cases hflow
  · exact fun hmem => ⟨_, hmem, rfl⟩

theorem hook_mem_iff (name : String) (hook : HookBinding (Handler X L)) :
    (name, hook) ∈ (contributed parts).filterMap Contribution.hook? ↔
      ∃ token, .hook token hook ∈ contributed parts ∧ token.name = name := by
  rw [List.mem_filterMap]
  constructor
  · rintro ⟨c, hc, hhook⟩
    cases c with
    | tool t => cases hhook
    | flow f => cases hhook
    | hook token h =>
      cases hhook
      exact ⟨token, hc, rfl⟩
  · rintro ⟨token, hmem, rfl⟩
    exact ⟨_, hmem, rfl⟩

theorem nodup_flows (h : Assembly parts) :
    (((contributed parts).filterMap Contribution.flow?).map Definition.name).Nodup := by
  rw [List.Nodup, List.pairwise_map]
  refine h.suits_contributed.filterMap _ fun c c' hsuits flow hflow flow' hflow' => ?_
  cases c <;> cases hflow
  cases c' <;> cases hflow'
  exact hsuits

theorem allows_of_hook (h : Assembly parts) {flow : ServedFlow X L} {token : FlowToken}
    {hook : HookBinding (Handler X L)} (hflow : .flow flow ∈ contributed parts)
    (hhook : .hook token hook ∈ contributed parts) (hname : token.name = flow.name) :
    flow.token.kind.allows hook.stage = true := by
  have : Std.Symm (Contribution.Suits (X := X) (L := L)) := ⟨fun _ _ => Contribution.Suits.symm⟩
  exact h.suits_contributed.forall hflow hhook nofun hname.symm

/-- All flows of the server can be made of its providers. -/
theorem exists_booted (h : Assembly parts) {store : Store X L}
    (htools : store.providers.get? .tools =
      some (⟨(contributed parts).filterMap Contribution.tool?⟩ : ToolRegistry X (World L)))
    (hflows : store.flows = (contributed parts).filterMap Contribution.flow?)
    (hhooks : store.hooks.hooks = (contributed parts).filterMap Contribution.hook?)
    (hstarts : ∀ c ∈ contributors parts, ∀ flow, .flow flow ∈ c.contributions →
      flow.Starts store.providers) (others : List (World L → World L)) (w : World L) :
    ∃ registry : ServedFlows X L, (store.boot.amid others w).value = .ok registry ∧
      registry.MadeFrom store.providers store.hooks store.flows ∧
      ∀ flow ∈ store.flows, ∃ inst, registry.get? flow.name = some inst ∧
        inst.definition = flow ∧ ∀ token hook, .hook token hook ∈ contributed parts →
          token.name = flow.name → hook ∈ inst.hooks.bindings := by
  have hmem : ∀ flow, flow ∈ store.flows ↔ .flow flow ∈ contributed parts := fun flow => by
    rw [hflows, flow_mem_iff]
  have hfor : ∀ flow : ServedFlow X L, ∀ hook, hook ∈ store.hooks.hooksFor flow.name ↔
      ∃ token, .hook token hook ∈ contributed parts ∧ token.name = flow.name := by
    intro flow hook
    rw [← hook_mem_iff, ← hhooks, HookRegistry.hooksFor, List.mem_map]
    constructor
    · rintro ⟨entry, hentry, rfl⟩
      obtain ⟨hentry, hname⟩ := List.mem_filter.mp hentry
      rwa [← beq_iff_eq.mp hname]
    · exact fun hentry => ⟨_, List.mem_filter.mpr ⟨hentry, beq_self_eq_true _⟩, rfl⟩
  have hchecked : Definition.checkAll [] store.flows = .ok () := by
    refine (Definition.checkAll_eq_ok_iff [] store.flows).mpr ⟨fun flow hflow => ?_, ?_⟩
    · exact ⟨List.not_mem_nil, h.sound_contributed ((hmem flow).mp hflow)⟩
    · rw [hflows]
      exact h.nodup_flows
  have hcontains : store.providers.contains .tools = true := by
    rw [Bag.contains_eq_isSome, htools]
    rfl
  have hcases : ∀ flow ∈ store.flows, flow = callFlow ∨ flow = listFlow ∨
      ∃ c ∈ contributors parts, .flow flow ∈ c.contributions := by
    intro flow hflow
    simpa using (h.mem_contributed (.flow flow)).mp ((hmem flow).mp hflow)
  have hdependencies : Definition.checkDependencies store.providers store.flows = .ok () := by
    refine Definition.checkDependencies_eq_ok_iff.mpr fun flow hflow key hkey => ?_
    rcases hcases flow hflow with rfl | rfl | ⟨c, hc, hmade⟩
    · rwa [List.mem_singleton.mp hkey]
    · rwa [List.mem_singleton.mp hkey]
    · rw [h.free c hc flow hmade] at hkey
      exact absurd hkey List.not_mem_nil
  have hall : ∀ flow ∈ store.flows, flow.Starts store.providers := by
    intro flow hflow
    rcases hcases flow hflow with rfl | rfl | ⟨c, hc, hmade⟩
    · exact starts_callFlow htools
    · exact starts_listFlow htools
    · exact hstarts c hc flow hmade
  obtain ⟨registry, hvalue, hmade⟩ := FlowRegistry.exists_madeFrom hchecked hall
    (fun flow hflow hook hhook => by
      obtain ⟨token, hcontributed, hname⟩ := (hfor flow hook).mp hhook
      exact h.allows_of_hook ((hmem flow).mp hflow) hcontributed hname) others w
  refine ⟨registry, FlowRegistry.value_boot_eq_ok_iff.mpr ⟨⟨hchecked, hdependencies⟩, hvalue⟩,
    hmade, fun flow hflow => ?_⟩
  obtain ⟨inst, hget, hinst⟩ := hmade.get?_eq flow hflow
  obtain ⟨prepared, -, hbindings⟩ := hinst.bindings_eq
  refine ⟨inst, hget, hinst.definition_eq, fun token hook hhook hname => ?_⟩
  rw [hbindings]
  exact List.mem_append_right _ ((hfor flow hook).mpr ⟨token, hhook, hname⟩)

theorem exists_assembled (h : Assembly parts) (before : Store X L) :
    ∃ after, Assembled parts before after := by
  let added : Server (Store X L) :=
    ⟨before, .notStarted, parts.map Part.plugin, [],
      (parts.map Part.plugin).map fun plugin => plugin.info.type⟩
  have htypes : (((parts.map Part.plugin).map fun plugin => plugin.info.type)).Nodup := by
    rw [List.map_map]
    exact h.types
  have hadd : exec (run (.addAll (parts.map Part.plugin) .done)) (.start before) =
      (.ok (), added) := by
    rw [run_addAll]
    exact exec_forM_add rfl htypes
  obtain ⟨built, hbuild, hgathers⟩ := h.exists_passes_build before
  let after := built.frozen ((contributed parts).filterMap Contribution.tool?)
  have hfresh : added.Fresh := ⟨rfl, rfl⟩
  have hfinish := hbuild.exec_finish hfresh h.sorted_eq (h.passes_ready hgathers)
  have htools : after.providers.get? .tools =
      some (⟨(contributed parts).filterMap Contribution.tool?⟩ : ToolRegistry X (World L)) :=
    Bag.get?_insert_self _ _ _
  have hflows : after.flows = (contributed parts).filterMap Contribution.flow? :=
    congrArg (Option.getD · []) hgathers.flows
  have hhooks : after.hooks.hooks = (contributed parts).filterMap Contribution.hook? := by
    rw [Store.hooks]
    exact congrArg (fun hooks => HookRegistry.hooks (Option.getD hooks .empty)) hgathers.hooks
  refine ⟨after, ⟨added, _, hadd, hfinish, rfl⟩, Bag.get?_erase_self _ _, htools, hflows, hhooks,
    fun flow => ?_, h.exists_booted htools hflows hhooks⟩
  rw [hflows, flow_mem_iff, h.mem_contributed, Contribution.flow.injEq, Contribution.flow.injEq]

end Assembly

theorem Offered.of_perm {parts parts' : List (Part X L)} (h : Offered parts)
    (hperm : parts'.Perm parts) : Offered parts' := by
  have hcontributors : (contributors parts').Perm (contributors parts) := hperm.filterMap _
  constructor
  case perm =>
    obtain ⟨auth, renderer, hall⟩ := h.perm
    refine ⟨auth, renderer, (hperm.trans hall).trans ?_⟩
    exact (((hcontributors.symm.map _).cons _).cons _).cons _
  case types => exact (hperm.map _).nodup_iff.mpr h.types
  case dependencies => exact fun c hc => h.dependencies c (hcontributors.mem_iff.mp hc)
  case sound => exact fun c hc => h.sound c (hcontributors.mem_iff.mp hc)
  case suits =>
    exact ((hcontributors.flatMap_right _).pairwise_iff fun hsuits => hsuits.symm).mpr h.suits
  case allowed => exact fun c hc => h.allowed c (hcontributors.mem_iff.mp hc)
  case free => exact fun c hc => h.free c (hcontributors.mem_iff.mp hc)

/-- The plugins of a tool server with one more. -/
theorem Offered.of_contributor {auth : Option AuthConfig} {renderer : Option (Renderer (World L))}
    {c : Contributor X L}
    (htype : c.info.type ∉ [flowsPluginType, toolsPluginType, toolFlowsPluginType])
    (hdependencies : c.info.dependencies.Perm [flowsPluginType, toolsPluginType])
    (hsound : ∀ contribution ∈ c.contributions, contribution.Sound)
    (hsuits : c.contributions.Pairwise Contribution.Suits)
    (hallowed : ∀ token hook, .hook token hook ∈ c.contributions →
      ∀ toolFlow ∈ [callToken, listToken], toolFlow.name = token.name →
        toolFlow.kind.allows hook.stage = true)
    (hfree : ∀ flow, .flow flow ∈ c.contributions → flow.dependencies = []) :
    Offered [.flows, .tools, .toolFlows auth renderer, .contributor c] where
  perm := ⟨auth, renderer, .refl _⟩
  types := by
    change ([flowsPluginType, toolsPluginType, toolFlowsPluginType] ++ [c.info.type]).Nodup
    refine List.nodup_append.mpr ⟨?_, List.nodup_singleton _, ?_⟩
    · decide
    · intro other hother type hown heq
      rw [heq, List.mem_singleton.mp hown] at hother
      exact htype hother
  dependencies := List.forall_mem_singleton.mpr fun _ => hdependencies.mem_iff
  sound := List.forall_mem_singleton.mpr hsound
  suits := by
    change (c.contributions ++ []).Pairwise Contribution.Suits
    rwa [List.append_nil]
  allowed := List.forall_mem_singleton.mpr hallowed
  free := List.forall_mem_singleton.mpr hfree

theorem Assembly.of_perm {parts parts' : List (Part X L)} (h : Assembly parts)
    (hperm : parts'.Perm parts) : Assembly parts' where
  toOffered := h.toOffered.of_perm hperm
  names c hc := h.names c ((hperm.filterMap _).mem_iff.mp hc)
  apart c hc := h.apart c ((hperm.filterMap _).mem_iff.mp hc)

/-- **Contributions arrive.** However the plugins of a tool server are ordered when they are added,
the server finishes; it holds what they contribute, in the order of addition, and in another order
it holds the same. -/
theorem contributions_arrive {parts : List (Part X L)} (h : Assembly parts) (before : Store X L) :
    ∃ after, Assembled parts before after ∧
      ∀ parts' : List (Part X L), parts'.Perm parts → ∃ after', Assembled parts' before after' ∧
        ((contributed parts').filterMap Contribution.tool?).Perm
          ((contributed parts).filterMap Contribution.tool?) ∧
        after'.flows.Perm after.flows := by
  obtain ⟨after, hafter⟩ := h.exists_assembled before
  refine ⟨after, hafter, fun parts' hperm => ?_⟩
  obtain ⟨after', hafter'⟩ := (h.of_perm hperm).exists_assembled before
  have hcontributed : (contributed parts').Perm (contributed parts) := hperm.flatMap_right _
  refine ⟨after', hafter', hcontributed.filterMap _, ?_⟩
  rw [hafter'.flows, hafter.flows]
  exact hcontributed.filterMap _

def Definition.idle : ServedFlow Unit Unit where
  token := ⟨"demo:idle", ⟨"demo", ["rest"]⟩⟩
  plan := Plan.empty.append .execute ["rest"]
  access := .everyone
  inputSchema := none
  outputSchema := none
  route := none
  guard _ := true
  dependencies := []
  prepare _ := .ok (.ofTable [])

def Contributor.versatile : Contributor Unit Unit where
  info := .ofType "Versatile" [toolsPluginType, flowsPluginType]
  contributions :=
    [.tool .echo, .hook callToken ⟨"watch", "execute", 0, none, .custom ()⟩, .flow .idle]
  complaint := "no registry"
  cleanup := .done

def Part.backwards : List (Part Unit Unit) :=
  [.contributor .versatile, .toolFlows none none, .tools, .flows]

theorem schemaFault?_echo : Tool.echo.schemaFault? = none := by decide +kernel

theorem eq_idle_of_mem {flow : ServedFlow Unit Unit}
    (hflow : .flow flow ∈ Contributor.versatile.contributions) : flow = .idle := by
  have hidle := (List.mem_cons.mp hflow).resolve_left nofun
  have hidle := (List.mem_cons.mp hidle).resolve_left nofun
  exact Contribution.flow.inj (List.mem_singleton.mp hidle)

theorem eq_watch_of_mem {token : FlowToken} {hook : HookBinding (Handler Unit Unit)}
    (hhook : .hook token hook ∈ Contributor.versatile.contributions) :
    token = callToken ∧ hook = ⟨"watch", "execute", 0, none, .custom ()⟩ := by
  have hwatch := (List.mem_cons.mp hhook).resolve_left nofun
  exact Contribution.hook.inj ((List.mem_pair.mp hwatch).resolve_right nofun)

theorem offered_backwards : Offered Part.backwards := by
  have hoffered : Offered [.flows, .tools, .toolFlows none none, .contributor .versatile] := by
    refine .of_contributor (by decide) (.swap ..) ?_ ?_ (fun token hook hhook => ?_)
      fun flow hflow => ?_
    · exact List.forall_mem_cons.mpr ⟨schemaFault?_echo, List.forall_mem_cons.mpr
        ⟨rfl, List.forall_mem_singleton.mpr ⟨by decide, by decide⟩⟩⟩
    · have hapart : "demo:idle" ≠ "tools:call-tool" := by decide
      exact .cons (List.forall_mem_cons.mpr ⟨trivial, List.forall_mem_singleton.mpr trivial⟩)
        (List.pairwise_pair.mpr fun hname => absurd hname hapart)
    · obtain ⟨rfl, rfl⟩ := eq_watch_of_mem hhook
      decide
    · rw [eq_idle_of_mem hflow]
      rfl
  exact hoffered.of_perm (List.reverse_perm Part.backwards).symm

theorem assembly_backwards : Assembly Part.backwards where
  toOffered := offered_backwards
  names := by decide
  apart c hc flow hflow := by
    rw [List.mem_singleton.mp hc] at hflow
    rw [eq_idle_of_mem hflow]
    decide

theorem contributions_arrive_backwards :
    Assembly Part.backwards ∧ ∃ after : Store Unit Unit,
      Assembled Part.backwards (.start ()) after ∧
      after.providers.get? .tools = some (⟨[.echo]⟩ : ToolRegistry Unit (World Unit)) ∧
      after.flows = [.idle, callFlow, listFlow] ∧
      ∀ others w, ∃ registry : ServedFlows Unit Unit,
        (after.boot.amid others w).value = .ok registry ∧
          registry.names = ["demo:idle", "tools:call-tool", "tools:list-tools"] := by
  obtain ⟨after, hafter, -⟩ := contributions_arrive assembly_backwards (.start ())
  have hflows : after.flows = [.idle, callFlow, listFlow] := hafter.flows
  refine ⟨assembly_backwards, after, hafter, hafter.tools, hflows, fun others w => ?_⟩
  have hstarts : ∀ c ∈ contributors Part.backwards, ∀ flow,
      .flow flow ∈ c.contributions → flow.Starts after.providers := by
    intro c hc flow hflow
    rw [List.mem_singleton.mp hc] at hflow
    rw [eq_idle_of_mem hflow]
    exact ⟨.ofTable [], rfl, List.forall_mem_nil _, fun w => .done ()⟩
  obtain ⟨registry, hboot, hmade, -⟩ := hafter.boots hstarts others w
  refine ⟨registry, hboot, ?_⟩
  rw [hmade.names_eq, hflows]
  rfl

/-- A plugin that passes itself off as the one for flows. -/
def Contributor.masked : Contributor Unit Unit where
  info := ⟨"Masked", some flowsPluginType, true, [flowsPluginType, toolsPluginType]⟩
  contributions := []
  complaint := "no registry"
  cleanup := .done

def Definition.namesake : ServedFlow Unit Unit :=
  { Definition.idle with token := ⟨callToken.name, ⟨"demo", ["rest"]⟩⟩ }

def Contributor.namesake : Contributor Unit Unit where
  info := .ofType "Namesake" [flowsPluginType, toolsPluginType]
  contributions := [.flow .namesake]
  complaint := "no registry"
  cleanup := .done

def Part.maskedFirst : List (Part Unit Unit) :=
  [.contributor .masked, .flows, .tools, .toolFlows none none]

def Part.namesakeLast : List (Part Unit Unit) :=
  [.flows, .tools, .toolFlows none none, .contributor .namesake]

/-- Where names are not respected, contributions can be lost: a plugin that bears the name of the
one for flows is taken to depend on itself if it comes first, and no flow is served beside one of
the same name. -/
theorem contributions_lost_to_names :
    (Offered Part.maskedFirst ∧ ∃ added : Server (Store Unit Unit),
      exec (run (.addAll (Part.maskedFirst.map Part.plugin) .done)) (.start (.start ())) =
          (.ok (), added) ∧
        (exec finish added).1 = .error (.circular [flowsPluginType, toolFlowsPluginType])) ∧
      Offered Part.namesakeLast ∧ ∃ added finished : Server (Store Unit Unit),
        exec (run (.addAll (Part.namesakeLast.map Part.plugin) .done)) (.start (.start ())) =
            (.ok (), added) ∧
          exec finish added = (.ok (), finished) ∧
          ∀ others w, (finished.store.boot.amid others w).value =
            .error (.duplicateFlow callToken.name) := by
  have hmasked : Offered [.flows, .tools, .toolFlows none none, .contributor .masked] :=
    .of_contributor (by decide) (.refl _) (List.forall_mem_nil _) .nil (fun _ _ => nofun)
      fun _ => nofun
  have hnamesake : Offered Part.namesakeLast := by
    refine .of_contributor (by decide) (.refl _) ?_ (List.pairwise_singleton _ _)
      (fun token hook hhook => ?_) fun flow hflow => ?_
    · exact List.forall_mem_singleton.mpr ⟨by decide, by decide⟩
    · cases List.mem_singleton.mp hhook
    · cases List.mem_singleton.mp hflow
      rfl
  have hpasses : ∃ built later : Store Unit Unit,
      Passes Plugin.build (Part.namesakeLast.map Part.plugin) (.start ()) built ∧
        Passes Plugin.ready (Part.namesakeLast.map Part.plugin) built later ∧
        later.flows = [callFlow, listFlow, .namesake] :=
    ⟨_, _, .cons (.act rfl (.done _)) (.cons (.act rfl (.done _)) (.cons
        (.act rfl (.act rfl (.done _))) (.cons (.act rfl (.done _)) (.nil _)))),
      .cons (.done _) (.cons (.act rfl (.done _)) (.cons (.done _) (.cons (.done _) (.nil _)))),
      rfl⟩
  obtain ⟨built, later, hbuild, hready, hflows⟩ := hpasses
  have hsorted : Server.sorted [] (Part.namesakeLast.map Part.plugin) =
      .ok (Part.namesakeLast.map Part.plugin) := rfl
  have hchecked : Definition.checkAll [] [(callFlow : ServedFlow Unit Unit), listFlow, .namesake] =
      .error (.duplicateFlow callToken.name) := rfl
  refine ⟨⟨hmasked.of_perm (List.perm_append_singleton _ [_, _, _]).symm, _, rfl, rfl⟩,
    hnamesake, _, _, rfl, hbuild.exec_finish ⟨rfl, rfl⟩ hsorted hready, fun others w => ?_⟩
  change (later.boot.amid others w).value = _
  rw [Store.boot, hflows, FlowRegistry.boot, hchecked]
  rfl

end StagedFlow
