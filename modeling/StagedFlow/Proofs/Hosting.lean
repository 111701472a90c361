import StagedFlow.Demo.Server
import StagedFlow.Proofs.Assembly
import StagedFlow.Proofs.Enrolling

/-!
# The demo server

The plugins of the demo server do nothing but change its store, and none of their changes fails: the
schemas of the demo's tools are schemas, and their names differ. So the server can be assembled, and
what it holds then is known: the demo's tools, the demo's hooks, and nothing else of the kind.
-/

namespace StagedFlow

open ServerM Server

/-- Tools whose schemas are schemas are taken, if no name is given twice. -/
theorem ToolRegistry.foldlM_register_eq_ok {X W : Type} {tools : List (Tool X W)}
    {registry : ToolRegistry X W} (hsound : ∀ tool ∈ tools, tool.schemaFault? = none)
    (hnew : (registry.names ++ tools.map Tool.name).Nodup) :
    tools.foldlM register registry = .ok ⟨registry.tools ++ tools⟩ := by
  induction tools generalizing registry with
  | nil =>
    rw [List.append_nil]
    rfl
  | cons tool rest ih =>
    obtain ⟨hfirst, hrest⟩ := List.forall_mem_cons.mp hsound
    rw [List.map_cons, List.append_cons] at hnew
    have hfree : tool.name ∉ registry.names := fun hold =>
      List.disjoint_of_nodup_append (List.pairwise_append.mp hnew).1 hold List.mem_cons_self
    have htaken : registry.register tool = .ok ⟨registry.tools ++ [tool]⟩ :=
      register_eq_ok_iff.mpr ⟨hfirst, hfree, rfl⟩
    have hnames : (ToolRegistry.mk (registry.tools ++ [tool])).names =
        registry.names ++ [tool.name] := List.map_append
    rw [List.append_cons registry.tools, List.foldlM_cons, htaken]
    exact ih hrest (hnames ▸ hnew)

namespace Demo

/-- A server hosts the demo: its tools are among those of the server, no tool has hooks, the hooks
that admit calls are the only ones of others, and observers leave the permits alone. -/
structure Hosts {X L : Type} (store : Store X L) : Prop where
  tools : ∃ registry : ToolRegistry X (World L), store.providers.get? .tools = some registry ∧
    (∀ tool ∈ registry.tools, tool.hooks = []) ∧
    ∀ tool ∈ Demo.tools, registry.find? tool.name = some tool
  hooks : store.hooks.hooksFor callToken.name = Admission.hooks
  observers : ∀ event w, (Observer.emit store.hooks.observers event w).permits = w.permits

theorem furnish_eq_of_exec {S : Type} {plugins : List (Plugin S)} {store : S} {after : Server S}
    (h : exec (plugins.forM add >>= fun _ => finish) (.start store) = (.ok (), after)) :
    furnish plugins store = .ok after.store := by
  have hrun : (plugins.forM add >>= fun _ => finish).run.run (.start store) =
      (.ok (), after) := h
  simp only [furnish, hrun]
  rfl

/-- The schemas of the demo's tools are schemas, as reading them shows. -/
theorem fault?_eq_none : ∀ schema ∈ [WordCountParams.schema, WordCount.schema,
    CreateNoteParams.schema, Note.schema], Schema.fault? schema = none := by
  decide +kernel

theorem schemaFault?_typed {X W I O : Type} {definition : ToolDefinition} (typing : Typing I O)
    {schema : Json} (hinput : Schema.fault? definition.inputSchema = none)
    (hschema : definition.outputSchema = some schema) (houtput : Schema.fault? schema = none) :
    (Tool.typed definition typing : Tool X W).schemaFault? = none := by
  refine Tool.schemaFault?_eq_none_iff.mpr ⟨hinput, fun other hother => ?_⟩
  cases hschema.symm.trans hother
  exact houtput

theorem schemaFault?_tools {X W : Type} :
    ∀ tool ∈ (tools : List (Tool X W)), tool.schemaFault? = none := by
  have hsound := fault?_eq_none
  simp only [List.forall_mem_cons] at hsound
  obtain ⟨hwords, hcount, hparams, hnote, -⟩ := hsound
  intro tool htool
  rcases List.mem_pair.mp htool with rfl | rfl
  · exact schemaFault?_typed wordCountTyping hwords rfl hcount
  · exact schemaFault?_typed createNoteTyping hparams rfl hnote

theorem find?_tools {X W : Type} :
    ∀ tool ∈ (tools : List (Tool X W)), (ToolRegistry.mk tools).find? tool.name = some tool := by
  intro tool htool
  rcases List.mem_pair.mp htool with rfl | rfl <;> rfl

theorem hooks_tools {X W : Type} : ∀ tool ∈ (tools : List (Tool X W)), tool.hooks = [] := by
  intro tool htool
  rcases List.mem_pair.mp htool with rfl | rfl <;> rfl

/-! ### The demo's plugins -/

variable (auth : AuthConfig) (format : TraceFormat)

def inOrder : List (Plugin PlainStore) :=
  [infoPlugin (some "meridian-demo"), flowsPlugin, toolsPlugin,
   tracePlugin { TraceConfig.start with format }, toolFlowsPlugin (some auth) (some .template),
   plugin callsAtATime]

/-- What has come together when the demo's tools are added. -/
def prepared : PlainStore :=
  (Store.start ()).provide .info { ServerInfo.start with name := "meridian-demo" }
    |>.openFlows
    |>.putResource .tools ToolRegistry.empty
    |>.provide .trace { TraceConfig.start with format }
    |>.provideTo (some auth) (some .template)
    |>.putApi .flows [callFlow, listFlow]
    |>.provide .limit ⟨callsAtATime⟩

/-- What has come together when all plugins are built. -/
def stocked : PlainStore :=
  (prepared auth format).putResource .tools ⟨tools⟩
    |>.putApi .hooks ⟨Admission.hooks.map fun hook => (callToken.name, hook), [listener]⟩

def assembled : PlainStore :=
  { stocked auth format with resources := (stocked auth format).resources.erase .tools }
    |>.provide .tools ⟨tools⟩

theorem addTools_prepared : addTools (prepared auth format) =
    .ok ((prepared auth format).putResource .tools ⟨tools⟩) := by
  have hempty : (prepared auth format).resources.get? .tools =
    some (ToolRegistry.empty : ToolRegistry Empty (World Unit)) := rfl
  have htaken : tools.foldlM ToolRegistry.register
      (ToolRegistry.empty : ToolRegistry Empty (World Unit)) = .ok ⟨tools⟩ :=
    ToolRegistry.foldlM_register_eq_ok schemaFault?_tools (by decide)
  rw [addTools, hempty]
  simp only [htaken]

theorem passes_build :
    Passes Plugin.build (inOrder auth format) (Store.start ()) (stocked auth format) := by
  have hadd : (plugin callsAtATime : Plugin PlainStore).build.Takes _ (stocked auth format) :=
    .act rfl (.act (addTools_prepared auth format) (.act rfl (.done _)))
  exact .cons (.act rfl (.done _)) (.cons (.act rfl (.done _)) (.cons (.act rfl (.done _))
    (.cons (.act rfl (.done _)) (.cons (.act rfl (.act rfl (.done _))) (.cons hadd (.nil _))))))

theorem passes_ready : Passes Plugin.ready (inOrder auth format) (stocked auth format)
    (assembled auth format) :=
  .cons (.done _) (.cons (.done _) (.cons (.act rfl (.done _)) (.cons (.done _) (.cons (.done _)
    (.cons (.done _) (.nil _))))))

theorem sorted_plugins :
    Server.sorted [] (plugins auth format) = .ok (inOrder auth format) := rfl

theorem assemble_eq : assemble auth format = .ok (assembled auth format) := by
  let added : Server PlainStore :=
    ⟨.start (), .notStarted, plugins auth format, [],
      (plugins auth format).map fun plugin => plugin.info.type⟩
  have htypes : [infoPluginType, tracePluginType, flowsPluginType, toolsPluginType,
    toolFlowsPluginType, pluginType].Nodup := by decide
  have hadd : exec ((plugins auth format).forM add) (.start (.start ())) = (.ok (), added) :=
    exec_forM_add rfl htypes
  have hfinish : exec finish added = (.ok (), _) := (passes_build auth format).exec_finish
    ⟨rfl, rfl⟩ (sorted_plugins auth format) (passes_ready auth format)
  exact furnish_eq_of_exec ((exec_bind_of_ok hadd).trans hfinish)

theorem hosts_assembled : Hosts (assembled auth format) where
  tools := ⟨_, rfl, hooks_tools, find?_tools⟩
  hooks := rfl
  observers := fun _ _ => rfl

/-- **The demo server hosts the demo.** It can be assembled. It has the demo's tools alone then, and
no hooks beyond the demo's own; it shows results by templates. -/
theorem exists_hosts : ∃ store, assemble auth format = .ok store ∧ Hosts store ∧
    store.providers.get? .tools = some (⟨tools⟩ : ToolRegistry Empty (World Unit)) ∧
    store.providers.get? .renderer = some .template ∧
    Providers.auth store.providers = auth ∧ store.world.permits = callsAtATime :=
  ⟨assembled auth format, assemble_eq auth format, hosts_assembled auth format, rfl, rfl, rfl, rfl⟩

end Demo

end StagedFlow
