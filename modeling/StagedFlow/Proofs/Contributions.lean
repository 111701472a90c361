import StagedFlow.Plugins.ToolFlows
import StagedFlow.Proofs.Access
import StagedFlow.Proofs.Booting
import StagedFlow.Proofs.Finishing

/-!
# What plugins contribute

A plugin hands tools, flows and hooks to registries that other plugins have opened. Each registry
takes what it is handed behind what it holds, unless it refuses; contributions that suit one another
are refused nowhere, in whatever order they come.
-/

namespace StagedFlow

variable {X L : Type}

open ServerM Server

inductive Contribution (X L : Type) where
  | tool (tool : Tool X (World L))
  | flow (flow : ServedFlow X L)
  | hook (token : FlowToken) (hook : HookBinding (Handler X L))

namespace Contribution

def tool? : Contribution X L → Option (Tool X (World L))
  | .tool t => some t
  | _ => none

def flow? : Contribution X L → Option (ServedFlow X L)
  | .flow f => some f
  | _ => none

def hook? : Contribution X L → Option (String × HookBinding (Handler X L))
  | .hook token h => some (token.name, h)
  | _ => none

/-- Hands a contribution over. A plugin that finds no registry, or one that refuses, gives up. -/
def handOver (complaint : String) (store : Store X L) :
    Contribution X L → Except ServerFault (Store X L)
  | .tool t =>
    match store.resources.get? .tools with
    | none => .error (.failed complaint)
    | some (registry : ToolRegistry X (World L)) =>
      match registry.register t with
      | .ok (registry : ToolRegistry X (World L)) => .ok (store.putResource .tools registry)
      | .error _ => .error (.failed complaint)
  | .flow f => store.declare complaint [f]
  | .hook token h =>
    match store.apis.get? .hooks with
    | none => .error (.failed complaint)
    | some (registry : HookRegistry (World L) (Handler X L)) =>
      match registry.register token h with
      | .ok (registry : HookRegistry (World L) (Handler X L)) => .ok (store.putApi .hooks registry)
      | .error _ => .error (.failed complaint)

def Sound : Contribution X L → Prop
  | .tool t => t.schemaFault? = none
  | .flow f => f.Checked
  | .hook token h => token.kind.allows h.stage = true

/-- Neither of two contributions takes the place of the other, and a hook for a flow is on a stage
of its kind. -/
def Suits : Contribution X L → Contribution X L → Prop
  | .tool t, .tool t' => t.name ≠ t'.name
  | .flow f, .flow f' => f.name ≠ f'.name
  | .flow f, .hook token h => f.name = token.name → f.token.kind.allows h.stage = true
  | .hook token h, .flow f => f.name = token.name → f.token.kind.allows h.stage = true
  | .hook token h, .hook token' h' =>
    token.name = token'.name → h.stage = h'.stage → h.name ≠ h'.name
  | _, _ => True

theorem Suits.symm {c c' : Contribution X L} (h : c.Suits c') : c'.Suits c := by
  cases c with
  | tool t =>
    cases c' with
    | tool t' => exact Ne.symm h
    | flow f => trivial
    | hook token h' => trivial
  | flow f =>
    cases c' with
    | tool t => trivial
    | flow f' => exact Ne.symm h
    | hook token h' => exact h
  | hook token h' =>
    cases c' with
    | tool t => trivial
    | flow f => exact h
    | hook token' h'' => exact fun hflow hstage hname => h hflow.symm hstage.symm hname.symm

end Contribution

/-- The registries that plugins share hold these contributions, in their order, and nothing else. -/
structure Store.Gathers (store : Store X L) (contributions : List (Contribution X L)) : Prop where
  tools : store.resources.get? .tools =
    some (⟨contributions.filterMap Contribution.tool?⟩ : ToolRegistry X (World L))
  flows : store.apis.get? .flows = some (contributions.filterMap Contribution.flow?)
  hooks : store.apis.get? .hooks =
    some (⟨contributions.filterMap Contribution.hook?, []⟩ : HookRegistry (World L) (Handler X L))

/-- A tool with a new name, whose schemas are sound, is taken. -/
theorem ToolRegistry.register_eq_ok {W : Type} {registry : ToolRegistry X W} {tool : Tool X W}
    (hsound : tool.schemaFault? = none) (hnew : ∀ other ∈ registry.tools, other.name ≠ tool.name) :
    registry.register tool = .ok ⟨registry.tools ++ [tool]⟩ := by
  have hfree : registry.has tool.name = false := by
    rw [has, Option.isSome_eq_false_iff, Option.isNone_iff_eq_none, find?_eq_none_iff, names,
      List.mem_map]
    rintro ⟨other, hother, hname⟩
    exact hnew other hother hname
  rw [register, hsound]
  exact if_neg (by simp [hfree])

/-- A hook on a stage of its kind, whose stage and name are new for its flow, is taken. -/
theorem HookRegistry.register_eq_ok {W H : Type} {registry : HookRegistry W H} {token : FlowToken}
    {hook : HookBinding H} (hsound : token.kind.allows hook.stage = true)
    (hnew : ∀ entry ∈ registry.hooks, entry.1 = token.name → entry.2.stage = hook.stage →
      entry.2.name ≠ hook.name) :
    registry.register token hook =
      .ok { registry with hooks := registry.hooks ++ [(token.name, hook)] } := by
  have hfree : ((registry.hooksFor token.name).any fun h =>
      h.stage == hook.stage && h.name == hook.name) = false := by
    rw [List.any_eq_false]
    intro other hother hsame
    obtain ⟨entry, hentry, rfl⟩ := List.mem_map.mp hother
    obtain ⟨hentry, hflow⟩ := List.mem_filter.mp hentry
    obtain ⟨hstage, hname⟩ := Bool.and_eq_true_iff.mp hsame
    exact hnew entry hentry (beq_iff_eq.mp hflow) (beq_iff_eq.mp hstage) (beq_iff_eq.mp hname)
  rw [register, hsound, if_neg (by simp), if_neg (by simp [hfree])]

theorem filterMap_concat_none {α β : Type} {f : α → Option β} {a : α} (h : f a = none)
    (items : List α) : (items ++ [a]).filterMap f = items.filterMap f := by
  rw [List.filterMap_append, List.filterMap_cons_none h, List.filterMap_nil, List.append_nil]

namespace Store.Gathers

variable {store : Store X L} {before : List (Contribution X L)} (h : store.Gathers before)
include h

theorem exists_tool {t : Tool X (World L)} (hsound : t.schemaFault? = none)
    (hsuits : ∀ c ∈ before, c.Suits (.tool t)) (complaint : String) :
    ∃ later, (Contribution.tool t).handOver complaint store = .ok later ∧
      later.Gathers (before ++ [.tool t]) := by
  have hnew : ∀ other ∈ before.filterMap Contribution.tool?, other.name ≠ t.name := by
    intro other hother
    obtain ⟨c, hc, htool⟩ := List.mem_filterMap.mp hother
    cases c with
    | tool _ =>
      cases htool
      exact hsuits _ hc
    | flow f => cases htool
    | hook token h => cases htool
  have hregister : (⟨before.filterMap Contribution.tool?⟩ : ToolRegistry X (World L)).register t =
      .ok ⟨before.filterMap Contribution.tool? ++ [t]⟩ := ToolRegistry.register_eq_ok hsound hnew
  refine ⟨store.putResource .tools ⟨before.filterMap Contribution.tool? ++ [t]⟩, ?_, ?_⟩
  · rw [Contribution.handOver, h.tools]
    simp only [hregister]
  · constructor
    case tools =>
      rw [List.filterMap_append]
      exact Bag.get?_insert_self _ _ _
    case flows =>
      rw [filterMap_concat_none rfl]
      exact h.flows
    case hooks =>
      rw [filterMap_concat_none rfl]
      exact h.hooks

theorem exists_declare (flows : List (ServedFlow X L)) (complaint : String) :
    ∃ later, store.declare complaint flows = .ok later ∧
      later.Gathers (before ++ flows.map .flow) := by
  refine ⟨store.putApi .flows (before.filterMap Contribution.flow? ++ flows), ?_, ?_⟩
  · rw [Store.declare, h.flows]
  · have htools : (flows.map (.flow : _ → Contribution X L)).filterMap Contribution.tool? = [] := by
      rw [List.filterMap_map, List.filterMap_eq_nil_iff]
      exact fun _ _ => rfl
    have hhooks : (flows.map (.flow : _ → Contribution X L)).filterMap Contribution.hook? = [] := by
      rw [List.filterMap_map, List.filterMap_eq_nil_iff]
      exact fun _ _ => rfl
    have hflows : (flows.map (.flow : _ → Contribution X L)).filterMap Contribution.flow? =
        flows := by
      rw [List.filterMap_map]
      exact List.filterMap_some
    constructor
    case tools =>
      rw [List.filterMap_append, htools, List.append_nil]
      exact h.tools
    case flows =>
      rw [List.filterMap_append, hflows]
      exact Bag.get?_insert_self _ _ _
    case hooks =>
      rw [List.filterMap_append, hhooks, List.append_nil]
      exact (Bag.get?_insert_of_ne _ _ (by decide)).trans h.hooks

theorem exists_hook {token : FlowToken} {hook : HookBinding (Handler X L)}
    (hsound : token.kind.allows hook.stage = true)
    (hsuits : ∀ c ∈ before, c.Suits (.hook token hook)) (complaint : String) :
    ∃ later, (Contribution.hook token hook).handOver complaint store = .ok later ∧
      later.Gathers (before ++ [.hook token hook]) := by
  have hnew : ∀ entry ∈ before.filterMap Contribution.hook?, entry.1 = token.name →
      entry.2.stage = hook.stage → entry.2.name ≠ hook.name := by
    intro entry hentry
    obtain ⟨c, hc, hhook⟩ := List.mem_filterMap.mp hentry
    cases c with
    | tool t => cases hhook
    | flow f => cases hhook
    | hook token' h' =>
      cases hhook
      exact hsuits _ hc
  have hregister : (⟨before.filterMap Contribution.hook?, []⟩ :
      HookRegistry (World L) (Handler X L)).register token hook =
        .ok ⟨before.filterMap Contribution.hook? ++ [(token.name, hook)], []⟩ :=
    HookRegistry.register_eq_ok hsound hnew
  refine ⟨store.putApi .hooks ⟨before.filterMap Contribution.hook? ++ [(token.name, hook)], []⟩,
    ?_, ?_⟩
  · rw [Contribution.handOver, h.hooks]
    simp only [hregister]
  · constructor
    case tools =>
      rw [filterMap_concat_none rfl]
      exact h.tools
    case flows =>
      rw [filterMap_concat_none rfl]
      exact (Bag.get?_insert_of_ne _ _ (by decide)).trans h.flows
    case hooks =>
      rw [List.filterMap_append]
      exact Bag.get?_insert_self _ _ _

/-- A contribution that suits those before it is taken. -/
theorem exists_handOver {c : Contribution X L} (hsound : c.Sound)
    (hsuits : ∀ c' ∈ before, c'.Suits c) (complaint : String) :
    ∃ later, c.handOver complaint store = .ok later ∧ later.Gathers (before ++ [c]) := by
  cases c with
  | tool t => exact h.exists_tool hsound hsuits complaint
  | flow f => exact h.exists_declare [f] complaint
  | hook token hook => exact h.exists_hook hsound hsuits complaint

end Store.Gathers

/-! ### Callbacks that change the store -/

def Program.Takes {S : Type} (p : Program S) (store later : S) : Prop :=
  ∀ server : Server S, server.store = store →
    exec (call p) server = (.ok (), { server with store := later })

namespace Program.Takes

variable {S : Type} {store mid later : S}

theorem done (store : S) : (Program.done : Program S).Takes store store := by
  rintro server rfl
  exact exec_pure _ _

theorem act {change : S → Except ServerFault S} {next : Program S} (h : change store = .ok mid)
    (hnext : next.Takes mid later) : (Program.act change next).Takes store later := by
  rintro server rfl
  have hact : exec (Server.act change) server = (.ok (), { server with store := mid }) := by
    rw [exec_act, h]
  exact (exec_bind_of_ok hact).trans (hnext { server with store := mid } rfl)

end Program.Takes

def Program.handing (complaint : String) (contributions : List (Contribution X L)) :
    Program (Store X L) :=
  contributions.foldr (fun c next => .act (fun store => c.handOver complaint store) next) .done

/-- Contributions that suit one another are all taken. -/
theorem Store.Gathers.exists_handing {store : Store X L} {before more : List (Contribution X L)}
    (h : store.Gathers before) (hsound : ∀ c ∈ more, c.Sound)
    (hsuits : (before ++ more).Pairwise Contribution.Suits) (complaint : String) :
    ∃ later, (Program.handing complaint more).Takes store later ∧
      later.Gathers (before ++ more) := by
  induction more generalizing store before with
  | nil =>
    rw [List.append_nil]
    exact ⟨store, .done store, h⟩
  | cons c rest ih =>
    obtain ⟨hfirst, hrest⟩ := List.forall_mem_cons.mp hsound
    have hearlier : ∀ c' ∈ before, c'.Suits c := fun c' hc' =>
      (List.pairwise_append.mp hsuits).2.2 c' hc' c List.mem_cons_self
    obtain ⟨next, hnext, hgathers⟩ := h.exists_handOver hfirst hearlier complaint
    rw [List.append_cons] at hsuits ⊢
    obtain ⟨later, hlater, hall⟩ := ih hgathers hrest hsuits
    exact ⟨later, .act hnext hlater, hall⟩

/-- The callbacks of plugins, one after another, take the store from one state to another. -/
inductive Passes {S : Type} (callback : Plugin S → Program S) : List (Plugin S) → S → S → Prop where
  | nil (store : S) : Passes callback [] store store
  | cons {plugin : Plugin S} {rest : List (Plugin S)} {store mid later : S}
    (h : (callback plugin).Takes store mid) (hrest : Passes callback rest mid later) :
    Passes callback (plugin :: rest) store later

namespace Passes

variable {S : Type} {plugins more : List (Plugin S)} {store mid later : S}

theorem append {callback : Plugin S → Program S} (h : Passes callback plugins store mid)
    (hmore : Passes callback more mid later) : Passes callback (plugins ++ more) store later := by
  induction h with
  | nil => exact hmore
  | cons hfirst _ ih => exact .cons hfirst (ih hmore)

theorem of_done {callback : Plugin S → Program S}
    (h : ∀ plugin ∈ plugins, callback plugin = .done) (store : S) :
    Passes callback plugins store store := by
  induction plugins with
  | nil => exact .nil store
  | cons plugin rest ih =>
    obtain ⟨hfirst, hrest⟩ := List.forall_mem_cons.mp h
    exact .cons (hfirst ▸ .done store) (ih hrest)

theorem exec_buildAll (h : Passes Plugin.build plugins store later) {server : Server S}
    (hstore : server.store = store) :
    exec (buildAll plugins) server =
      (.ok (), { server with store := later, built := server.built ++ plugins }) := by
  induction h generalizing server with
  | nil =>
    rw [← hstore, List.append_nil]
    exact exec_pure _ _
  | @cons plugin rest store mid later hfirst _ ih =>
    have hbuild : exec (buildAll (plugin :: rest)) server =
        exec ((call plugin.build >>= fun _ => push plugin) >>= fun _ => buildAll rest) server := rfl
    have hpush : exec (call plugin.build >>= fun _ => push plugin) server =
        (.ok (), { server with store := mid, built := server.built ++ [plugin] }) := by
      rw [exec_bind_of_ok (hfirst server hstore), exec_push]
    rw [hbuild, exec_bind_of_ok hpush, ih rfl]
    simp only [List.append_assoc, List.singleton_append]

theorem exec_readyAll (h : Passes Plugin.ready plugins store later) {server : Server S}
    (hbuilt : server.built = plugins) (hstore : server.store = store) :
    exec readyAll server = (.ok (), { server with store := later }) := by
  have hround : ∀ server : Server S, server.store = store →
      exec (plugins.forM fun plugin => call plugin.ready) server =
        (.ok (), { server with store := later }) := by
    clear hbuilt hstore server
    induction h with
    | nil =>
      rintro server rfl
      exact exec_pure _ _
    | cons hfirst _ ih =>
      intro server hstore
      rw [List.forM, exec_bind_of_ok (hfirst server hstore)]
      exact ih _ rfl
  have haside := hround { server with built := [] } hstore
  rw [readyAll, exec_withBuilt, hbuilt, haside, ← hbuilt]
  rfl

/-- A server finishes whose plugins are built and made ready in an order. -/
theorem exec_finish {server : Server S} (hfresh : server.Fresh)
    (hsorted : sorted [] server.pending = .ok plugins)
    (hbuild : Passes Plugin.build plugins server.store mid)
    (hready : Passes Plugin.ready plugins mid later) :
    exec finish server = (.ok (),
      { server with store := later, progress := .built, pending := [], built := plugins }) := by
  rw [← hfresh.built] at hsorted
  have hbuilt : exec (buildAll plugins) server.begun =
      (.ok (), { server.begun with store := mid, built := server.built ++ plugins }) :=
    hbuild.exec_buildAll rfl
  rw [hfresh.built, List.nil_append] at hbuilt
  rw [exec_finish_of_ok hfresh.progress hsorted, exec_bind_of_ok hbuilt,
    exec_bind_of_ok (hready.exec_readyAll rfl rfl), exec_modify]
  rfl

end Passes

end StagedFlow
