import StagedFlow.Demo.Plugin
import StagedFlow.Proofs.Calling
import StagedFlow.Proofs.Traffic

/-!
# Calls in flight

The demo's plugin limits the calls of its server by the two hooks that it registers for the call
flow. With further hooks before and behind them, with tools and renderers of any kind that leave the
permits alone, the server keeps exact count of the calls in flight, in all traffic.
-/

namespace StagedFlow

variable {X L : Type}

/-- A server that limits its calls: the demo's hooks are among those of the call flow. All else that
runs there leaves the permits alone. -/
structure Store.Limits (store : Store X L) (behave : X → ToolM X L Unit) (limit : CallLimit) :
    Prop where
  limit_eq : store.limit? = some limit
  hooks : ∃ earlier later,
    store.hooks.hooksFor callToken.name = earlier ++ Admission.hooks ++ later ∧
      ∀ hook ∈ earlier ++ later, hook.Custom
  allowed : ∀ hook ∈ store.hooks.hooksFor callToken.name,
    callToken.kind.allows hook.stage = true
  observers : ∀ event w, (Observer.emit store.hooks.observers event w).permits = w.permits
  own : ∀ hook held, (behave hook).Keeps (.sparing held) fun _ => True
  tools : ∃ registry : ToolRegistry X (World L), store.providers.get? .tools = some registry ∧
    ∀ tool ∈ registry.tools, tool.Spares
  renderer : ∀ renderer : Renderer (World L), store.providers.get? .renderer = some renderer →
    ∀ request, (renderer.render request).Keeps .sparing fun _ => True

namespace Store.Limits

variable {store : Store X L} {behave : X → ToolM X L Unit} {limit : CallLimit}

theorem permits_world (h : store.Limits behave limit) : store.world.permits = limit.max := by
  rw [world, h.limit_eq]
  rfl

theorem cases_hook (h : store.Limits behave limit) {flow : CallFlow X L}
    {hook : HookBinding (Handler X L)}
    (hhook : hook ∈ flow.table ++ store.hooks.hooksFor callToken.name) :
    (∃ step, hook.handler = .call flow step) ∨ hook.Custom ∨ hook ∈ Admission.hooks := by
  obtain ⟨earlier, later, hhooks, hcustom⟩ := h.hooks
  rw [hhooks] at hhook
  rcases List.mem_append.mp hhook with htable | hothers
  · obtain ⟨⟨stage, step⟩, -, rfl⟩ := List.mem_map.mp htable
    exact .inl ⟨step, rfl⟩
  rcases List.mem_append.mp hothers with hfront | hlater
  · rcases List.mem_append.mp hfront with hearlier | hadmits
    · exact .inr (.inl (hcustom hook (List.mem_append_left _ hearlier)))
    · exact .inr (.inr hadmits)
  · exact .inr (.inl (hcustom hook (List.mem_append_right _ hlater)))

/-- The call flow of the server, as it is made from its providers. -/
theorem exists_caller (h : store.Limits behave limit) :
    ∃ caller, ∃ flow : CallFlow X L,
      callFlow.instantiate store.providers store.hooks = .ok caller ∧ flow.Spares ∧
      caller.inst = ⟨callFlow, ⟨callToken, flow.table ++ store.hooks.hooksFor callToken.name⟩,
        store.hooks.observers⟩ := by
  obtain ⟨tools, htools, hspares⟩ := h.tools
  obtain ⟨ready, hmade⟩ :=
    CallFlow.exists_instantiate store.providers store.hooks htools h.allowed
  exact ⟨_, _, hmade, ⟨hspares, h.renderer⟩, rfl⟩

theorem admitting (h : store.Limits behave limit) {flow : CallFlow X L} (hflow : flow.Spares) :
    Instance.Admitting (V := ProviderKey.Val X L)
      ⟨callFlow, ⟨callToken, flow.table ++ store.hooks.hooksFor callToken.name⟩,
        store.hooks.observers⟩ behave where
  own := h.own
  hooks hook hhook := by
    rcases h.cases_hook hhook with ⟨step, hstep⟩ | hcustom | hadmits
    · rw [hstep]
      exact hflow
    · exact hcustom.good.1
    · rcases List.mem_pair.mp hadmits with rfl | rfl <;> trivial
  observers := h.observers
  plan_eq := rfl
  placed hook hhook := by
    rcases h.cases_hook hhook with ⟨step, hstep⟩ | hcustom | hadmits
    · rw [HookBinding.Placed, hstep]
      exact ⟨fun h => absurd h Bool.false_ne_true, fun h => absurd h Bool.false_ne_true⟩
    · exact hcustom.good.2
    · rcases List.mem_pair.mp hadmits with rfl | rfl
      · exact ⟨fun _ => rfl, fun h => absurd h Bool.false_ne_true⟩
      · exact ⟨fun h => absurd h Bool.false_ne_true, fun _ => rfl⟩
  single := by
    obtain ⟨earlier, later, hhooks, hcustom⟩ := h.hooks
    have hnone : ∀ hook : HookBinding (Handler X L), hook.Custom →
        ¬ hook.handler.acquires = true := by
      rintro hook ⟨own, hown⟩
      rw [hown]
      exact Bool.false_ne_true
    have htable : flow.table.countP (fun hook => hook.handler.acquires) = 0 := by
      refine List.countP_eq_zero.mpr fun hook hhook => ?_
      obtain ⟨⟨stage, step⟩, -, rfl⟩ := List.mem_map.mp hhook
      exact Bool.false_ne_true
    have hearlier : earlier.countP (fun hook => hook.handler.acquires) = 0 :=
      List.countP_eq_zero.mpr fun hook hhook =>
        hnone hook (hcustom hook (List.mem_append_left _ hhook))
    have hlater : later.countP (fun hook => hook.handler.acquires) = 0 :=
      List.countP_eq_zero.mpr fun hook hhook =>
        hnone hook (hcustom hook (List.mem_append_right _ hhook))
    rw [hhooks, List.countP_append, List.countP_append, List.countP_append, htable, hearlier,
      hlater]
    exact Nat.le_refl 1

end Store.Limits

theorem HookRegistry.of_register {W H : Type} {registry later : HookRegistry W H}
    {token : FlowToken} {hook : HookBinding H} (h : registry.register token hook = .ok later) :
    later.hooksFor token.name = registry.hooksFor token.name ++ [hook] ∧
      later.observers = registry.observers ∧ token.kind.allows hook.stage = true := by
  rw [register] at h
  split at h
  · cases h
  case isFalse hallowed =>
    split at h
    · cases h
    · cases h
      refine ⟨?_, rfl, by simpa using hallowed⟩
      simp [hooksFor, List.filter_append]

/-- Hooks that are registered one after another stand behind those that were there. -/
theorem HookRegistry.of_foldlM_register {W H : Type} {registry later : HookRegistry W H}
    {token : FlowToken} {hooks : List (HookBinding H)}
    (h : hooks.foldlM (fun registry hook => registry.register token hook) registry = .ok later) :
    later.hooksFor token.name = registry.hooksFor token.name ++ hooks ∧
      later.observers = registry.observers ∧
      ∀ hook ∈ hooks, token.kind.allows hook.stage = true := by
  induction hooks generalizing registry with
  | nil =>
    cases h
    exact ⟨(List.append_nil _).symm, rfl, List.forall_mem_nil _⟩
  | cons hook rest ih =>
    rw [List.foldlM_cons] at h
    cases hfirst : registry.register token hook with
    | error fault => rw [hfirst] at h; cases h
    | ok next =>
      rw [hfirst] at h
      obtain ⟨hhooks, hobservers, hallowed⟩ := of_register hfirst
      obtain ⟨hrest, hsame, hothers⟩ := ih h
      refine ⟨?_, hsame.trans hobservers, List.forall_mem_cons.mpr ⟨hallowed, hothers⟩⟩
      rw [hrest, hhooks, List.append_assoc, List.singleton_append]

theorem Store.hooks_putApi (store : Store X L) (registry : HookRegistry (World L) (Handler X L)) :
    (store.putApi .hooks registry).hooks = registry :=
  congrArg (fun found : Option (HookRegistry (World L) (Handler X L)) => found.getD .empty)
    (Bag.get?_insert_self store.apis ApiKey.hooks registry)

/-- A server goes on to limit its calls when a hook is added that leaves the permits alone. -/
theorem Store.Limits.register {store : Store X L} {behave : X → ToolM X L Unit} {limit : CallLimit}
    (h : store.Limits behave limit) {hook : HookBinding (Handler X L)} (hcustom : hook.Custom)
    {registry : HookRegistry (World L) (Handler X L)}
    (hregister : store.hooks.register callToken hook = .ok registry) :
    (store.putApi .hooks registry).Limits behave limit := by
  obtain ⟨hhooks, hobservers, hallowed⟩ := HookRegistry.of_register hregister
  obtain ⟨earlier, later, hbefore, hothers⟩ := h.hooks
  refine ⟨h.limit_eq, ⟨earlier, later ++ [hook], ?_, ?_⟩, ?_, ?_, h.own, h.tools, h.renderer⟩
  · rw [hooks_putApi, hhooks, hbefore, List.append_assoc _ later]
  · rw [← List.append_assoc]
    exact List.forall_mem_append.mpr ⟨hothers, List.forall_mem_singleton.mpr hcustom⟩
  · rw [hooks_putApi, hhooks]
    exact List.forall_mem_append.mpr ⟨h.allowed, List.forall_mem_singleton.mpr hallowed⟩
  · rw [hooks_putApi, hobservers]
    exact h.observers

namespace Demo

/-- The demo's plugin puts its hooks behind those that are there, and its observer behind the
others. -/
theorem of_addHooks {store later : Store X L} (h : addHooks store = .ok later) :
    later.hooks.hooksFor callToken.name =
        store.hooks.hooksFor callToken.name ++ Admission.hooks ∧
      later.hooks.observers = store.hooks.observers ++ [listener] ∧
      later.providers = store.providers ∧
      ∀ hook ∈ (Admission.hooks : List (HookBinding (Handler X L))),
        callToken.kind.allows hook.stage = true := by
  rw [addHooks] at h
  split at h
  · cases h
  case h_2 registry hregistry =>
    have hstore : store.hooks = registry := by
      rw [Store.hooks, hregistry]
      rfl
    split at h
    · cases h
    case h_2 added hadded =>
      obtain ⟨hhooks, hobservers, hallowed⟩ := HookRegistry.of_foldlM_register hadded
      split at h
      · cases h
      case h_2 observed hobserved =>
        cases h
        rw [HookRegistry.observe] at hobserved
        split at hobserved
        · cases hobserved
        cases hobserved
        rw [Store.hooks_putApi, hstore, ← hobservers]
        exact ⟨hhooks, rfl, rfl, hallowed⟩

theorem spares_tools : ∀ tool ∈ (tools : List (Tool X (World L))), tool.Spares := by
  intro tool htool
  rcases List.mem_pair.mp htool with rfl | rfl <;> exact fun _ _ => .done trivial

/-- The demo's plugin makes a server limit its calls, if all that is there leaves the permits
alone. -/
theorem limits_of_addHooks {store later : Store X L} {behave : X → ToolM X L Unit}
    {limit : CallLimit} (h : addHooks store = .ok later) (hlimit : store.limit? = some limit)
    (hhooks : ∀ hook ∈ store.hooks.hooksFor callToken.name,
      hook.Custom ∧ callToken.kind.allows hook.stage = true)
    (hobservers : ∀ event w, (Observer.emit store.hooks.observers event w).permits = w.permits)
    (hown : ∀ hook held, (behave hook).Keeps (.sparing held) fun _ => True)
    (htools : ∃ registry : ToolRegistry X (World L), store.providers.get? .tools = some registry ∧
      ∀ tool ∈ registry.tools, tool.Spares)
    (hrenderer : ∀ renderer : Renderer (World L), store.providers.get? .renderer = some renderer →
      ∀ request, (renderer.render request).Keeps .sparing fun _ => True) :
    later.Limits behave limit := by
  obtain ⟨hadded, hlistener, hproviders, hallowed⟩ := of_addHooks h
  constructor
  case limit_eq =>
    rw [Store.limit?, hproviders]
    exact hlimit
  case hooks =>
    refine ⟨store.hooks.hooksFor callToken.name, [], ?_, ?_⟩
    · rw [hadded, List.append_nil]
    · rw [List.append_nil]
      exact fun hook hhook => (hhooks hook hhook).1
  case allowed =>
    rw [hadded]
    exact List.forall_mem_append.mpr ⟨fun hook hhook => (hhooks hook hhook).2, hallowed⟩
  case observers =>
    intro event w
    rw [hlistener, Observer.emit, List.foldl_append]
    exact hobservers event w
  case own => exact hown
  case tools => rwa [hproviders]
  case renderer => rwa [hproviders]

end Demo

/-- **Calls in flight are counted exactly.** The server makes its call flow, and at any time in
traffic with any calls that bring no permit the permits in use are those of the calls that hold one
and those held outside. Who is refused one fails with the reason, and when all calls have ended,
which they do if they have their turns, the permits held outside are the only ones in use. -/
theorem Store.Limits.exists_accounts {store : Store X L} {behave : X → ToolM X L Unit}
    {limit : CallLimit} (h : store.Limits behave limit) :
    ∃ caller, callFlow.instantiate store.providers store.hooks = .ok caller ∧
      ∀ place calls, Traffic.Unladen calls →
        let start := Traffic.start behave caller.inst place calls store.world
        (∀ moves, (start.run moves).Accounts limit store.world) ∧
        ∀ moves : Nat → Traffic.Move L,
          (∀ i < calls.length, ∀ n, ∃ m, n ≤ m ∧ moves m = .resume i) →
            ∃ n, ∀ m, n ≤ m → (start.after moves m).Ended := by
  obtain ⟨caller, flow, hcaller, hflow, hinst⟩ := h.exists_caller
  refine ⟨caller, hcaller, fun place calls hcalls => ⟨fun moves => ?_, fun moves hfair => ?_⟩⟩
  · have hadmitting : caller.inst.Admitting behave := hinst ▸ h.admitting hflow
    exact Traffic.accounts_run hadmitting place hcalls h.permits_world moves
  · refine Traffic.eventually_ended fun i hi => hfair i ?_
    simpa [Traffic.start, Pool.launch] using hi

namespace Demo

def narrow : Store Unit Unit :=
  ((Store.start ()).openFlows.provide .limit ⟨1⟩).provide .tools
    (⟨tools⟩ : ToolRegistry Unit (World Unit))

def pausing : HookBinding (Handler Unit Unit) := ⟨"pause", "execute", -1, none, .custom ()⟩

def admitting : HookRegistry (World Unit) (Handler Unit Unit) :=
  ⟨Admission.hooks.map (callToken.name, ·), [listener]⟩

def slow : Store Unit Unit :=
  narrow.putApi .hooks
    { admitting with hooks := admitting.hooks ++ [(callToken.name, pausing)] }

def twoCalls : List (Json × CallState Unit Unit) :=
  List.replicate 2
    (.obj [("method", .str "tools/call"), ("params", .obj
      [("name", .str "word_count"), ("arguments", .obj [("text", .str "one two")])])], .empty)

theorem exists_accounts_slow :
    slow.Limits (fun _ => HookM.lift Task.giveWay) ⟨1⟩ ∧ Traffic.Unladen twoCalls ∧
      ∃ caller, callFlow.instantiate slow.providers slow.hooks = .ok caller ∧
        let start := Traffic.start (fun _ => HookM.lift Task.giveWay) caller.inst 0 twoCalls
          slow.world
        (∀ moves, (start.run moves).Accounts ⟨1⟩ slow.world) ∧
          ∃ n, ∀ m, n ≤ m → (start.after (fun n => .resume (n % 2)) m).Ended := by
  have hadded : addHooks narrow = .ok (narrow.putApi .hooks admitting) := rfl
  have hown : ∀ (hook : Unit) held, (HookM.lift Task.giveWay : ToolM Unit Unit Unit).Keeps
      (.sparing held) fun _ => True := fun _ _ => .lift (.pause (.done trivial))
  have hdemo : (narrow.putApi .hooks admitting).Limits (fun _ => HookM.lift Task.giveWay) ⟨1⟩ :=
    limits_of_addHooks hadded rfl (List.forall_mem_nil _) (fun _ _ => rfl) hown
      ⟨_, rfl, spares_tools⟩ nofun
  have hcustom : pausing.Custom := ⟨(), rfl⟩
  have hslow : slow.Limits (fun _ => HookM.lift Task.giveWay) ⟨1⟩ := hdemo.register hcustom rfl
  have hcalls : Traffic.Unladen twoCalls := by
    intro call hcall
    rw [List.eq_of_mem_replicate hcall]
    exact ⟨nofun, rfl⟩
  obtain ⟨caller, hcaller, htraffic⟩ := Store.Limits.exists_accounts hslow
  obtain ⟨haccounts, hends⟩ := htraffic 0 twoCalls hcalls
  refine ⟨hslow, hcalls, caller, hcaller, haccounts, hends _ fun i hi n => ⟨2 * n + i, ?_, ?_⟩⟩
  · omega
  · have htwo : i < 2 := hi
    rw [Nat.mul_add_mod, Nat.mod_eq_of_lt htwo]

end Demo

end StagedFlow
