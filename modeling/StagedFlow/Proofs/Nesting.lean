import StagedFlow.Proofs.ServerSteps

/-!
# How deep cleanups nest

A cleanup that a cleanup asks for finds only plugins that were added since, and these are parts of
the program of the plugin that added them. So cleanups nest as deep as the programs of the built
plugins do, and the bound that `Server.cleanup` takes from them is never reached: it cleans up as if
there were none.
-/

namespace StagedFlow

variable {S : Type}

open ServerM

def Server.Below (depth : Nat) (server : Server S) : Prop :=
  ∀ plugin ∈ server.built, plugin.cleanup.depth < depth

theorem Server.Below.mono {server : Server S} {depth deeper : Nat} (h : server.Below depth)
    (hle : depth ≤ deeper) : server.Below deeper :=
  fun plugin hplugin => Nat.lt_of_lt_of_le (h plugin hplugin) hle

theorem Server.Below.built_eq_nil {server : Server S} (h : server.Below 0) : server.built = [] :=
  List.eq_nil_iff_forall_not_mem.mpr fun plugin hplugin => Nat.not_lt_zero _ (h plugin hplugin)

/-- Below a depth, two actions do the same and stay below it. -/
def Agree (depth : Nat) (m n : ServerM S Unit) : Prop :=
  ∀ server : Server S, server.Below depth →
    exec m server = exec n server ∧ (exec m server).2.Below depth

namespace Agree

variable {depth : Nat} {m n next next' : ServerM S Unit}

theorem bind (h : Agree depth m n) (hnext : Agree depth next next') :
    Agree depth (m >>= fun _ => next) (n >>= fun _ => next') := by
  intro server hserver
  obtain ⟨heq, hbelow⟩ := h server hserver
  rw [exec_bind, exec_bind, ← heq]
  generalize exec m server = ended at hbelow ⊢
  rcases ended with ⟨fault | ⟨⟩, after⟩
  · exact ⟨rfl, hbelow⟩
  · exact hnext after hbelow

theorem branch (p : Server S → Prop) [DecidablePred p] {m' n' : ServerM S Unit}
    (hm : Agree depth m m') (hn : Agree depth n n') :
    Agree depth (get >>= fun s => if p s then m else n)
      (get >>= fun s => if p s then m' else n') := by
  intro server hserver
  rw [exec_bind_of_ok (exec_get _), exec_bind_of_ok (exec_get _)]
  split
  · exact hm server hserver
  · exact hn server hserver

/-- An action that builds no plugin. -/
theorem of_built (h : ∀ server, (exec m server).2.built = server.built) : Agree depth m m :=
  fun server hserver => ⟨rfl, fun plugin hplugin => hserver plugin (h server ▸ hplugin)⟩

theorem act (change : S → Except ServerFault S) :
    Agree depth (Server.act change) (Server.act change) := by
  refine of_built fun server => ?_
  rw [Server.exec_act]
  cases change server.store <;> rfl

theorem enlist (info : PluginInfo) :
    Agree depth (Server.enlist info : ServerM S Unit) (Server.enlist info) := by
  refine of_built fun server => ?_
  rw [Server.exec_enlist]
  split <;> rfl

theorem push {plugin : Plugin S} (h : plugin.cleanup.depth < depth) :
    Agree depth (Server.push plugin) (Server.push plugin) := fun _ hserver =>
  ⟨rfl, List.forall_mem_append.mpr ⟨hserver, List.forall_mem_singleton.mpr h⟩⟩

theorem forM {α : Type} {items : List α} {f g : α → ServerM S Unit}
    (h : ∀ a ∈ items, Agree depth (f a) (g a)) : Agree depth (items.forM f) (items.forM g) := by
  induction items with
  | nil => exact of_built fun _ => rfl
  | cons a rest ih =>
    rw [List.forM, List.forM]
    exact .bind (h a List.mem_cons_self) (ih fun a ha => h a (List.mem_cons_of_mem _ ha))

/-- While the built plugins are put aside, there are none that could nest too deep. -/
theorem withBuilt {use use' : List (Plugin S) → ServerM S Unit} {server : Server S}
    (h : Agree depth (use server.built) (use' server.built)) {deeper : Nat} (hle : depth ≤ deeper)
    (hserver : server.Below deeper) :
    exec (Server.withBuilt use) server = exec (Server.withBuilt use') server ∧
      (exec (Server.withBuilt use) server).2.Below deeper := by
  obtain ⟨heq, hbelow⟩ := h { server with built := [] } (List.forall_mem_nil _)
  rw [Server.exec_withBuilt, Server.exec_withBuilt, ← heq]
  refine ⟨rfl, ?_⟩
  generalize exec (use server.built) { server with built := [] } = ended at hbelow
  rcases ended with ⟨fault | ⟨⟩, after⟩
  · exact hbelow.mono hle
  · exact hserver

end Agree

open Server

/-- A program whose cleanups nest less deep tells no difference between bounds. -/
theorem Program.agree {depth : Nat} {cleaning cleaning' : ServerM S Unit}
    (hcleaning : Agree depth cleaning cleaning') (p : Program S) (hp : p.depth ≤ depth) :
    Agree depth (p.run refuse cleaning) (p.run refuse cleaning') := by
  induction p with
  | done => exact .of_built fun _ => rfl
  | act change next ih => exact .bind (.act change) (ih hp)
  | ask question note next ih => exact .bind (.of_built fun _ => rfl) (ih hp)
  | guarded test body next hbody ih =>
    obtain ⟨hp, hp'⟩ := Nat.max_le.mp hp
    exact .branch _ (.bind (hbody hp) (ih hp')) (ih hp')
  | add info build ready after next hbuild _ _ ih =>
    obtain ⟨hp, hrest⟩ := Nat.max_le.mp hp
    obtain ⟨hafter, hnext⟩ := Nat.max_le.mp hrest
    refine .bind (.enlist info) (.branch _ ?_ (.bind (.of_built fun _ => rfl) (ih hnext)))
    exact .bind (hbuild hp) (.bind (.push hafter) (ih hnext))
  | finish next ih => exact .bind (.of_built fun _ => rfl) (ih hp)
  | cleanup next ih => exact .bind hcleaning (ih hp)

namespace Server

/-- Where no plugin is built, there is nothing to do. -/
theorem exec_withBuilt_nil {server : Server S} (hbuilt : server.built = [])
    (f : Plugin S → ServerM S Unit) :
    exec (withBuilt fun plugins => plugins.reverse.forM f) server = (.ok (), server) := by
  rw [exec_withBuilt, hbuilt]
  show (Except.ok (), { server with built := [] }) = _
  rw [← hbuilt]

/-- Any bound that is deep enough gives the same cleanup. -/
theorem agree_cleanupWithin {depth deeper : Nat} (h : depth ≤ deeper) :
    Agree depth (cleanupWithin deeper : ServerM S Unit) (cleanupWithin depth) := by
  induction depth generalizing deeper with
  | zero =>
    intro server hserver
    cases deeper with
    | zero => exact ⟨rfl, hserver⟩
    | succ deeper =>
      have hclean : exec (cleanupWithin (deeper + 1)) server = (.ok (), server) :=
        exec_withBuilt_nil hserver.built_eq_nil _
      rw [hclean]
      exact ⟨rfl, hserver⟩
  | succ depth ih =>
    obtain ⟨deeper, rfl⟩ : ∃ n, deeper = n + 1 := ⟨deeper - 1, by omega⟩
    intro server hserver
    refine Agree.withBuilt (.forM fun plugin hplugin => ?_) (Nat.le_succ depth) hserver
    exact plugin.cleanup.agree (ih (Nat.le_of_succ_le_succ h))
      (Nat.le_of_lt_succ (hserver plugin (List.mem_reverse.mp hplugin)))

theorem depthOf_le_iff {plugins : List (Plugin S)} {depth : Nat} :
    depthOf plugins ≤ depth ↔ ∀ plugin ∈ plugins, plugin.cleanup.depth < depth := by
  have hfold : ∀ start,
      plugins.foldl (fun d plugin => max d (plugin.cleanup.depth + 1)) start ≤ depth ↔
      start ≤ depth ∧ ∀ plugin ∈ plugins, plugin.cleanup.depth < depth := by
    induction plugins with
    | nil => simp
    | cons plugin rest ih =>
      intro start
      rw [List.foldl_cons, ih, Nat.max_le, List.forall_mem_cons, and_assoc, Nat.succ_le_iff]
  rw [depthOf, hfold]
  exact and_iff_right (Nat.zero_le depth)

theorem exec_cleanup (server : Server S) :
    exec cleanup server = exec (cleanupWithin (depthOf server.built)) server := by
  rw [cleanup, exec_bind_of_ok (exec_get _)]

theorem agree_cleanup (depth : Nat) :
    Agree depth (cleanupWithin depth : ServerM S Unit) cleanup := by
  intro server hserver
  have hdepth := depthOf_le_iff.mpr hserver
  obtain ⟨heq, hbelow⟩ :=
    agree_cleanupWithin hdepth server (depthOf_le_iff.mp (Nat.le_refl _))
  exact ⟨heq.trans (exec_cleanup server).symm, hbelow.mono hdepth⟩

/-- The server cleans up every built plugin, newest first; callbacks may ask it to clean up, too. -/
theorem exec_cleanup_eq (server : Server S) :
    exec cleanup server =
      exec (withBuilt fun plugins => plugins.reverse.forM fun plugin => call plugin.cleanup)
        server := by
  have hserver : server.Below (depthOf server.built) := depthOf_le_iff.mp (Nat.le_refl _)
  rw [exec_cleanup]
  cases hdepth : depthOf server.built with
  | zero =>
    rw [hdepth] at hserver
    rw [exec_withBuilt_nil hserver.built_eq_nil]
    rfl
  | succ depth =>
    rw [hdepth] at hserver
    refine (Agree.withBuilt (.forM fun plugin hplugin => ?_) (Nat.le_succ depth) hserver).1
    exact plugin.cleanup.agree (agree_cleanup depth)
      (Nat.le_of_lt_succ (hserver plugin (List.mem_reverse.mp hplugin)))

end Server

end StagedFlow
