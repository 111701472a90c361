import StagedFlow.Proofs.Lifecycle

/-!
# What callbacks do to a server

A callback leaves behind the built plugins that there were, and after them those that it keeps; it
makes no plugin ready. Plugins that it leads to are lost if they are built while another one is made
ready or cleaned up.
-/

namespace StagedFlow

variable {S : Type}

open ServerM

namespace Program

def AddsNone : Program S → Prop
  | done => True
  | act _ next => next.AddsNone
  | ask _ _ next => next.AddsNone
  | guarded _ body next => body.AddsNone ∧ next.AddsNone
  | add .. => False
  | finish next => next.AddsNone
  | cleanup next => next.AddsNone

/-- Plugins that the program adds, and those that they add, add plugins only when they are built. -/
def Steady : Program S → Prop
  | done => True
  | act _ next => next.Steady
  | ask _ _ next => next.Steady
  | guarded _ body next => body.Steady ∧ next.Steady
  | add _ build ready after next =>
    (build.Steady ∧ ready.AddsNone ∧ after.AddsNone) ∧ next.Steady
  | finish next => next.Steady
  | cleanup next => next.Steady

end Program

structure Plugin.Settled (plugin : Plugin S) : Prop where
  ready : plugin.ready.AddsNone
  cleanup : plugin.cleanup.AddsNone

structure Plugin.Steady (plugin : Plugin S) : Prop extends plugin.Settled where
  build : plugin.build.Steady

structure Plugin.Bare (plugin : Plugin S) : Prop extends plugin.Settled where
  build : plugin.build.AddsNone

def Tidy (plugins : List (Plugin S)) : Prop := ∀ plugin ∈ plugins, plugin.Settled

/-- What a callback does to a server, as its notes tell: it makes no plugin ready, and the plugins
that it leaves built stand behind those that were there. More is said of `steady` callbacks, which
add plugins in builds only, and of `bare` ones, which add none. -/
structure Effect (steady bare : Prop) (server : Server S) (notes : List (Note S))
    (result : Except ServerFault Unit) (after : Server S) : Prop where
  progress : after.progress = server.progress
  noReady : Note.turns .ready notes = []
  /-- There is nothing to do outside of the building while nothing is built. -/
  quiet : server.progress ≠ .building → server.built = [] → notes = []
  balanced : result = .ok () → Note.Balanced notes
  built : result = .ok () → after.built = server.built ++ Note.kept 0 notes
  tidy : steady → Tidy server.built → result = .ok () →
    (Note.turns .build notes).Perm (Note.kept 0 notes) ∧ Tidy after.built
  bare : bare → Tidy server.built →
    Note.turns .build notes = [] ∧ (result = .ok () → after.built = server.built)

namespace Effect

variable {steady bare : Prop} {server mid after : Server S} {notes more : List (Note S)}
  {result : Except ServerFault Unit}

/-- Nothing is noted, and no plugin is built. -/
theorem still (hprogress : after.progress = server.progress) (hbuilt : after.built = server.built) :
    Effect steady bare server [] result after where
  progress := hprogress
  noReady := rfl
  quiet _ _ := rfl
  balanced _ := .nil
  built _ := by rw [hbuilt]; exact (List.append_nil _).symm
  tidy _ htidy _ := ⟨.refl _, hbuilt ▸ htidy⟩
  bare _ _ := ⟨rfl, fun _ => hbuilt⟩

theorem trans (h : Effect steady bare server notes (.ok ()) mid)
    (hnext : Effect steady bare mid more result after) :
    Effect steady bare server (notes ++ more) result after where
  progress := hnext.progress.trans h.progress
  noReady := by rw [Note.turns_append, h.noReady, hnext.noReady, List.append_nil]
  quiet hprogress hbuilt := by
    have hnotes := h.quiet hprogress hbuilt
    have hmid : mid.built = [] := by rw [h.built rfl, hbuilt, hnotes]; rfl
    rw [hnotes, hnext.quiet (h.progress ▸ hprogress) hmid, List.append_nil]
  balanced hok := (h.balanced rfl).append (hnext.balanced hok)
  built hok := by
    rw [hnext.built hok, h.built rfl, (h.balanced rfl).kept_append, List.append_assoc]
  tidy hsteady htidy hok := by
    obtain ⟨hperm, hmid⟩ := h.tidy hsteady htidy rfl
    obtain ⟨hperm', hafter⟩ := hnext.tidy hsteady hmid hok
    rw [Note.turns_append, (h.balanced rfl).kept_append]
    exact ⟨hperm.append hperm', hafter⟩
  bare hbare htidy := by
    obtain ⟨hturns, hmid⟩ := h.bare hbare htidy
    obtain ⟨hturns', hafter⟩ := hnext.bare hbare (hmid rfl ▸ htidy)
    rw [Note.turns_append, hturns, hturns']
    exact ⟨rfl, fun hok => (hafter hok).trans (hmid rfl)⟩

theorem mono {steady' bare' : Prop} (h : Effect steady bare server notes result after)
    (hsteady : steady' → steady) (hbare : bare' → bare) :
    Effect steady' bare' server notes result after :=
  { h with
    tidy := fun hs => h.tidy (hsteady hs)
    bare := fun hb => h.bare (hbare hb) }

/-- A turn that fails does not end. -/
theorem began {fault : ServerFault} (h : Effect steady bare server notes (.error fault) after)
    (hprogress : server.progress = .building) {turn : Turn} (hturn : turn ≠ .ready)
    (plugin : Plugin S) {steady' : Prop} :
    Effect steady' False server (.began turn plugin :: notes) (.error fault) after where
  progress := h.progress
  noReady := by rw [Note.turns_began_of_ne hturn, h.noReady]
  quiet hne := absurd hprogress hne
  balanced := nofun
  built := nofun
  tidy _ _ := nofun
  bare := False.elim

theorem construct {plugin : Plugin S}
    (h : Effect plugin.build.Steady plugin.build.AddsNone server notes (.ok ()) after)
    (hprogress : server.progress = .building) :
    Effect plugin.Steady False server (Note.around .build plugin notes) (.ok ())
      { after with built := after.built ++ [plugin] } where
  progress := h.progress
  noReady := by rw [Note.turns_around_of_ne (by decide), h.noReady]
  quiet hne := absurd hprogress hne
  balanced _ := (h.balanced rfl).around _ _
  built _ := by
    rw [(h.balanced rfl).kept_around, h.built rfl, if_pos rfl, if_pos rfl, List.append_assoc]
  tidy hsteady htidy _ := by
    obtain ⟨hperm, hafter⟩ := h.tidy hsteady.build htidy rfl
    rw [(h.balanced rfl).kept_around, if_pos rfl, if_pos rfl, Note.turns_around_self]
    refine ⟨(hperm.cons plugin).trans (List.perm_append_singleton plugin _).symm, ?_⟩
    exact List.forall_mem_append.mpr ⟨hafter, List.forall_mem_singleton.mpr hsteady.toSettled⟩
  bare := False.elim

end Effect

/-- All of `whole`, or only a beginning of it if there is a fault. -/
structure UpTo {α : Type} (result : Except ServerFault Unit) (part whole : List α) : Prop where
  le : part <+: whole
  eq : result = .ok () → part = whole

namespace UpTo

variable {α : Type} {result : Except ServerFault Unit} {part whole : List α}

theorem refl (l : List α) : UpTo result l l := ⟨List.prefix_rfl, fun _ => rfl⟩

theorem append (h : UpTo result part whole) (l : List α) : UpTo result (l ++ part) (l ++ whole) :=
  ⟨(List.prefix_append_right_inj l).mpr h.le, fun hok => by rw [h.eq hok]⟩

theorem of_error {fault : ServerFault} (h : part <+: whole) : UpTo (.error fault) part whole :=
  ⟨h, nofun⟩

end UpTo

structure Building (plugins : List (Plugin S)) (server : Server S) (notes : List (Note S))
    (result : Except ServerFault Unit) (after : Server S) : Prop where
  effect : Effect (∀ plugin ∈ plugins, plugin.Steady) False server notes result after
  begun : result ≠ .ok () → notes ≠ []
  /-- Where no plugin adds another one, these are all that are built. -/
  alone : (∀ plugin ∈ plugins, plugin.Bare) → Tidy server.built →
    UpTo result (Note.turns .build notes) plugins ∧
      (result = .ok () → Note.kept 0 notes = plugins)

namespace Building

variable {plugin : Plugin S} {plugins : List (Plugin S)} {server mid after : Server S}
  {notes more : List (Note S)} {result : Except ServerFault Unit} {fault : ServerFault}

theorem nil (server : Server S) : Building [] server [] (.ok ()) server where
  effect := .still rfl rfl
  begun hne := absurd rfl hne
  alone _ _ := ⟨.refl [], fun _ => rfl⟩

/-- A build that fails is the last one. -/
theorem fail (hprogress : server.progress = .building)
    (h : Effect plugin.build.Steady plugin.build.AddsNone server notes (.error fault) after) :
    Building (plugin :: plugins) server (.began .build plugin :: notes) (.error fault) after where
  effect := h.began hprogress (by decide) plugin
  begun _ := List.cons_ne_nil _ _
  alone hbare htidy := by
    obtain ⟨hturns, -⟩ := h.bare (hbare plugin List.mem_cons_self).build htidy
    rw [Note.turns_began_self, hturns]
    exact ⟨.of_error (List.prefix_append [plugin] plugins), nofun⟩

theorem cons (hprogress : server.progress = .building)
    (h : Effect plugin.build.Steady plugin.build.AddsNone server notes (.ok ()) mid)
    (hrest : Building plugins { mid with built := mid.built ++ [plugin] } more result after) :
    Building (plugin :: plugins) server (Note.around .build plugin notes ++ more) result after where
  effect := by
    refine .trans ((h.construct hprogress).mono ?_ id) (hrest.effect.mono ?_ id)
    · exact fun hsteady => hsteady plugin List.mem_cons_self
    · exact fun hsteady => (List.forall_mem_cons.mp hsteady).2
  begun _ := List.cons_ne_nil _ _
  alone hbare htidy := by
    obtain ⟨hbare, hbares⟩ := List.forall_mem_cons.mp hbare
    obtain ⟨hturns, hmid⟩ := h.bare hbare.build htidy
    have hkept : Note.kept 0 notes = [] := by
      have hbuilt := h.built rfl
      rw [hmid rfl] at hbuilt
      exact List.self_eq_append_right.mp hbuilt
    have htidy' : Tidy (mid.built ++ [plugin]) :=
      List.forall_mem_append.mpr
        ⟨(hmid rfl).symm ▸ htidy, List.forall_mem_singleton.mpr hbare.toSettled⟩
    obtain ⟨hupTo, hok⟩ := hrest.alone hbares htidy'
    rw [Note.turns_append, Note.turns_around_self, hturns, (h.balanced rfl).kept_around_append,
      if_pos rfl, if_pos rfl, hkept]
    exact ⟨hupTo.append [plugin], fun h => by rw [hok h]; rfl⟩

end Building

/-- From a server, an action is recorded and has its effect. -/
def Mirrors (steady bare : Prop) (m : ServerM S Unit) (m' : ServerM (S × List (Note S)) Unit)
    (server : Server S) : Prop :=
  ∃ notes result after, Records m m' server notes result after ∧
    Effect steady bare server notes result after

namespace Mirrors

variable {steady bare : Prop} {m n next : ServerM S Unit}
  {m' n' next' : ServerM (S × List (Note S)) Unit} {server : Server S}

theorem bind (h : Mirrors steady bare m m' server)
    (hnext : ∀ server, Mirrors steady bare next next' server) :
    Mirrors steady bare (m >>= fun _ => next) (m' >>= fun _ => next') server := by
  obtain ⟨notes, result, mid, hrec, heff⟩ := h
  cases result with
  | error fault => exact ⟨notes, .error fault, mid, hrec.bind_error, { heff with
      balanced := nofun }⟩
  | ok =>
    obtain ⟨more, result, after, hrec', heff'⟩ := hnext mid
    exact ⟨notes ++ more, result, after, hrec.bind hrec', heff.trans heff'⟩

theorem mono {steady' bare' : Prop} (h : Mirrors steady bare m m' server)
    (hsteady : steady' → steady) (hbare : bare' → bare) : Mirrors steady' bare' m m' server := by
  obtain ⟨notes, result, after, hrec, heff⟩ := h
  exact ⟨notes, result, after, hrec, heff.mono hsteady hbare⟩

/-- Actions that come to the same are recorded alike. -/
theorem congr (hn : Mirrors steady bare n n' server) (h : exec m server = exec n server)
    (h' : ∀ record, exec m' (server.recorded record) = exec n' (server.recorded record)) :
    Mirrors steady bare m m' server := by
  obtain ⟨notes, result, after, hrec, heff⟩ := hn
  exact ⟨notes, result, after, ⟨h.trans hrec.plain, fun record => (h' record).trans
    (hrec.recorded record)⟩, heff⟩

/-- An action that depends on the server. -/
theorem branch (p : Server S → Prop) [DecidablePred p] (p' : Server (S × List (Note S)) → Prop)
    [DecidablePred p'] (hp : ∀ record, p' (server.recorded record) ↔ p server)
    (hm : p server → Mirrors steady bare m m' server)
    (hn : ¬ p server → Mirrors steady bare n n' server) :
    Mirrors steady bare (get >>= fun s => if p s then m else n)
      (get >>= fun s => if p' s then m' else n') server := by
  by_cases h : p server
  · refine (hm h).congr ?_ fun record => ?_
    · rw [exec_bind_of_ok (exec_get _), if_pos h]
    · rw [exec_bind_of_ok (exec_get _), if_pos ((hp record).mpr h)]
  · refine (hn h).congr ?_ fun record => ?_
    · rw [exec_bind_of_ok (exec_get _), if_neg h]
    · rw [exec_bind_of_ok (exec_get _), if_neg fun h' => h ((hp record).mp h')]

/-- An action after which no plugin is built that was not before. -/
theorem of_still (result : Except ServerFault Unit) (after : Server S)
    (h : exec m server = (result, after))
    (h' : ∀ record, exec m' (server.recorded record) = (result, after.recorded record))
    (hprogress : after.progress = server.progress) (hbuilt : after.built = server.built) :
    Mirrors steady bare m m' server :=
  ⟨[], result, after, ⟨h, fun record => by rw [h', List.append_nil]⟩, .still hprogress hbuilt⟩

theorem refuse : Mirrors steady bare Server.refuse Server.refuse server :=
  of_still _ _ (exec_throw _ _) (fun _ => exec_throw _ _) rfl rfl

theorem act (change : S → Except ServerFault S) :
    Mirrors steady bare (Server.act change)
      (Server.act fun store => (change store.1).map fun s => (s, store.2)) server := by
  cases hchange : change server.store with
  | ok store =>
    refine .of_still (.ok ()) { server with store } ?_ (fun record => ?_) rfl rfl
    · rw [Server.exec_act, hchange]
    · rw [Server.exec_act]
      simp only [Server.recorded, hchange, Except.map]
  | error fault =>
    refine .of_still (.error fault) server ?_ (fun record => ?_) rfl rfl
    · rw [Server.exec_act, hchange]
    · rw [Server.exec_act]
      simp only [Server.recorded, hchange, Except.map]

theorem enlist (info : PluginInfo) :
    Mirrors steady bare (Server.enlist info) (Server.enlist info) server := by
  cases hadded : info.unique && server.types.contains info.type with
  | true =>
    refine .of_still (.error (.alreadyAdded info.name)) server ?_ (fun record => ?_) rfl rfl
    · rw [Server.exec_enlist, hadded, if_pos rfl]
    · rw [Server.exec_enlist, Server.recorded, hadded, if_pos rfl]
  | false =>
    refine .of_still (.ok ()) { server with types := server.types ++ [info.type] } ?_
      (fun record => ?_) rfl rfl
    · rw [Server.exec_enlist, hadded, if_neg Bool.false_ne_true]
    · rw [Server.exec_enlist, Server.recorded, hadded, if_neg Bool.false_ne_true]
      rfl

theorem suspend (plugin : Plugin S) :
    Mirrors steady bare (Server.suspend plugin) (Server.suspend plugin.recorded) server :=
  .of_still _ _ (Server.exec_suspend _ _) (fun _ => by simp [Server.recorded]) rfl rfl

end Mirrors

/-- One plugin is built, and then others. -/
theorem exists_building_cons {refusing cleaning rest : ServerM S Unit}
    {refusing' cleaning' rest' : ServerM (S × List (Note S)) Unit} {plugin : Plugin S}
    {plugins : List (Plugin S)} {server : Server S} (hprogress : server.progress = .building)
    (h : Mirrors plugin.build.Steady plugin.build.AddsNone (plugin.build.run refusing cleaning)
      (plugin.build.recorded.run refusing' cleaning') server)
    (hrest : ∀ server : Server S, server.progress = .building →
      ∃ notes result after, Records rest rest' server notes result after ∧
        Building plugins server notes result after) :
    ∃ notes result after,
      Records
        ((plugin.build.run refusing cleaning >>= fun _ => Server.push plugin) >>= fun _ => rest)
        ((plugin.recorded.build.run refusing' cleaning' >>= fun _ =>
          Server.push plugin.recorded) >>= fun _ => rest')
        server notes result after ∧
      Building (plugin :: plugins) server notes result after := by
  obtain ⟨notes, result, mid, hrec, heff⟩ := h
  cases result with
  | error fault =>
    exact ⟨_, _, mid, (hrec.noted_error .build plugin).bind_error.bind_error, .fail hprogress heff⟩
  | ok =>
    obtain ⟨more, result, after, hrec', hbuilding⟩ :=
      hrest { mid with built := mid.built ++ [plugin] } (heff.progress.trans hprogress)
    refine ⟨_, result, after, ((hrec.noted .build plugin).bind (.push plugin)).bind hrec', ?_⟩
    rw [List.append_nil]
    exact .cons hprogress heff hbuilding

theorem Mirrors.construct {refusing cleaning : ServerM S Unit}
    {refusing' cleaning' : ServerM (S × List (Note S)) Unit} {plugin : Plugin S}
    {server : Server S} (hprogress : server.progress = .building)
    (h : Mirrors plugin.build.Steady plugin.build.AddsNone (plugin.build.run refusing cleaning)
      (plugin.build.recorded.run refusing' cleaning') server) :
    Mirrors plugin.Steady False
      (plugin.build.run refusing cleaning >>= fun _ => Server.push plugin)
      (plugin.recorded.build.run refusing' cleaning' >>= fun _ => Server.push plugin.recorded)
      server := by
  obtain ⟨notes, result, after, hrec, hbuilding⟩ := exists_building_cons hprogress h
    fun server _ => ⟨[], .ok (), server, .done server, .nil server⟩
  rw [bind_pure_unit, bind_pure_unit] at hrec
  refine ⟨notes, result, after, hrec, hbuilding.effect.mono ?_ id⟩
  exact fun hsteady => List.forall_mem_singleton.mpr hsteady

open Server in
/-- A program that runs while a server is being built, or later. -/
theorem Program.mirrors {cleaning : ServerM S Unit}
    {cleaning' : ServerM (S × List (Note S)) Unit}
    (hcleaning : ∀ server, Mirrors True True cleaning cleaning' server) (p : Program S)
    (server : Server S) :
    Mirrors p.Steady p.AddsNone (p.run refuse cleaning) (p.recorded.run refuse cleaning')
      server := by
  induction p generalizing server with
  | done => exact .of_still _ _ (exec_pure _ _) (fun _ => exec_pure _ _) rfl rfl
  | act change next ih => exact .bind (.act change) ih
  | ask question note next ih =>
    exact .bind (.of_still _ _ (exec_modify _ _) (fun _ => exec_modify _ _) rfl rfl) ih
  | guarded test body next hbody ih =>
    have hnext : ∀ server, Mirrors (guarded test body next).Steady
        (guarded test body next).AddsNone (next.run refuse cleaning)
        (next.recorded.run refuse cleaning') server :=
      fun server => (ih server).mono And.right And.right
    exact .branch (fun s => test s.store = true) (fun s => test s.store.1 = true)
      (fun _ => Iff.rfl) (fun _ => ((hbody server).mono And.left And.left).bind hnext)
      fun _ => hnext server
  | add info build ready after next hbuild _ _ ih =>
    have hnext : ∀ server, Mirrors (add info build ready after next).Steady False
        (next.run refuse cleaning) (next.recorded.run refuse cleaning') server :=
      fun server => (ih server).mono And.right False.elim
    refine .bind (.enlist info) fun server => ?_
    refine .branch (fun s => s.progress = .building) (fun s => s.progress = .building)
      (fun _ => Iff.rfl) (fun hprogress => ?_) fun _ => .bind (.suspend _) hnext
    simp only [← bind_assoc]
    refine .bind (.mono (.construct hprogress (hbuild server)) ?_ id) hnext
    rintro ⟨⟨hbuild, hready, hafter⟩, -⟩
    exact ⟨⟨hready, hafter⟩, hbuild⟩
  | finish next ih => exact .bind .refuse ih
  | cleanup next ih => exact .bind ((hcleaning server).mono (fun _ => trivial) fun _ => trivial) ih

end StagedFlow
