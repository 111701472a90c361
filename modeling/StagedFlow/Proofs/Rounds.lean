import StagedFlow.Proofs.Callbacks
import StagedFlow.Proofs.Nesting

/-!
# Rounds of turns

Built plugins take turns when they are made ready and when they are cleaned up. The list of built
plugins is put aside meanwhile, so that a round keeps no plugin that is added during it.
-/

namespace StagedFlow

variable {S : Type}

open ServerM

/-- A round of turns of plugins, other than builds. -/
structure Round (turn : Turn) (plugins : List (Plugin S)) (server : Server S)
    (notes : List (Note S)) (result : Except ServerFault Unit) (after : Server S) : Prop where
  progress : after.progress = server.progress
  begun : result ≠ .ok () → notes ≠ []
  balanced : result = .ok () → Note.Balanced notes
  kept : result = .ok () → Note.kept 0 notes = []
  /-- Plugins are made ready in this round only if that is what it is for. -/
  ready : UpTo result (Note.turns .ready notes) (if turn = .ready then plugins else [])
  /-- Where no plugin is built, nothing happens but the turns. -/
  quiet : server.progress ≠ .building → server.built = [] →
    UpTo result notes (plugins.flatMap fun plugin => Note.around turn plugin [])
  bare : (∀ plugin ∈ plugins, (turn.callback plugin).AddsNone) → Tidy server.built →
    Note.turns .build notes = [] ∧ (result = .ok () → after.built = server.built)

namespace Round

variable {turn : Turn} {plugin : Plugin S} {plugins : List (Plugin S)} {server mid after : Server S}
  {notes more : List (Note S)} {result : Except ServerFault Unit} {fault : ServerFault}

theorem nil (turn : Turn) (server : Server S) : Round turn [] server [] (.ok ()) server where
  progress := rfl
  begun hne := absurd rfl hne
  balanced _ := .nil
  kept _ := rfl
  ready := by rw [ite_self]; exact .refl []
  quiet _ _ := .refl []
  bare _ _ := ⟨rfl, fun _ => rfl⟩

/-- A turn that fails is the last one. -/
theorem fail (hturn : turn ≠ .build)
    (h : Effect (turn.callback plugin).Steady (turn.callback plugin).AddsNone server notes
      (.error fault) after) :
    Round turn (plugin :: plugins) server (.began turn plugin :: notes) (.error fault) after where
  progress := h.progress
  begun _ := List.cons_ne_nil _ _
  balanced := nofun
  kept := nofun
  ready := by
    refine .of_error ?_
    split
    case isTrue hready =>
      rw [hready, Note.turns_began_self, h.noReady]
      exact List.prefix_append [plugin] plugins
    case isFalse hready =>
      have hnone := Note.turns_began_of_ne hready plugin notes
      rw [h.noReady] at hnone
      exact hnone ▸ List.nil_prefix
  quiet hprogress hbuilt := by
    rw [h.quiet hprogress hbuilt]
    exact .of_error (List.prefix_append [Note.began turn plugin] _)
  bare hplugins htidy := by
    rw [Note.turns_began_of_ne hturn]
    exact ⟨(h.bare (hplugins plugin List.mem_cons_self) htidy).1, nofun⟩

theorem cons (hturn : turn ≠ .build)
    (h : Effect (turn.callback plugin).Steady (turn.callback plugin).AddsNone server notes
      (.ok ()) mid)
    (hrest : Round turn plugins mid more result after) :
    Round turn (plugin :: plugins) server (Note.around turn plugin notes ++ more) result after where
  progress := hrest.progress.trans h.progress
  begun _ := List.cons_ne_nil _ _
  balanced hok := ((h.balanced rfl).around turn plugin).append (hrest.balanced hok)
  kept hok := by
    rw [(h.balanced rfl).kept_around_append, if_neg hturn, hrest.kept hok, List.append_nil]
  ready := by
    rw [Note.turns_append]
    have hready := hrest.ready
    by_cases heq : turn = .ready
    · rw [if_pos heq] at hready ⊢
      rw [heq, Note.turns_around_self, h.noReady]
      exact hready.append [plugin]
    · rw [if_neg heq] at hready ⊢
      rw [Note.turns_around_of_ne heq, h.noReady]
      exact hready
  quiet hprogress hbuilt := by
    have hnotes := h.quiet hprogress hbuilt
    have hmid : mid.built = [] := by rw [h.built rfl, hbuilt, hnotes]; rfl
    rw [hnotes, List.flatMap_cons]
    exact (hrest.quiet (h.progress ▸ hprogress) hmid).append _
  bare hplugins htidy := by
    obtain ⟨hplugin, hplugins⟩ := List.forall_mem_cons.mp hplugins
    obtain ⟨hturns, hmid⟩ := h.bare hplugin htidy
    obtain ⟨hturns', hafter⟩ := hrest.bare hplugins (hmid rfl ▸ htidy)
    rw [Note.turns_append, Note.turns_around_of_ne hturn, hturns, hturns']
    exact ⟨rfl, fun hok => (hafter hok).trans (hmid rfl)⟩

end Round

open Server

variable {cleaning : ServerM S Unit} {cleaning' : ServerM (S × List (Note S)) Unit}

/-- Plugins take turns one after the other. -/
theorem exists_round (hcleaning : ∀ server, Mirrors True True cleaning cleaning' server)
    {turn : Turn} (hturn : turn ≠ .build) (plugins : List (Plugin S)) (server : Server S) :
    ∃ notes result after,
      Records (plugins.forM fun plugin => (turn.callback plugin).run refuse cleaning)
        ((plugins.map Plugin.recorded).forM fun plugin =>
          (turn.callback plugin).run refuse cleaning')
        server notes result after ∧
      Round turn plugins server notes result after := by
  induction plugins generalizing server with
  | nil => exact ⟨[], .ok (), server, .done server, .nil turn server⟩
  | cons plugin rest ih =>
    rw [List.map_cons, List.forM, List.forM, turn.callback_recorded]
    obtain ⟨notes, result, mid, hrec, heff⟩ := (turn.callback plugin).mirrors hcleaning server
    cases result with
    | error fault =>
      exact ⟨_, _, mid, (hrec.noted_error turn plugin).bind_error, .fail hturn heff⟩
    | ok =>
      obtain ⟨more, result, after, hrec', hround⟩ := ih mid
      exact ⟨_, result, after, (hrec.noted turn plugin).bind hrec', .cons hturn heff hround⟩

theorem Server.recorded_restore (built : List (Plugin S)) (result : Except ServerFault Unit)
    (server : Server S) (record : List (Note S)) :
    (server.recorded record).restore (built.map Plugin.recorded) result =
      (server.restore built result).recorded record := by
  cases result <;> rfl

theorem Records.withBuilt {use : List (Plugin S) → ServerM S Unit}
    {use' : List (Plugin (S × List (Note S))) → ServerM (S × List (Note S)) Unit}
    {server after : Server S} {notes : List (Note S)} {result : Except ServerFault Unit}
    (h : Records (use server.built) (use' (server.built.map Plugin.recorded))
      { server with built := [] } notes result after) :
    Records (Server.withBuilt use) (Server.withBuilt use') server notes result
      (after.restore server.built result) where
  plain := by rw [exec_withBuilt, h.plain]
  recorded record := by
    have hrec : exec (use' (server.recorded record).built)
        { server.recorded record with built := [] } = _ := h.recorded record
    rw [exec_withBuilt, hrec]
    exact congrArg (Prod.mk result) (Server.recorded_restore _ _ _ _)

namespace Round

variable {server after : Server S} {notes : List (Note S)} {result : Except ServerFault Unit}

/-- A cleanup as a whole: the built plugins come back. -/
theorem effect
    (h : Round .cleanup server.built.reverse { server with built := [] } notes result after) :
    Effect True True server notes result (after.restore server.built result) where
  progress := (Server.progress_restore _ _ _).trans h.progress
  noReady := List.prefix_nil.mp h.ready.le
  quiet hprogress hbuilt := by
    have hquiet := (h.quiet hprogress rfl).le
    rw [hbuilt] at hquiet
    exact List.prefix_nil.mp hquiet
  balanced := h.balanced
  built hok := by
    rw [h.kept hok, List.append_nil, hok]
    rfl
  tidy _ htidy hok := by
    have hbare := h.bare
      (fun plugin hplugin => (htidy plugin (List.mem_reverse.mp hplugin)).cleanup)
      (List.forall_mem_nil _)
    rw [hbare.1, h.kept hok, hok]
    exact ⟨.refl [], htidy⟩
  bare _ htidy := by
    have hbare := h.bare
      (fun plugin hplugin => (htidy plugin (List.mem_reverse.mp hplugin)).cleanup)
      (List.forall_mem_nil _)
    exact ⟨hbare.1, fun hok => by rw [hok]; rfl⟩

end Round

theorem mirrors_cleanupWithin (depth : Nat) (server : Server S) :
    Mirrors True True (cleanupWithin depth) (cleanupWithin depth) server := by
  induction depth generalizing server with
  | zero => exact .of_still _ _ (exec_pure _ _) (fun _ => exec_pure _ _) rfl rfl
  | succ depth ih =>
    obtain ⟨notes, result, after, hrec, hround⟩ :=
      exists_round ih (show Turn.cleanup ≠ .build by decide) server.built.reverse
        { server with built := [] }
    rw [List.map_reverse] at hrec
    exact ⟨notes, result, _, .withBuilt hrec, hround.effect⟩

theorem depthOf_recorded (plugins : List (Plugin S)) :
    depthOf (plugins.map Plugin.recorded) = depthOf plugins := by
  rw [depthOf, depthOf, List.foldl_map]
  simp only [Plugin.recorded, Program.depth_noted, Program.depth_recorded]

theorem mirrors_cleanup (server : Server S) : Mirrors True True cleanup cleanup server := by
  refine (mirrors_cleanupWithin (depthOf server.built) server).congr (exec_cleanup server)
    fun record => ?_
  rw [exec_cleanup, Server.recorded, depthOf_recorded]

/-- Where a server cleans up that does not build, the built plugins take their turns, newest first,
and nothing else happens. -/
theorem exists_cleanup {server : Server S} (hprogress : server.progress ≠ .building) :
    ∃ notes result after, Records cleanup cleanup server notes result after ∧
      UpTo result notes
        (server.built.reverse.flatMap fun plugin => Note.around .cleanup plugin []) := by
  obtain ⟨notes, result, after, hrec, hround⟩ :=
    exists_round mirrors_cleanup (show Turn.cleanup ≠ .build by decide) server.built.reverse
      { server with built := [] }
  rw [List.map_reverse] at hrec
  have hround' : Records
      (withBuilt fun plugins => plugins.reverse.forM fun plugin => call plugin.cleanup)
      (withBuilt fun plugins => plugins.reverse.forM fun plugin => call plugin.cleanup)
      server notes result (after.restore server.built result) := .withBuilt hrec
  refine ⟨notes, result, after.restore server.built result, ⟨?_, fun record => ?_⟩,
    hround.quiet hprogress rfl⟩
  · rw [exec_cleanup_eq, hround'.plain]
  · rw [exec_cleanup_eq, hround'.recorded]

end StagedFlow
