import StagedFlow.Proofs.Rounds
import StagedFlow.Proofs.BuildOrder

/-!
# How a server is finished

A server that is finished builds its plugins one after another and then tells each of them that all
are built. `Finishing` says what the notes of both parts have in common, whatever the plugins do;
`InOrder` says it for plugins that add no others.
-/

namespace StagedFlow

variable {S : Type}

open ServerM Server

namespace Server

def buildAll (plugins : List (Plugin S)) : ServerM S Unit :=
  plugins.forM fun plugin => do
    call plugin.build
    push plugin

def readyAll : ServerM S Unit :=
  withBuilt fun plugins => plugins.forM fun plugin => call plugin.ready

def begun (server : Server S) : Server S := { server with pending := [], progress := .building }

def done (server : Server S) : Server S := { server with progress := .built }

theorem exec_finish_of_ne {server : Server S} (h : server.progress ≠ .notStarted) :
    exec finish server = (.error .alreadyFinished, server) := by
  rw [finish, exec_bind_of_ok (exec_get server)]
  simp only [if_pos h]
  rfl

theorem exec_finish_of_error {server : Server S} (h : server.progress = .notStarted)
    {fault : ServerFault} (hsorted : sorted server.built server.pending = .error fault) :
    exec finish server = (.error fault, { server with pending := [] }) := by
  rw [finish, exec_bind_of_ok (exec_get server)]
  simp only [h, hsorted]
  rfl

theorem exec_finish_of_ok {server : Server S} (h : server.progress = .notStarted)
    {plugins : List (Plugin S)} (hsorted : sorted server.built server.pending = .ok plugins) :
    exec finish server =
      exec (buildAll plugins >>= fun _ => readyAll >>= fun _ => modify done) server.begun := by
  rw [finish, exec_bind_of_ok (exec_get server)]
  simp only [h, hsorted]
  rfl

theorem sorted_recorded (built plugins : List (Plugin S)) :
    sorted (built.map Plugin.recorded) (plugins.map Plugin.recorded) =
      (sorted built plugins).map (List.map Plugin.recorded) := by
  rw [sorted, sorted, List.map_map, List.map_map]
  show (PluginOrder.sort (built.map fun plugin => plugin.info.name)
    (plugins.map Plugin.info)).map _ = _
  cases PluginOrder.sort (built.map fun plugin => plugin.info.name) (plugins.map Plugin.info) with
  | error fault => rfl
  | ok order =>
    refine congrArg Except.ok ?_
    simp only [List.getElem?_map, List.map_filterMap]

end Server

/-- Plugins are built in their order. -/
theorem exists_buildAll (plugins : List (Plugin S)) {server : Server S}
    (hprogress : server.progress = .building) :
    ∃ notes result after,
      Records (buildAll plugins) (buildAll (plugins.map Plugin.recorded)) server notes result
          after ∧
        Building plugins server notes result after := by
  induction plugins generalizing server with
  | nil => exact ⟨[], .ok (), server, .done server, .nil server⟩
  | cons plugin rest ih =>
    exact exists_building_cons hprogress (plugin.build.mirrors mirrors_cleanup server)
      fun _ hprogress => ih hprogress

/-- Built plugins are made ready in their order, and come back. -/
theorem exists_readyAll (server : Server S) :
    ∃ notes result after,
      Records readyAll readyAll server notes result (after.restore server.built result) ∧
        Round .ready server.built { server with built := [] } notes result after := by
  obtain ⟨notes, result, after, hrec, hround⟩ :=
    exists_round mirrors_cleanup (show Turn.ready ≠ .build by decide) server.built
      { server with built := [] }
  exact ⟨notes, result, after, .withBuilt hrec, hround⟩

namespace Records

variable {server after : Server S} {plugins : List (Plugin S)} {notes : List (Note S)}
  {result : Except ServerFault Unit} {fault : ServerFault}

/-- Plugins that cannot be put in order are not built. -/
theorem finish_error (hprogress : server.progress = .notStarted)
    (hsorted : sorted server.built server.pending = .error fault) :
    Records finish finish server [] (.error fault) { server with pending := [] } where
  plain := exec_finish_of_error hprogress hsorted
  recorded record := by
    have hprogress' : (server.recorded record).progress = .notStarted := hprogress
    rw [List.append_nil]
    refine exec_finish_of_error hprogress' ?_
    rw [Server.recorded, sorted_recorded, hsorted]
    rfl

theorem finish (hprogress : server.progress = .notStarted)
    (hsorted : sorted server.built server.pending = .ok plugins)
    (h : Records
      (buildAll plugins >>= fun _ => readyAll >>= fun _ => modify Server.done)
      (buildAll (plugins.map Plugin.recorded) >>= fun _ => readyAll >>= fun _ => modify Server.done)
      server.begun notes result after) :
    Records Server.finish Server.finish server notes result after where
  plain := (exec_finish_of_ok hprogress hsorted).trans h.plain
  recorded record := by
    have hprogress' : (server.recorded record).progress = .notStarted := hprogress
    refine (exec_finish_of_ok hprogress' ?_).trans (h.recorded record)
    rw [Server.recorded, sorted_recorded, hsorted]
    rfl

theorem finished (server : Server S) :
    Records (modify Server.done) (modify Server.done) server [] (.ok ()) server.done where
  plain := exec_modify _ _
  recorded record := by rw [exec_modify, List.append_nil]; rfl

end Records

structure InOrder (plugins : List (Plugin S)) (building readying : List (Note S))
    (result : Except ServerFault Unit) : Prop where
  built : UpTo result (Note.turns .build building) plugins
  ready : UpTo result (Note.turns .ready readying) plugins
  /-- Plugins are made ready after all of them are built, and then none is built. -/
  late : readying ≠ [] → Note.turns .build building = plugins ∧ Note.kept 0 building = plugins ∧
    Note.turns .build readying = []
  early : Note.turns .ready building = []

/-- How plugins are built in their order, with those that they add, and made ready. -/
structure Finishing (plugins : List (Plugin S)) (building readying : List (Note S))
    (result : Except ServerFault Unit) (after : Server S) : Prop where
  begun : result ≠ .ok () → building ++ readying ≠ []
  /-- No plugin is made ready before all are built. -/
  early : Note.turns .ready building = []
  ready : UpTo result (Note.turns .ready readying) (Note.kept 0 building)
  built : result = .ok () → after.progress = .built ∧ after.built = Note.kept 0 building
  steady : (∀ plugin ∈ plugins, plugin.Steady) → result = .ok () →
    (Note.turns .build building).Perm (Note.kept 0 building) ∧ Note.turns .build readying = []
  alone : (∀ plugin ∈ plugins, plugin.Bare) →
    InOrder plugins building readying result ∧ (result = .ok () → after.built = plugins)

namespace Finishing

variable {server mid after : Server S} {plugins : List (Plugin S)}
  {building readying : List (Note S)} {result : Except ServerFault Unit} {fault : ServerFault}

theorem of_build_error (hbuilt : server.built = [])
    (h : Building plugins server building (.error fault) after) :
    Finishing plugins building [] (.error fault) after where
  begun hne := by rw [List.append_nil]; exact h.begun hne
  early := h.effect.noReady
  ready := .of_error List.nil_prefix
  built := nofun
  steady _ := nofun
  alone hbare := by
    obtain ⟨hupTo, -⟩ := h.alone hbare (hbuilt ▸ List.forall_mem_nil _)
    exact ⟨⟨hupTo, .of_error List.nil_prefix, fun hne => absurd rfl hne, h.effect.noReady⟩, nofun⟩

theorem of_round (hbuilt : server.built = [])
    (h : Building plugins server building (.ok ()) mid)
    (hround : Round .ready mid.built { mid with built := [] } readying result after)
    (last : Server S) (hlast : result = .ok () → last.progress = .built ∧ last.built = mid.built) :
    Finishing plugins building readying result last := by
  have hkept : mid.built = Note.kept 0 building := by
    rw [h.effect.built rfl, hbuilt, List.nil_append]
  have hready := hround.ready
  rw [if_pos rfl] at hready
  have htidyMid : Tidy ({ mid with built := [] } : Server S).built := List.forall_mem_nil _
  constructor
  case begun => exact fun hne => List.append_ne_nil_of_right_ne_nil _ (hround.begun hne)
  case early => exact h.effect.noReady
  case ready => exact hkept ▸ hready
  case built => exact fun hok => ⟨(hlast hok).1, (hlast hok).2.trans hkept⟩
  case steady =>
    intro hsteady hok
    obtain ⟨hperm, htidy⟩ := h.effect.tidy hsteady (hbuilt ▸ List.forall_mem_nil _) rfl
    exact ⟨hperm, (hround.bare (fun plugin hplugin => (htidy plugin hplugin).ready) htidyMid).1⟩
  case alone =>
    intro hbare
    obtain ⟨hupTo, hok⟩ := h.alone hbare (hbuilt ▸ List.forall_mem_nil _)
    have hmid : mid.built = plugins := hkept.trans (hok rfl)
    rw [hmid] at hround hready
    obtain ⟨hnone, -⟩ := hround.bare (fun plugin hplugin => (hbare plugin hplugin).ready) htidyMid
    refine ⟨⟨?_, hready, fun _ => ⟨hupTo.eq rfl, hok rfl, hnone⟩, h.effect.noReady⟩,
      fun hok => (hlast hok).2.trans hmid⟩
    rw [hupTo.eq rfl]
    exact .refl plugins

end Finishing

structure Server.Fresh (server : Server S) : Prop where
  progress : server.progress = .notStarted
  built : server.built = []

/-- A fresh server whose plugins are put in order is finished. -/
theorem exists_finish {server : Server S} (hfresh : server.Fresh) {plugins : List (Plugin S)}
    (hsorted : sorted server.built server.pending = .ok plugins) :
    ∃ building readying result after,
      Records Server.finish Server.finish server (building ++ readying) result after ∧
        Finishing plugins building readying result after := by
  have hbuilt : server.begun.built = [] := hfresh.built
  obtain ⟨building, result, mid, hbuild, hbuilding⟩ :=
    exists_buildAll plugins (show server.begun.progress = .building from rfl)
  cases result with
  | error fault =>
    refine ⟨building, [], .error fault, mid, ?_, .of_build_error hbuilt hbuilding⟩
    rw [List.append_nil]
    exact .finish hfresh.progress hsorted hbuild.bind_error
  | ok =>
    obtain ⟨readying, result, after, hready, hround⟩ := exists_readyAll mid
    cases result with
    | error fault =>
      exact ⟨building, readying, .error fault, _,
        .finish hfresh.progress hsorted (hbuild.bind hready.bind_error),
        .of_round hbuilt hbuilding hround after nofun⟩
    | ok =>
      refine ⟨building, readying, .ok (), _, .finish hfresh.progress hsorted ?_,
        .of_round hbuilt hbuilding hround (after.restore mid.built (.ok ())).done fun _ =>
          ⟨rfl, rfl⟩⟩
      have hfinished := hready.bind (.finished _)
      rw [List.append_nil] at hfinished
      exact hbuild.bind hfinished

end StagedFlow
