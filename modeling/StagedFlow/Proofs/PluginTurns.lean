import StagedFlow.Proofs.Reached

/-!
# The turns of plugins

A server that is finished has made ready every plugin that it keeps, once and after its build, and
it cleans them up in reverse. It keeps those that were there before and those that builds add.
Where no plugin adds another one, they are built in the order of their needs, or not at all.
-/

namespace StagedFlow

variable {S : Type}

open ServerM Server PluginOrder Relation

def ServerM.Raises (m : ServerM S Unit) (fault : ServerFault) : Prop :=
  ∃ server after, exec m server = (.error fault, after)

theorem exists_raises_of_forM {α : Type} {f : α → ServerM S Unit} {items : List α}
    {fault : ServerFault} (h : (items.forM f).Raises fault) : ∃ a ∈ items, (f a).Raises fault := by
  obtain ⟨server, after, h⟩ := h
  induction items generalizing server with
  | nil => cases h
  | cons a rest ih =>
    rw [List.forM] at h
    cases ha : exec (f a) server with
    | mk result mid =>
      cases result with
      | error fault' =>
        rw [exec_bind_of_error ha] at h
        cases h
        exact ⟨a, List.mem_cons_self, server, _, ha⟩
      | ok =>
        rw [exec_bind_of_ok ha] at h
        obtain ⟨b, hb, hraises⟩ := ih mid h
        exact ⟨b, List.mem_cons_of_mem _ hb, hraises⟩

/-- What fails is the first action, or the second one after it. -/
theorem raises_of_bind {m next : ServerM S Unit} {fault : ServerFault}
    {server after : Server S} (h : exec (m >>= fun _ => next) server = (.error fault, after)) :
    exec m server = (.error fault, after) ∨
      ∃ mid, exec m server = (.ok (), mid) ∧ exec next mid = (.error fault, after) := by
  rw [exec_bind] at h
  generalize exec m server = ended at h
  rcases ended with ⟨result | ⟨⟩, mid⟩
  · exact .inl h
  · exact .inr ⟨mid, rfl, h⟩

/-- Where no plugin adds another one, only callbacks of the plugins themselves can fail. -/
theorem exists_raises_of_finish {server after : Server S} (hfresh : server.Fresh)
    {plugins : List (Plugin S)} (hsorted : sorted server.built server.pending = .ok plugins)
    (hbare : ∀ plugin ∈ plugins, plugin.Bare) {fault : ServerFault}
    (h : exec finish server = (.error fault, after)) :
    ∃ plugin ∈ plugins, (call plugin.build).Raises fault ∨ (call plugin.ready).Raises fault := by
  rw [exec_finish_of_ok hfresh.progress hsorted] at h
  obtain hbuild | ⟨mid, hbuild, h⟩ := raises_of_bind h
  · obtain ⟨plugin, hplugin, start, after, hraises⟩ := exists_raises_of_forM ⟨_, _, hbuild⟩
    obtain hraises | ⟨_, _, hpush⟩ := raises_of_bind hraises
    · exact ⟨plugin, hplugin, .inl ⟨_, _, hraises⟩⟩
    · rw [exec_push] at hpush
      cases hpush
  · obtain hready | ⟨_, _, hdone⟩ := raises_of_bind h
    · have hmid : mid.built = plugins := by
        obtain ⟨notes, result, after, hrec, hbuilding⟩ :=
          exists_buildAll plugins (show server.begun.progress = .building from rfl)
        obtain ⟨rfl, rfl⟩ := Prod.mk.inj (hrec.plain.symm.trans hbuild)
        have hbuilt : server.begun.built = [] := hfresh.built
        obtain ⟨-, hkept⟩ := hbuilding.alone hbare (hbuilt ▸ List.forall_mem_nil _)
        rw [hbuilding.effect.built rfl, hbuilt, hkept rfl, List.nil_append]
      rw [readyAll, exec_withBuilt, hmid] at hready
      obtain ⟨plugin, hplugin, hraises⟩ :=
        exists_raises_of_forM ⟨_, _, Prod.ext (Prod.mk.inj hready).1 rfl⟩
      exact ⟨plugin, hplugin, .inr hraises⟩
    · rw [exec_modify] at hdone
      cases hdone

/-! ### Servers that are finished -/

theorem mem_of_sorted {server : Server S} {plugins : List (Plugin S)}
    (h : sorted server.built server.pending = .ok plugins) {plugin : Plugin S}
    (hplugin : plugin ∈ plugins) : plugin ∈ server.pending := by
  rw [sorted] at h
  cases horder : PluginOrder.sort (server.built.map fun plugin => plugin.info.name)
      (server.pending.map Plugin.info) with
  | error fault =>
    rw [horder] at h
    cases h
  | ok order =>
    rw [horder] at h
    cases h
    obtain ⟨i, -, hi⟩ := List.mem_filterMap.mp hplugin
    exact List.mem_of_getElem? hi

/-- A server that finishes was not finished before, and its plugins could be put in order. -/
theorem exists_sorted_of_finish {server after : Server S}
    (h : exec finish server = (.ok (), after)) :
    server.progress = .notStarted ∧
      ∃ plugins, sorted server.built server.pending = .ok plugins := by
  by_cases hprogress : server.progress = .notStarted
  · refine ⟨hprogress, ?_⟩
    cases hsorted : sorted server.built server.pending with
    | error fault =>
      rw [exec_finish_of_error hprogress hsorted] at h
      cases h
    | ok plugins => exact ⟨plugins, rfl⟩
  · rw [exec_finish_of_ne hprogress] at h
    cases h

/-- What plugins go through when a server is finished and then cleans up. -/
structure Lifecycle (server after : Server S) (building readying : List (Note S)) : Prop where
  finishes : Records finish finish server (building ++ readying) (.ok ()) after
  /-- No plugin is made ready before the last one is built. -/
  early : Note.turns .ready building = []
  /-- Those are made ready, once and in their order, whose builds have ended, except for plugins
  that were built in the course of a cleanup. -/
  ready : Note.turns .ready readying = Note.kept 0 building
  /-- Exactly these are cleaned up, in reverse; if a callback fails, up to that one. -/
  cleans : ∃ notes result last, Records cleanup cleanup after notes result last ∧
    UpTo result notes
      ((Note.turns .ready readying).reverse.flatMap fun plugin => Note.around .cleanup plugin [])
  /-- If plugins add plugins only when they are built, there are no others. -/
  steady : (∀ plugin ∈ server.pending, plugin.Steady) →
    (Note.turns .build building).Perm (Note.turns .ready readying) ∧
      Note.turns .build readying = []

/-- A server that finishes makes ready what it has built, and then cleans it up. -/
theorem exists_lifecycle {server after : Server S} (hserver : server.Reached)
    (hfinish : exec finish server = (.ok (), after)) :
    ∃ building readying, Lifecycle server after building readying := by
  obtain ⟨hprogress, plugins, hsorted⟩ := exists_sorted_of_finish hfinish
  obtain ⟨building, readying, result, after', hrec, hfin⟩ :=
    exists_finish (hserver.fresh hprogress) hsorted
  obtain ⟨rfl, rfl⟩ := Prod.mk.inj (hrec.plain.symm.trans hfinish)
  have hready := hfin.ready.eq rfl
  obtain ⟨hbuilt, hkept⟩ := hfin.built rfl
  refine ⟨building, readying, hrec, hfin.early, hready, ?_, fun hsteady => ?_⟩
  · rw [hready, ← hkept]
    exact exists_cleanup (by rw [hbuilt]; exact nofun)
  · rw [hready]
    exact hfin.steady (fun plugin hplugin => hsteady plugin (mem_of_sorted hsorted hplugin)) rfl

def Plugin.inner : Plugin Unit := ⟨.ofType "Inner" [], .done, .done, .done⟩

/-- A plugin that adds another one, either while it is built or while it is made ready. -/
def Plugin.outer (late : Bool) : Plugin Unit where
  info := .ofType "Outer" []
  build := if late then .done else .addAll [.inner] .done
  ready := if late then .addAll [.inner] .done else .done
  cleanup := .done

def Server.nesting (late : Bool) : Server Unit := (exec (add (.outer late)) (.start ())).2

/-- Plugins that are built within a build are made ready and cleaned up. -/
theorem exists_lifecycle_nested :
    (nesting false).Reached ∧ (exec finish (nesting false)).1 = .ok () ∧
      ∃ building readying,
        Lifecycle (nesting false) (exec finish (nesting false)).2 building readying :=
  ⟨.run _ (.start ()), rfl, exists_lifecycle (.run _ (.start ())) (Prod.ext rfl rfl)⟩

/-- A plugin that is built while another one is made ready is lost: it is neither made ready nor
cleaned up. -/
theorem exists_plugin_lost : ∃ after last : Server (Unit × List (Note Unit)),
    exec finish ((nesting true).recorded []) = (.ok (), after) ∧
    Note.turns .build after.store.2 = [.outer true, .inner] ∧
    Note.turns .ready after.store.2 = [.outer true] ∧
    exec cleanup after = (.ok (), last) ∧
    Note.turns .cleanup last.store.2 = [.outer true] :=
  ⟨_, _, rfl, rfl, rfl, rfl, rfl⟩

structure FinishesInOrder (server : Server S) : Prop where
  /-- No counter is lowered below zero, and placing ends. -/
  settles : ∃ w s, waits (server.built.map fun plugin => plugin.info.name)
      (server.pending.map Plugin.info) = .ok w ∧
    settle w = some s ∧ s.queue = [] ∧
    ∀ steps, w.length ≤ steps → Placing.run w steps (.start w) = some s
  /-- Exactly plugins with a cycle among them are refused before any of them is built. -/
  circular_iff : (∃ names last, Records finish finish server [] (.error (.circular names)) last) ↔
    ∃ c, TransGen (Needs (server.pending.map Plugin.info)) c c
  /-- Then those are named, in their order, that lie on a cycle or come after one. -/
  stuck : ∀ names last, Records finish finish server [] (.error (.circular names)) last →
    ∃ left : List Nat, left.Pairwise (· < ·) ∧
      (∀ i, i ∈ left ↔ i < server.pending.length ∧
        Stuck (Needs (server.pending.map Plugin.info)) i) ∧
      left.map (fun i => server.pending[i]?.map fun plugin => plugin.info.name) = names.map some
  /-- Others are built and made ready in an order that their needs allow, unless a callback fails,
  and cleaned up in reverse. -/
  order : (¬ ∃ c, TransGen (Needs (server.pending.map Plugin.info)) c c) →
    ∃ order plugins building readying result after,
      BuildOrder (server.pending.map Plugin.info) order ∧
      order.map (fun i => server.pending[i]?) = plugins.map some ∧
      Records finish finish server (building ++ readying) result after ∧
      InOrder plugins building readying result ∧
      (∀ fault, result = .error fault → ∃ plugin ∈ server.pending,
        (call plugin.build).Raises fault ∨ (call plugin.ready).Raises fault) ∧
      (result = .ok () → ∃ notes result last,
        Records cleanup cleanup after notes result last ∧
        UpTo result notes (plugins.reverse.flatMap fun plugin => Note.around .cleanup plugin []))

theorem map_eq_map_some_filterMap {α β : Type} {f : α → Option β} {items : List α}
    (h : ∀ a ∈ items, (f a).isSome) : items.map f = (items.filterMap f).map some := by
  induction items with
  | nil => rfl
  | cons a rest ih =>
    obtain ⟨hfirst, hrest⟩ := List.forall_mem_cons.mp h
    obtain ⟨b, hb⟩ := Option.isSome_iff_exists.mp hfirst
    rw [List.map_cons, List.filterMap_cons_some hb, List.map_cons, hb, ih hrest]

variable {server : Server S}

/-- Plugins with a cycle among them are refused. -/
theorem exists_finish_eq_circular (hfresh : server.Fresh)
    (hmet : Met (server.pending.map Plugin.info))
    (hcycle : ∃ c, TransGen (Needs (server.pending.map Plugin.info)) c c) :
    ∃ left : List Nat, ∃ names last, left.Pairwise (· < ·) ∧
      (∀ i, i ∈ left ↔ i < server.pending.length ∧
        Stuck (Needs (server.pending.map Plugin.info)) i) ∧
      left.map (fun i => server.pending[i]?.map fun plugin => plugin.info.name) = names.map some ∧
      Records finish finish server [] (.error (.circular names)) last := by
  obtain ⟨left, hleft, hmem, hsort⟩ :=
    exists_sort_eq_circular (server.built.map fun plugin => plugin.info.name) hmet hcycle
  rw [List.length_map] at hmem
  refine ⟨left, left.filterMap fun i => server.pending[i]?.map fun plugin => plugin.info.name, _,
    hleft, hmem, map_eq_map_some_filterMap fun i hi => ?_, .finish_error hfresh.progress ?_⟩
  · rw [List.getElem?_eq_getElem ((hmem i).mp hi).1]
    rfl
  · rw [sorted, hsort]
    simp only [List.getElem?_map, Option.map_map]
    rfl

/-- Plugins without a cycle among them are built in an order. -/
theorem exists_finish_in_order (hfresh : server.Fresh)
    (hmet : Met (server.pending.map Plugin.info))
    (hacyclic : ¬ ∃ c, TransGen (Needs (server.pending.map Plugin.info)) c c) :
    ∃ order plugins building readying result after,
      BuildOrder (server.pending.map Plugin.info) order ∧
      order.map (fun i => server.pending[i]?) = plugins.map some ∧
      sorted server.built server.pending = .ok plugins ∧
      Records finish finish server (building ++ readying) result after ∧
      Finishing plugins building readying result after := by
  obtain ⟨order, hsort, horder⟩ :=
    exists_sort_eq_ok (server.built.map fun plugin => plugin.info.name) hmet hacyclic
  have hsorted : sorted server.built server.pending =
      .ok (order.filterMap fun i => server.pending[i]?) := by
    rw [sorted, hsort]
    rfl
  obtain ⟨building, readying, result, after, hrec, hfin⟩ := exists_finish hfresh hsorted
  refine ⟨order, _, building, readying, result, after, horder,
    map_eq_map_some_filterMap fun i hi => ?_, hsorted, hrec, hfin⟩
  have hlt := List.mem_range.mp (horder.perm.mem_iff.mp hi)
  rw [List.length_map] at hlt
  rw [List.getElem?_eq_getElem hlt]
  rfl

/-- Plugins that add no others are built in the order of their needs, unless there is a cycle. -/
theorem finishesInOrder_of_bare (hfresh : server.Fresh)
    (hmet : Met (server.pending.map Plugin.info))
    (hbare : ∀ plugin ∈ server.pending, plugin.Bare) : FinishesInOrder server := by
  have hcircular : (∃ names last, Records finish finish server [] (.error (.circular names)) last) →
      ∃ c, TransGen (Needs (server.pending.map Plugin.info)) c c := by
    rintro ⟨names, last, hrec⟩
    by_contra hacyclic
    obtain ⟨order, plugins, building, readying, result, after, -, -, -, hrec', hfin⟩ :=
      exists_finish_in_order hfresh hmet hacyclic
    obtain ⟨hnotes, hresult, -⟩ := hrec.unique hrec'
    exact hfin.begun (hresult ▸ nofun) hnotes.symm
  constructor
  case settles =>
    obtain ⟨w, hwaits, -⟩ := exists_waits_eq (server.built.map fun plugin => plugin.info.name) hmet
    obtain ⟨s, hsettle, -, hqueue, hrun⟩ := exists_settle w
    exact ⟨w, s, hwaits, hsettle, hqueue, hrun⟩
  case circular_iff =>
    refine ⟨hcircular, fun hcycle => ?_⟩
    obtain ⟨left, names, last, -, -, -, hrec⟩ := exists_finish_eq_circular hfresh hmet hcycle
    exact ⟨names, last, hrec⟩
  case stuck =>
    intro names last hrec
    obtain ⟨left, names', last', hleft, hmem, hnames, hrec'⟩ :=
      exists_finish_eq_circular hfresh hmet (hcircular ⟨names, last, hrec⟩)
    obtain ⟨-, hresult, -⟩ := hrec.unique hrec'
    cases hresult
    exact ⟨left, hleft, hmem, hnames⟩
  case order =>
    intro hacyclic
    obtain ⟨order, plugins, building, readying, result, after, horder, hplugins, hsorted, hrec,
      hfin⟩ := exists_finish_in_order hfresh hmet hacyclic
    have hbares : ∀ plugin ∈ plugins, plugin.Bare := fun plugin hplugin =>
      hbare plugin (mem_of_sorted hsorted hplugin)
    obtain ⟨hinOrder, hafter⟩ := hfin.alone hbares
    refine ⟨order, plugins, building, readying, result, after, horder, hplugins, hrec, hinOrder,
      fun fault hfault => ?_, fun hok => ?_⟩
    · obtain ⟨plugin, hplugin, hraises⟩ :=
        exists_raises_of_finish hfresh hsorted hbares (hfault ▸ hrec.plain)
      exact ⟨plugin, mem_of_sorted hsorted hplugin, hraises⟩
    · rw [← hafter hok]
      exact exists_cleanup (by rw [(hfin.built hok).1]; exact nofun)

def Plugin.needing (type : String) (dependencies : List String) : Plugin Unit :=
  ⟨.ofType type dependencies, .done, .done, .done⟩

def Server.chained : Server Unit where
  store := ()
  progress := .notStarted
  pending := [.needing "C" ["B", "A"], .needing "B" ["A"], .needing "A" []]
  built := []
  types := ["C", "B", "A"]

theorem finishesInOrder_chained :
    chained.Fresh ∧ Met (chained.pending.map Plugin.info) ∧
      (∀ plugin ∈ chained.pending, plugin.Bare) ∧ FinishesInOrder chained := by
  have hfresh : chained.Fresh := ⟨rfl, rfl⟩
  have hmet : Met (chained.pending.map Plugin.info) := by unfold Met; decide
  have hneeding : ∀ type dependencies, (Plugin.needing type dependencies).Bare := fun _ _ =>
    ⟨⟨trivial, trivial⟩, trivial⟩
  have hbare : ∀ plugin ∈ chained.pending, plugin.Bare := by simp [chained, hneeding]
  exact ⟨hfresh, hmet, hbare, finishesInOrder_of_bare hfresh hmet hbare⟩

end StagedFlow
