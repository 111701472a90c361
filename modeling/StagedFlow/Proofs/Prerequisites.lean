import StagedFlow.Proofs.PluginTurns

/-!
# What is built before a plugin

Plugins that wait for a server to be finished are built one after another, and during a build only
that happens which the plugin does itself. So it can be said of each of them what was built before.
Nothing of the kind holds for plugins that are added during a build: they are built at once, and
nobody looks at what they depend on.
-/

namespace StagedFlow

open ServerM Server PluginOrder Relation

namespace PluginOrder

variable {infos : List PluginInfo}

theorem forall_exists_of_targets_eq_ok {plugin : PluginInfo} {dependencies : List String}
    {found : List Nat} (h : targets [] infos plugin dependencies = .ok found) :
    ∀ dependency ∈ dependencies, ∃ other ∈ infos, other.name = dependency := by
  induction dependencies generalizing found with
  | nil => exact List.forall_mem_nil _
  | cons dependency rest ih =>
    rw [targets] at h
    cases hfind : infos.findIdx? fun info => info.name == dependency with
    | none =>
      rw [hfind] at h
      cases h
    | some i =>
      rw [hfind] at h
      cases hrest : targets [] infos plugin rest with
      | error fault =>
        rw [hrest] at h
        cases h
      | ok more =>
        obtain ⟨hlt, hname, -⟩ := List.findIdx?_eq_some_iff_getElem.mp hfind
        exact List.forall_mem_cons.mpr
          ⟨⟨infos[i], List.getElem_mem hlt, beq_iff_eq.mp hname⟩, ih hrest⟩

/-- Where no plugin is built yet, it is known what each plugin waits for only if every dependency
names a plugin that waits. -/
theorem met_of_waits_eq_ok {w : List (List Nat)} (h : waits [] infos = .ok w) : Met infos := by
  intro info hinfo
  obtain ⟨i, hi, rfl⟩ := List.getElem_of_mem hinfo
  have hall := (mapM_eq_ok_iff _ _ _).mp h
  have hlt : i < w.length := hall.length_eq ▸ hi
  exact forall_exists_of_targets_eq_ok ((List.forall₂_iff_get.mp hall).2 i hi hlt)

theorem met_of_sort_eq_ok {order : List Nat} (h : sort [] infos = .ok order) : Met infos := by
  cases hwaits : waits [] infos with
  | error fault =>
    rw [sort, hwaits] at h
    cases h
  | ok w => exact met_of_waits_eq_ok hwaits

theorem buildOrder_of_sort_eq_ok {order : List Nat} (h : sort [] infos = .ok order) :
    BuildOrder infos order := by
  have hmet := met_of_sort_eq_ok h
  have hacyclic : ¬ ∃ c, TransGen (Needs infos) c c := by
    intro hcycle
    obtain ⟨left, -, -, hcircular⟩ := exists_sort_eq_circular [] hmet hcycle
    rw [hcircular] at h
    cases h
  obtain ⟨found, hfound, horder⟩ := exists_sort_eq_ok [] hmet hacyclic
  rw [hfound] at h
  exact Except.ok.inj h ▸ horder

theorem filterMap_range_getElem? {α : Type} (items : List α) :
    (List.range items.length).filterMap (fun i => items[i]?) = items := by
  have hmap : (List.range items.length).map (fun i => items[i]?) = items.map some := by
    refine List.ext_getElem? fun i => ?_
    by_cases hi : i < items.length <;> simp [hi]
  calc (List.range items.length).filterMap (fun i => items[i]?)
      = ((List.range items.length).map fun i => items[i]?).filterMap id := by
        rw [List.filterMap_map]
        rfl
    _ = items := by
        rw [hmap, List.filterMap_map]
        exact List.filterMap_some

/-- Plugins in an order that has a place for each of them. -/
theorem BuildOrder.perm_filterMap {α : Type} {items : List α} {info : α → PluginInfo}
    {order : List Nat} (h : BuildOrder (items.map info) order) :
    (order.filterMap fun i => items[i]?).Perm items := by
  have hperm := h.perm.filterMap fun i => items[i]?
  rwa [List.length_map, filterMap_range_getElem?] at hperm

end PluginOrder

variable {S : Type}

structure Ordered (pending plugins : List (Plugin S)) : Prop where
  perm : plugins.Perm pending
  /-- Whatever a plugin depends on comes before it. -/
  before : ∀ l plugin r, plugins = l ++ plugin :: r → ∀ dependency ∈ plugin.info.dependencies,
    ∃ other ∈ l, other.info.name = dependency

theorem ordered_of_sorted {pending plugins : List (Plugin S)}
    (h : sorted [] pending = .ok plugins) : Ordered pending plugins := by
  rw [sorted, List.map_nil] at h
  cases hsort : PluginOrder.sort [] (pending.map Plugin.info) with
  | error fault =>
    rw [hsort] at h
    cases h
  | ok order =>
    rw [hsort] at h
    cases h
    have horder := buildOrder_of_sort_eq_ok hsort
    refine ⟨horder.perm_filterMap, fun l plugin r hsplit dependency hdependency => ?_⟩
    obtain ⟨front, back, rfl, rfl, hback⟩ := List.filterMap_eq_append_iff.mp hsplit
    obtain ⟨absent, i, rest, rfl, habsent, hi, -⟩ := List.filterMap_eq_cons_iff.mp hback
    -- The dependency has the place that the order was made for.
    have hinfo : (pending.map Plugin.info)[i]? = some plugin.info := by
      rw [List.getElem?_map, hi]
      rfl
    obtain ⟨needed, hneeded, hname⟩ :=
      met_of_sort_eq_ok hsort plugin.info (List.mem_of_getElem? hinfo) dependency hdependency
    obtain ⟨j, hj⟩ : ∃ j, ((pending.map Plugin.info).findIdx? fun other =>
        other.name == dependency) = some j := by
      rw [← Option.isSome_iff_exists, List.findIdx?_isSome, List.any_eq_true]
      exact ⟨needed, hneeded, beq_iff_eq.mpr hname⟩
    have hmem : j ∈ front ++ absent :=
      horder.before _ i rest (by rw [List.append_assoc]) j
        ⟨plugin.info, hinfo, dependency, hdependency, hj⟩
    obtain ⟨hlt, hother, -⟩ := List.findIdx?_eq_some_iff_getElem.mp hj
    rw [List.length_map] at hlt
    rw [List.getElem_map] at hother
    have hget : pending[j]? = some pending[j] := List.getElem?_eq_getElem hlt
    rcases List.mem_append.mp hmem with hfront | hgone
    · exact ⟨pending[j], List.mem_filterMap.mpr ⟨j, hfront, hget⟩, beq_iff_eq.mp hother⟩
    · rw [habsent j hgone] at hget
      cases hget

/-! ### Builds one after another -/

/-- Plugins that are built one after another. What happens during a build is what its plugin does
from there. -/
inductive BuiltInTurn : List (Plugin S) → Server S → List (Note S) → Server S → Prop where
  | nil (server : Server S) : BuiltInTurn [] server [] server
  | cons {plugin : Plugin S} {plugins : List (Plugin S)} {server mid after : Server S}
      {inner more : List (Note S)}
      (h : Records (call plugin.build) (call plugin.build.recorded) server inner (.ok ()) mid)
      (hrest : BuiltInTurn plugins { mid with built := mid.built ++ [plugin] } more after) :
      BuiltInTurn (plugin :: plugins) server (Note.around .build plugin inner ++ more) after

namespace BuiltInTurn

variable {plugins l r : List (Plugin S)} {plugin : Plugin S} {server mid after : Server S}
  {notes : List (Note S)}

theorem exists_of_buildAll (h : exec (buildAll plugins) server = (.ok (), after))
    (hprogress : server.progress = .building) :
    ∃ notes, BuiltInTurn plugins server notes after ∧
      Records (buildAll plugins) (buildAll (plugins.map Plugin.recorded)) server notes (.ok ())
        after := by
  induction plugins generalizing server with
  | nil =>
    obtain rfl := (Prod.mk.inj h).2
    exact ⟨[], .nil _, .done _⟩
  | cons plugin rest ih =>
    obtain ⟨inner, result, mid, hrec, heffect⟩ : Mirrors plugin.build.Steady plugin.build.AddsNone
        (call plugin.build) (call plugin.build.recorded) server :=
      plugin.build.mirrors mirrors_cleanup server
    have hbuild : exec (buildAll (plugin :: rest)) server =
        exec ((call plugin.build >>= fun _ => push plugin) >>= fun _ => buildAll rest) server := rfl
    cases result with
    | error fault =>
      rw [hbuild, exec_bind_of_error (exec_bind_of_error hrec.plain)] at h
      cases h
    | ok =>
      have hfirst : Records (call plugin.build >>= fun _ => push plugin)
          (call plugin.recorded.build >>= fun _ => push plugin.recorded) server
          (Note.around .build plugin inner) (.ok ())
          { mid with built := mid.built ++ [plugin] } := by
        have hturn := (hrec.noted .build plugin).bind (.push plugin)
        rwa [List.append_nil] at hturn
      rw [hbuild, exec_bind_of_ok hfirst.plain] at h
      obtain ⟨more, hrest, hrecRest⟩ := ih h (heffect.progress.trans hprogress)
      exact ⟨_, .cons hrec hrest, hfirst.bind hrecRest⟩

/-- When the build of a plugin begins, those of all plugins before it have ended. -/
theorem exists_split (h : BuiltInTurn (l ++ plugin :: r) server notes after) :
    ∃ before inner later start mid, notes = before ++ (Note.around .build plugin inner ++ later) ∧
      Records (call plugin.build) (call plugin.build.recorded) start inner (.ok ()) mid ∧
      ∀ other ∈ l, .ended .build other ∈ before := by
  induction l generalizing server notes with
  | nil =>
    cases h with
    | @cons _ _ _ mid _ inner more hrec hrest =>
      exact ⟨[], inner, more, server, mid, rfl, hrec, List.forall_mem_nil _⟩
  | cons first l ih =>
    cases h with
    | @cons _ _ _ _ _ firstInner more hrec hrest =>
      obtain ⟨before, inner, later, start, mid, rfl, hplugin, hended⟩ := ih hrest
      refine ⟨Note.around .build first firstInner ++ before, inner, later, start, mid,
        (List.append_assoc ..).symm, hplugin, List.forall_mem_cons.mpr ⟨?_, fun other hother => ?_⟩⟩
      · exact List.mem_append_left _ (List.mem_cons_of_mem _ List.mem_concat_self)
      · exact List.mem_append_right _ (hended other hother)

end BuiltInTurn

/-- How a server finishes that has built each plugin after those that it depends on. -/
structure BuiltInNeed (server after : Server S) (building readying : List (Note S)) : Prop where
  finishes : Records finish finish server (building ++ readying) (.ok ()) after
  /-- Each plugin that waited has its build, and nothing happens between builds. -/
  inTurn : ∃ plugins mid last, plugins.Perm server.pending ∧
    BuiltInTurn plugins server.begun building mid ∧
    Records readyAll readyAll mid readying (.ok ()) last
  /-- When its build begins, plugins have been built that bear the names of its dependencies; they
  are of these types if they bear no names of their own. -/
  met : ∀ plugin ∈ server.pending, ∃ before inner later start mid,
    building = before ++ (Note.around .build plugin inner ++ later) ∧
    Records (call plugin.build) (call plugin.build.recorded) start inner (.ok ()) mid ∧
    ∀ dependency ∈ plugin.info.dependencies, ∃ other ∈ server.pending,
      .ended .build other ∈ before ∧ other.info.name = dependency ∧
      (other.info.ownName = none → other.info.type = dependency)

theorem PluginInfo.type_eq_of_ownName {info : PluginInfo} (h : info.ownName = none) :
    info.type = info.name := by
  rw [name, h]
  rfl

/-- **Dependencies first.** A server that finishes has built each plugin that waited after those
that it depends on. -/
theorem exists_builtInNeed {server after : Server S} (hserver : server.Reached)
    (hfinish : exec finish server = (.ok (), after)) :
    ∃ building readying, BuiltInNeed server after building readying := by
  obtain ⟨hprogress, plugins, hsorted⟩ := exists_sorted_of_finish hfinish
  have hbuilt : server.built = [] := (hserver.fresh hprogress).built
  have hordered : Ordered server.pending plugins := by
    rw [hbuilt] at hsorted
    exact ordered_of_sorted hsorted
  have hrun := hfinish
  rw [exec_finish_of_ok hprogress hsorted] at hrun
  rcases hall : exec (buildAll plugins) server.begun with ⟨fault | ⟨⟩, mid⟩
  case error =>
    rw [exec_bind_of_error hall] at hrun
    cases hrun
  case ok =>
    obtain ⟨building, hinTurn, hrecBuild⟩ := BuiltInTurn.exists_of_buildAll hall rfl
    obtain ⟨readying, result, last, hrecReady, -⟩ := exists_readyAll mid
    rw [exec_bind_of_ok hall] at hrun
    cases result with
    | error fault =>
      rw [exec_bind_of_error hrecReady.plain] at hrun
      cases hrun
    | ok =>
      rw [exec_bind_of_ok hrecReady.plain, exec_modify] at hrun
      obtain rfl := (Prod.mk.inj hrun).2
      have hrest := hrecReady.bind (.finished _)
      rw [List.append_nil] at hrest
      refine ⟨building, readying, .finish hprogress hsorted (hrecBuild.bind hrest),
        ⟨plugins, mid, _, hordered.perm, hinTurn, hrecReady⟩, fun plugin hplugin => ?_⟩
      obtain ⟨l, r, hsplit⟩ := List.append_of_mem (hordered.perm.mem_iff.mpr hplugin)
      obtain ⟨before, inner, later, start, mid, hbuilding, hrec, hended⟩ :=
        BuiltInTurn.exists_split (hsplit ▸ hinTurn)
      refine ⟨before, inner, later, start, mid, hbuilding, hrec, fun dependency hdependency => ?_⟩
      obtain ⟨other, hother, hname⟩ := hordered.before l plugin r hsplit dependency hdependency
      have hpending : other ∈ server.pending :=
        hordered.perm.mem_iff.mp (hsplit ▸ List.mem_append_left _ hother)
      exact ⟨other, hpending, hended other hother, hname,
        fun hown => (PluginInfo.type_eq_of_ownName hown).trans hname⟩

def Plugin.hasty : Plugin Unit where
  info := .ofType "Hasty" []
  build := .addAll [.needing "Needy" ["Missing"]] .done
  ready := .done
  cleanup := .done

def Server.holding (plugins : List (Plugin Unit)) : Server Unit :=
  (exec (run (.addAll plugins .done)) (.start ())).2

theorem exists_builtInNeed_chained :
    (holding [.needing "B" ["A"], .needing "A" []]).Reached ∧
      (exec finish (holding [.needing "B" ["A"], .needing "A" []])).1 = .ok () ∧
      ∃ building readying, BuiltInNeed (holding [.needing "B" ["A"], .needing "A" []])
        (exec finish (holding [.needing "B" ["A"], .needing "A" []])).2 building readying :=
  ⟨.run _ (.start ()), rfl, exists_builtInNeed (.run _ (.start ())) (Prod.ext rfl rfl)⟩

/-- A plugin that is added during a build is built at once, though nothing that it depends on is
there; the server that finds such a plugin waiting refuses to finish. -/
theorem exists_built_without_dependency :
    (∃ after, exec finish ((holding [.hasty]).recorded []) = (.ok (), after) ∧
      Note.turns .build after.store.2 = [.hasty, .needing "Needy" ["Missing"]]) ∧
    (exec finish (holding [.needing "Needy" ["Missing"]])).1 =
      .error (.notAdded "Needy" "Missing") :=
  ⟨⟨_, rfl, rfl⟩, rfl⟩

end StagedFlow
