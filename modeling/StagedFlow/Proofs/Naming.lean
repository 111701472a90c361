import StagedFlow.Proofs.Prerequisites
import StagedFlow.Proofs.Renaming

/-!
# Names that stand for plugins

A dependency is a type of plugins, and it is looked up among the names that plugins report. So a
server refuses to finish for a missing dependency exactly if no plugin bears its name, whatever the
types of the plugins are. As long as names do not mislead, that is, a plugin bears the name of a
type that others depend on exactly if it is of this type, this comes to the same as looking for the
type, and servers whose plugins differ in names only build them in the same order.
-/

namespace StagedFlow

variable {S : Type}

open ServerM Server

theorem Ends.mapM {α β α' β' : Type} {rel : α' → β' → Prop} {f : α → Except ServerFault α'}
    {g : β → Except ServerFault β'} {items : List α} {others : List β}
    (h : List.Forall₂ (fun a b => Ends rel (f a) (g b)) items others) :
    Ends (List.Forall₂ rel) (items.mapM f) (others.mapM g) := by
  induction h with
  | nil => exact .ok .nil
  | @cons a b rest rest' hfirst _ ih =>
    rw [List.mapM_cons, List.mapM_cons]
    generalize f a = result at hfirst
    generalize g b = result' at hfirst
    generalize rest.mapM f = results at ih
    generalize rest'.mapM g = results' at ih
    cases hfirst with
    | error fault fault' => exact .error fault fault'
    | ok hfirst =>
      cases ih with
      | error fault fault' => exact .error fault fault'
      | ok hrest => exact .ok (.cons hfirst hrest)

namespace PluginOrder

variable {infos others : List PluginInfo}

def Missing (infos : List PluginInfo) : Prop :=
  ∃ info ∈ infos, ∃ dependency ∈ info.dependencies, ∀ other ∈ infos, other.name ≠ dependency

theorem missing_iff : Missing infos ↔ ¬ Met infos := by
  simp only [Missing, Met, not_forall, not_exists, not_and, ne_eq, exists_prop]

/-- Where no plugin is built yet, a search for what a plugin waits for can only miss a
dependency. -/
theorem exists_of_targets_eq_error {plugin : PluginInfo} {dependencies : List String}
    {fault : ServerFault} (h : targets [] infos plugin dependencies = .error fault) :
    ∃ dependency, fault = .notAdded plugin.name dependency := by
  induction dependencies with
  | nil => cases h
  | cons first rest ih =>
    rw [targets] at h
    cases hfind : infos.findIdx? fun info => info.name == first with
    | none =>
      rw [hfind] at h
      exact ⟨first, (Except.error.inj h).symm⟩
    | some i =>
      rw [hfind] at h
      cases hrest : targets [] infos plugin rest with
      | ok found =>
        rw [hrest] at h
        cases h
      | error other =>
        rw [hrest] at h
        exact ih (hrest.trans (congrArg Except.error (Except.error.inj h)))

/-- Where no plugin is built yet, plugins are refused for a dependency exactly if one is missing. -/
theorem sort_eq_notAdded_iff :
    (∃ plugin dependency, sort [] infos = .error (.notAdded plugin dependency)) ↔
      Missing infos := by
  rw [missing_iff]
  constructor
  · rintro ⟨plugin, dependency, hsort⟩ hmet
    by_cases hcycle : ∃ c, Relation.TransGen (Needs infos) c c
    · obtain ⟨left, -, -, hcircular⟩ := exists_sort_eq_circular [] hmet hcycle
      rw [hcircular] at hsort
      cases hsort
    · obtain ⟨order, horder, -⟩ := exists_sort_eq_ok [] hmet hcycle
      rw [horder] at hsort
      cases hsort
  · intro hmissing
    cases hwaits : waits [] infos with
    | ok w => exact absurd (met_of_waits_eq_ok hwaits) hmissing
    | error fault =>
      obtain ⟨plugin, -, htargets⟩ := (mapM_eq_error_iff _ _ _).mp hwaits
      obtain ⟨dependency, rfl⟩ := exists_of_targets_eq_error htargets
      exact ⟨plugin.name, dependency, by rw [sort, hwaits]; rfl⟩

/-- A plugin bears the name of a dependency exactly if it is of that type. -/
def Truthful (infos : List PluginInfo) : Prop :=
  ∀ info ∈ infos, ∀ dependency ∈ info.dependencies, ∀ other ∈ infos,
    other.name = dependency ↔ other.type = dependency

theorem Truthful.missing_iff (h : Truthful infos) :
    Missing infos ↔ ∃ info ∈ infos, ∃ dependency ∈ info.dependencies,
      ∀ other ∈ infos, other.type ≠ dependency := by
  refine exists_congr fun info => and_congr_right fun hinfo => exists_congr fun dependency =>
    and_congr_right fun hdependency => forall₂_congr fun other hother => ?_
  rw [ne_eq, ne_eq, h info hinfo dependency hdependency other hother]

/-- A dependency is found at the same place under names that do not mislead. -/
theorem findIdx?_name_eq (halike : List.Forall₂ PluginInfo.Alike infos others)
    {dependency : String} (h : ∀ info ∈ infos, info.name = dependency ↔ info.type = dependency)
    (h' : ∀ info ∈ others, info.name = dependency ↔ info.type = dependency) :
    (infos.findIdx? fun info => info.name == dependency) =
      others.findIdx? fun info => info.name == dependency := by
  induction halike with
  | nil => rfl
  | @cons a b _ _ hfirst _ ih =>
    obtain ⟨ha, h⟩ := List.forall_mem_cons.mp h
    obtain ⟨hb, h'⟩ := List.forall_mem_cons.mp h'
    have hsame : (a.name == dependency) = (b.name == dependency) := by
      rw [Bool.eq_iff_iff, beq_iff_eq, beq_iff_eq, ha, hb, hfirst.type]
    rw [List.findIdx?_cons, List.findIdx?_cons, hsame, ih h h']

theorem targets_ends {dependencies : List String}
    (h : ∀ dependency ∈ dependencies,
      (infos.findIdx? fun info => info.name == dependency) =
        others.findIdx? fun info => info.name == dependency) (plugin other : PluginInfo) :
    Ends Eq (targets [] infos plugin dependencies) (targets [] others other dependencies) := by
  induction dependencies with
  | nil => exact .ok rfl
  | cons first rest ih =>
    obtain ⟨hfirst, hrest⟩ := List.forall_mem_cons.mp h
    rw [targets, targets, ← hfirst]
    cases infos.findIdx? fun info => info.name == first with
    | none => exact .error _ _
    | some i => exact (ih hrest).map fun _ _ heq => congrArg _ heq

/-- Plugins that differ in names only are put in the same order, or neither are. -/
theorem sort_ends (halike : List.Forall₂ PluginInfo.Alike infos others) (h : Truthful infos)
    (h' : Truthful others) : Ends Eq (sort [] infos) (sort [] others) := by
  have hwaits : Ends (List.Forall₂ Eq) (waits [] infos) (waits [] others) := by
    refine .mapM (List.forall₂_iff_get.mpr ⟨halike.length_eq, fun i hi hi' => ?_⟩)
    have hinfo := (List.forall₂_iff_get.mp halike).2 i hi hi'
    rw [hinfo.dependencies]
    refine targets_ends (fun dependency hdependency => findIdx?_name_eq halike ?_ ?_) _ _
    · exact h _ (List.get_mem infos ⟨i, hi⟩) dependency (hinfo.dependencies ▸ hdependency)
    · exact h' _ (List.get_mem others ⟨i, hi'⟩) dependency hdependency
  rw [sort, sort]
  generalize waits [] infos = found at hwaits
  generalize waits [] others = found' at hwaits
  cases hwaits with
  | error fault fault' => exact .error fault fault'
  | ok heq =>
    obtain rfl := List.forall₂_eq_eq_eq ▸ heq
    simp only [bind, Except.bind]
    cases settle _ with
    | none => exact .error _ _
    | some s =>
      by_cases hlength : s.placed.length = infos.length
      · simp only [hlength, halike.length_eq, if_true]
        exact .ok rfl
      · simp only [hlength, halike.length_eq ▸ hlength, if_false]
        exact .error _ _

end PluginOrder

theorem forall₂_filterMap_getElem? {α β : Type} {rel : α → β → Prop} {items : List α}
    {others : List β} (h : List.Forall₂ rel items others) (order : List Nat) :
    List.Forall₂ rel (order.filterMap fun i => items[i]?)
      (order.filterMap fun i => others[i]?) := by
  induction order with
  | nil => exact .nil
  | cons i rest ih =>
    by_cases hi : i < items.length
    · have hi' : i < others.length := h.length_eq ▸ hi
      rw [List.filterMap_cons_some (List.getElem?_eq_getElem hi),
        List.filterMap_cons_some (List.getElem?_eq_getElem hi')]
      exact .cons ((List.forall₂_iff_get.mp h).2 i hi hi') ih
    · rw [List.filterMap_cons_none (List.getElem?_eq_none (Nat.le_of_not_lt hi)),
        List.filterMap_cons_none (List.getElem?_eq_none (h.length_eq ▸ Nat.le_of_not_lt hi))]
      exact ih

open PluginOrder

/-! ### Servers -/

/-- A server on which no plugin is built yet either finishes or fails. -/
theorem exists_records_finish {server : Server S} (hfresh : server.Fresh) :
    ∃ notes result after, Records finish finish server notes result after := by
  cases hsorted : sorted server.built server.pending with
  | error fault => exact ⟨[], _, _, .finish_error hfresh.progress hsorted⟩
  | ok plugins =>
    obtain ⟨building, readying, result, after, hrec, -⟩ := exists_finish hfresh hsorted
    exact ⟨building ++ readying, result, after, hrec⟩

/-- A plugin is found to be missing if and only if finishing stops there, before all builds. -/
theorem records_notAdded_iff {server : Server S} (hfresh : server.Fresh) :
    (∃ plugin dependency last,
      Records finish finish server [] (.error (.notAdded plugin dependency)) last) ↔
        Missing (server.pending.map Plugin.info) := by
  rw [← sort_eq_notAdded_iff]
  have hsorted : sorted server.built server.pending =
      (sort [] (server.pending.map Plugin.info)).map fun order =>
        order.filterMap fun i => server.pending[i]? := by
    rw [hfresh.built]
    rfl
  refine exists₂_congr fun plugin dependency => ⟨?_, fun hsort => ?_⟩
  · rintro ⟨last, hrec⟩
    cases hsort : sort [] (server.pending.map Plugin.info) with
    | error fault =>
      rw [hsort] at hsorted
      obtain ⟨-, heq, -⟩ := hrec.unique (.finish_error hfresh.progress hsorted)
      exact congrArg Except.error (Except.error.inj heq).symm
    | ok order =>
      rw [hsort] at hsorted
      obtain ⟨building, readying, result, after, hrec', hfin⟩ := exists_finish hfresh hsorted
      obtain ⟨hnotes, rfl, -⟩ := hrec.unique hrec'
      exact absurd hnotes.symm (hfin.begun nofun)
  · rw [hsort] at hsorted
    exact ⟨_, .finish_error hfresh.progress hsorted⟩

namespace Server.Alike

variable {server other : Server S}

theorem fresh (h : server.Alike Eq other) (hfresh : server.Fresh) : other.Fresh where
  progress := h.progress ▸ hfresh.progress
  built := List.forall₂_nil_left_iff.mp (hfresh.built ▸ h.built)

/-- Under names that do not mislead, plugins that wait are put in the same order. -/
theorem sorted_ends (h : server.Alike Eq other) (hfresh : server.Fresh)
    (htruth : Truthful (server.pending.map Plugin.info))
    (htruth' : Truthful (other.pending.map Plugin.info)) :
    Ends (List.Forall₂ (Plugin.Alike Eq)) (sorted server.built server.pending)
      (sorted other.built other.pending) := by
  have hinfos : List.Forall₂ PluginInfo.Alike (server.pending.map Plugin.info)
      (other.pending.map Plugin.info) := List.rel_map (fun _ _ h => h.info) h.pending
  rw [hfresh.built, (h.fresh hfresh).built, sorted, sorted]
  exact (sort_ends hinfos htruth htruth').map fun order _ heq =>
    heq ▸ forall₂_filterMap_getElem? h.pending order

end Server.Alike

/-- How the names of plugins decide whether a server finishes, and in what order it builds them. -/
structure GoesByName (server : Server S) : Prop where
  /-- A dependency is missing exactly if no plugin bears its name. -/
  refused_iff : (∃ plugin dependency last,
      Records finish finish server [] (.error (.notAdded plugin dependency)) last) ↔
    ∃ plugin ∈ server.pending, ∃ dependency ∈ plugin.info.dependencies,
      ∀ other ∈ server.pending, other.info.name ≠ dependency
  /-- If names do not mislead, this is so exactly if no plugin is of the type. -/
  refused_iff_type : Truthful (server.pending.map Plugin.info) →
    ((∃ plugin dependency last,
      Records finish finish server [] (.error (.notAdded plugin dependency)) last) ↔
    ∃ plugin ∈ server.pending, ∃ dependency ∈ plugin.info.dependencies,
      ∀ other ∈ server.pending, other.info.type ≠ dependency)
  /-- Then a server that differs in names only, which do not mislead either, builds its plugins in
  the same order, makes them ready in the same order, and ends in the same way. -/
  order : Truthful (server.pending.map Plugin.info) → ∀ other : Server S, server.Alike Eq other →
    Truthful (other.pending.map Plugin.info) →
    ∃ notes notes' result result' after after',
      Records finish finish server notes result after ∧
      Records finish finish other notes' result' after' ∧
      List.Forall₂ (Note.Alike Eq) notes notes' ∧
      Ends (fun _ _ => True) result result' ∧ after.Alike Eq after'

/-- **Dependencies go by name.** A server refuses to finish for a dependency that was not added if
and only if no plugin that was added bears its name. The same can be said of the types of plugins
under names that do not mislead, and under such names plugins are built in an order that does not
depend on the names. -/
theorem goesByName_of_fresh {server : Server S} (hfresh : server.Fresh) : GoesByName server where
  refused_iff := by
    rw [records_notAdded_iff hfresh, Missing]
    simp only [List.mem_map, exists_exists_and_eq_and, forall_exists_index, and_imp,
      forall_apply_eq_imp_iff₂]
  refused_iff_type htruth := by
    rw [records_notAdded_iff hfresh, htruth.missing_iff]
    simp only [List.mem_map, exists_exists_and_eq_and, forall_exists_index, and_imp,
      forall_apply_eq_imp_iff₂]
  order htruth other halike htruth' := by
    obtain ⟨notes, result, after, hrec⟩ := exists_records_finish hfresh
    obtain ⟨notes', result', after', hrec'⟩ := exists_records_finish (halike.fresh hfresh)
    have hsorted := halike.sorted_ends hfresh htruth htruth'
    -- once for how the servers end, and once for the turns, which only recorded runs tell
    have hplain := finish_together halike hfresh.progress hsorted
    have hsorted' : Ends (List.Forall₂ (Plugin.Alike (Noted Eq)))
        (sorted (server.recorded []).built (server.recorded []).pending)
        (sorted (other.recorded []).built (other.recorded []).pending) := by
      rw [Server.recorded, Server.recorded, sorted_recorded, sorted_recorded]
      exact hsorted.map fun _ _ h => List.rel_map (fun _ _ h => h.recorded) h
    have hnoted := finish_together halike.recorded hfresh.progress hsorted'
    rw [hrec.plain, hrec'.plain] at hplain
    rw [hrec.recorded, hrec'.recorded] at hnoted
    exact ⟨notes, notes', result, result', after, after', hrec, hrec', hnoted.server.store.notes,
      hplain.result, hplain.server⟩

def Plugin.bearing (ownName : Option String) (type : String) (dependencies : List String) :
    Plugin Unit :=
  ⟨⟨type, ownName, true, dependencies⟩, .done, .done, .done⟩

/-- A server whose plugins report a name that nobody depends on, and one that differs from it in
this name. -/
theorem goesByName_of_fresh_custom :
    (holding [.bearing (some "Custom") "B" ["A"], .needing "A" []]).Fresh ∧
      Truthful ((holding [.bearing (some "Custom") "B" ["A"], .needing "A" []]).pending.map
        Plugin.info) ∧
      (holding [.bearing (some "Custom") "B" ["A"], .needing "A" []]).Alike Eq
        (holding [.needing "B" ["A"], .needing "A" []]) ∧
      Truthful ((holding [.needing "B" ["A"], .needing "A" []]).pending.map Plugin.info) ∧
      GoesByName (holding [.bearing (some "Custom") "B" ["A"], .needing "A" []]) := by
  refine ⟨⟨rfl, rfl⟩, by unfold Truthful; decide, ⟨rfl, rfl, ?_, .nil, rfl⟩,
    by unfold Truthful; decide, goesByName_of_fresh ⟨rfl, rfl⟩⟩
  have halike : ∀ {plugin other : PluginInfo}, plugin.Alike other →
      Plugin.Alike Eq (⟨plugin, .done, .done, .done⟩ : Plugin Unit) ⟨other, .done, .done, .done⟩ :=
    fun h => ⟨h, .done, .done, .done⟩
  exact .cons (halike ⟨rfl, rfl, rfl⟩) (.cons (halike ⟨rfl, rfl, rfl⟩) .nil)

def Plugin.crossed (ownName : Option String) : List (Plugin Unit) :=
  [.needing "C" ["B"], .needing "E" ["F"], .bearing ownName "A" [], .needing "F" [],
    .needing "B" []]

def builtTypes (plugins : List (Plugin Unit)) : List String :=
  (Note.turns .build (exec finish ((holding plugins).recorded [])).2.store.2).map
    fun plugin => plugin.info.type

/-- Names mislead: a plugin that was added under a name of its own is refused as missing, one that
was not added is not missed if another one bears its name, and a name alone changes the order. -/
theorem names_mislead :
    (exec finish (holding [.bearing (some "Custom") "A" [], .needing "B" ["A"]])).1 =
        .error (.notAdded "B" "A") ∧
      (exec finish (holding [.bearing (some "A") "X" [], .needing "B" ["A"]])).1 = .ok () ∧
      builtTypes (Plugin.crossed none) = ["A", "F", "B", "E", "C"] ∧
      builtTypes (Plugin.crossed (some "B")) = ["A", "F", "B", "C", "E"] :=
  ⟨rfl, rfl, by decide +kernel, by decide +kernel⟩

end StagedFlow
