import Mathlib.Data.List.Sort
import StagedFlow.Proofs.Prerequisites

/-!
# Plugins in two layers

Where all plugins that depend on others depend on the same ones, and those depend on none, the order
in which plugins are built is the order of addition, but for the plugins without dependencies, which
come first.
-/

namespace StagedFlow

variable {S : Type}

/-- Plugins that depend on nothing, and plugins that depend on `needed` among these. -/
structure Layered (infos : List PluginInfo) (needed : List String) : Prop where
  dependencies : ∀ info ∈ infos, info.dependencies = [] ∨
    ∀ dependency, dependency ∈ info.dependencies ↔ dependency ∈ needed
  met : ∀ dependency ∈ needed, ∃ info ∈ infos, info.name = dependency
  bare : ∀ info ∈ infos, info.name ∈ needed → info.dependencies = []

namespace Layered

open PluginOrder Relation

variable {infos : List PluginInfo} {needed : List String}

theorem mem_needed (h : Layered infos needed) {info : PluginInfo} (hinfo : info ∈ infos)
    {dependency : String} (hdependency : dependency ∈ info.dependencies) :
    dependency ∈ needed := by
  rcases h.dependencies info hinfo with hnone | hsame
  · rw [hnone] at hdependency
    exact absurd hdependency List.not_mem_nil
  · exact (hsame dependency).mp hdependency

theorem bare_of_needs (h : Layered infos needed) {j i : Nat} (hneeds : Needs infos j i) :
    ∃ info, infos[j]? = some info ∧ info.dependencies = [] := by
  obtain ⟨info, hinfo, dependency, hdependency, hfind⟩ := hneeds
  obtain ⟨hlt, hname, -⟩ := List.findIdx?_eq_some_iff_getElem.mp hfind
  have hneeded := h.mem_needed (List.mem_of_getElem? hinfo) hdependency
  refine ⟨infos[j], List.getElem?_eq_getElem hlt, h.bare _ (List.getElem_mem hlt) ?_⟩
  rwa [beq_iff_eq.mp hname]

theorem acyclic (h : Layered infos needed) : ¬ ∃ c, TransGen (Needs infos) c c := by
  rintro ⟨c, hcycle⟩
  obtain ⟨b, hfirst, -⟩ := TransGen.head'_iff.mp hcycle
  obtain ⟨d, -, info, hinfo, dependency, hdependency, -⟩ := TransGen.tail'_iff.mp hcycle
  obtain ⟨info', hinfo', hnone⟩ := h.bare_of_needs hfirst
  obtain rfl := Option.some.inj (hinfo.symm.trans hinfo')
  rw [hnone] at hdependency
  exact List.not_mem_nil hdependency

theorem needs_iff (h : Layered infos needed) {i : Nat} {info : PluginInfo}
    (hinfo : infos[i]? = some info) (hsome : info.dependencies ≠ []) (k : Nat) :
    Needs infos k i ↔ ∃ dependency ∈ needed,
      (infos.findIdx? fun other => other.name == dependency) = some k := by
  have hsame := (h.dependencies info (List.mem_of_getElem? hinfo)).resolve_left hsome
  constructor
  · rintro ⟨info', hinfo', dependency, hdependency, hfind⟩
    obtain rfl := Option.some.inj (hinfo.symm.trans hinfo')
    exact ⟨dependency, (hsame dependency).mp hdependency, hfind⟩
  · rintro ⟨dependency, hdependency, hfind⟩
    exact ⟨info, hinfo, dependency, (hsame dependency).mpr hdependency, hfind⟩

def isBare (infos : List PluginInfo) (i : Nat) : Bool :=
  infos[i]?.any fun info => info.dependencies.isEmpty

theorem isBare_iff (infos : List PluginInfo) (i : Nat) :
    isBare infos i = true ↔ ∃ info, infos[i]? = some info ∧ info.dependencies = [] := by
  rw [isBare, Option.any_eq_true]
  simp only [List.isEmpty_iff]

/-- The plugins without dependencies come first; otherwise they stay in their places. -/
theorem order_eq (h : Layered infos needed) {order : List Nat} (horder : BuildOrder infos order) :
    order = (List.range infos.length).filter (isBare infos) ++
      (List.range infos.length).filter fun i => !isBare infos i := by
  obtain ⟨l, r, rfl, hl, hmem⟩ := horder.roots
  have hnodup : (l ++ r).Nodup := horder.perm.nodup_iff.mpr List.nodup_range
  have hrange : ∀ i, i ∈ l ++ r ↔ i < infos.length := fun i =>
    horder.perm.mem_iff.trans List.mem_range
  have hbare : ∀ i, i ∈ l ↔ isBare infos i = true := fun i =>
    (hmem i).trans (isBare_iff infos i).symm
  have hrest : ∀ i ∈ r, isBare infos i = false := fun i hi =>
    Bool.eq_false_iff.mpr fun hyes =>
      List.disjoint_of_nodup_append hnodup ((hbare i).mpr hyes) hi
  congr 1
  · refine List.Perm.eq_of_pairwise' hl (List.pairwise_lt_range.filter _) ?_
    refine (List.perm_ext_iff_of_nodup hnodup.of_append_left (List.nodup_range.filter _)).mpr ?_
    intro i
    rw [List.mem_filter, List.mem_range, hbare]
    refine ⟨fun hyes => ⟨?_, hyes⟩, And.right⟩
    exact (hrange i).mp (List.mem_append_left _ ((hbare i).mpr hyes))
  · have hr : r.Pairwise (· < ·) := by
      refine (List.pairwise_append.mp horder.alike).2.1.imp_of_mem fun {i j} hi hj hlt => ?_
      have hlayer : ∀ i ∈ r, ∀ k, Needs infos k i ↔ ∃ dependency ∈ needed,
          (infos.findIdx? fun other => other.name == dependency) = some k := by
        intro i hi
        have hlt := (hrange i).mp (List.mem_append_right _ hi)
        have hinfo : infos[i]? = some infos[i] := List.getElem?_eq_getElem hlt
        refine h.needs_iff hinfo fun hnone => ?_
        exact absurd ((isBare_iff infos i).mpr ⟨_, hinfo, hnone⟩) (by simp [hrest i hi])
      exact hlt fun k => (hlayer i hi k).trans (hlayer j hj k).symm
    refine List.Perm.eq_of_pairwise' hr (List.pairwise_lt_range.filter _) ?_
    refine (List.perm_ext_iff_of_nodup hnodup.of_append_right (List.nodup_range.filter _)).mpr ?_
    intro i
    rw [List.mem_filter, List.mem_range, Bool.not_eq_true']
    constructor
    · exact fun hi => ⟨(hrange i).mp (List.mem_append_right _ hi), hrest i hi⟩
    · rintro ⟨hlt, hno⟩
      rcases List.mem_append.mp ((hrange i).mpr hlt) with hi | hi
      · exact absurd ((hbare i).mp hi) (by simp [hno])
      · exact hi

end Layered

/-- Plugins in two layers are built in the order of addition, those without dependencies first. -/
theorem sorted_of_layered {plugins : List (Plugin S)} {needed : List String}
    (h : Layered (plugins.map Plugin.info) needed) :
    Server.sorted [] plugins =
      .ok (plugins.filter (fun plugin => plugin.info.dependencies.isEmpty) ++
        plugins.filter fun plugin => !plugin.info.dependencies.isEmpty) := by
  have hmet : PluginOrder.Met (plugins.map Plugin.info) := fun info hinfo dependency hdependency =>
    h.met dependency (h.mem_needed hinfo hdependency)
  obtain ⟨order, hsort, horder⟩ := PluginOrder.exists_sort_eq_ok [] hmet h.acyclic
  have hpart : ∀ test : Bool → Bool,
      ((List.range plugins.length).filter fun i =>
          test (Layered.isBare (plugins.map Plugin.info) i)).filterMap (fun i => plugins[i]?) =
        plugins.filter fun plugin => test plugin.info.dependencies.isEmpty := by
    intro test
    conv_rhs => rw [← PluginOrder.filterMap_range_getElem? plugins]
    rw [List.filterMap_filter, List.filter_filterMap]
    refine List.filterMap_congr fun i hi => ?_
    obtain ⟨plugin, hget⟩ : ∃ plugin, plugins[i]? = some plugin :=
      ⟨_, List.getElem?_eq_getElem (List.mem_range.mp hi)⟩
    have hbare : Layered.isBare (plugins.map Plugin.info) i = plugin.info.dependencies.isEmpty := by
      rw [Layered.isBare, List.getElem?_map, hget]
      rfl
    rw [hbare, hget, Option.filter_some]
  rw [Server.sorted, List.map_nil, hsort, h.order_eq horder, List.length_map]
  refine congrArg Except.ok ((List.filterMap_append ..).trans ?_)
  exact congr (congrArg _ (hpart id)) (hpart not)

end StagedFlow
