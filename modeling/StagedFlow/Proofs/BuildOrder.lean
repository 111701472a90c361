import Mathlib.Logic.Relation
import Mathlib.Order.WellFounded
import Mathlib.Data.Fintype.EquivFin
import StagedFlow.Proofs.Checks
import StagedFlow.Proofs.Placing

/-!
# The order of plugins and their cycles

Plugins that need one another make a graph. Placing them ends with all of them placed if the graph
has no cycle; else those stay behind that lie on a cycle or come after one, and no others.
-/

namespace StagedFlow.PluginOrder

open Relation

/-- A node that lies on a cycle of a graph, or that a cycle leads to. -/
def Stuck (edge : Nat → Nat → Prop) (i : Nat) : Prop :=
  ∃ c, TransGen edge c c ∧ ReflTransGen edge c i

theorem Stuck.tail {edge : Nat → Nat → Prop} {j i : Nat} (h : Stuck edge j) (hedge : edge j i) :
    Stuck edge i := by
  obtain ⟨c, hcycle, hreach⟩ := h
  exact ⟨c, hcycle, hreach.tail hedge⟩

/-- Among nodes below a bound of which each has a predecessor among them, a cycle leads to each. -/
theorem stuck_of_exists_pred {edge : Nat → Nat → Prop} {nodes : Nat → Prop} {bound : Nat}
    (hbound : ∀ i, nodes i → i < bound) (hpred : ∀ i, nodes i → ∃ j, nodes j ∧ edge j i) {i : Nat}
    (hi : nodes i) : Stuck edge i := by
  by_contra hfree
  -- Where no cycle leads to, the graph is well-founded, and a least node has no predecessor.
  let free := {i // nodes i ∧ ¬ Stuck edge i}
  let leads (a b : free) : Prop := TransGen edge a.1 b.1
  have : Finite free :=
    .of_injective (fun a : free => (⟨a.1, hbound a.1 a.2.1⟩ : Fin bound)) fun a b heq =>
      Subtype.ext (Fin.mk.inj heq)
  have : IsTrans free leads := ⟨fun _ _ _ hab hbc => hab.trans hbc⟩
  have : Std.Irrefl leads := ⟨fun a ha => a.2.2 ⟨a.1, ha, .refl⟩⟩
  have hwf : WellFounded leads := Finite.wellFounded_of_trans_of_irrefl leads
  refine hwf.induction (C := fun _ => False) ⟨i, hi, hfree⟩ fun a ih => ?_
  obtain ⟨j, hj, hedge⟩ := hpred a.1 a.2.1
  exact ih ⟨j, hj, fun hstuck => a.2.2 (hstuck.tail hedge)⟩ (.single hedge)

namespace Placing.Sound

variable {waits : List (List Nat)} {s : Placing}

abbrev Edge (waits : List (List Nat)) (j i : Nat) : Prop := j ∈ waitsAt waits i

theorem mem_placed_of_reflTransGen (hs : s.Sound waits) {j i : Nat} (hi : i ∈ s.placed)
    (h : ReflTransGen (Edge waits) j i) : j ∈ s.placed := by
  induction h using ReflTransGen.head_induction_on with
  | refl => exact hi
  | head hedge _ ih => exact ((hs.mem_iff _).mp (List.mem_append_left _ ih)).2 _ hedge

theorem idxOf_lt (hs : s.Sound waits) {j i : Nat} (hi : i ∈ s.placed) (hedge : Edge waits j i) :
    s.placed.idxOf j < s.placed.idxOf i := by
  have hnodup : s.placed.Nodup := hs.nodup.of_append_left
  obtain ⟨l, r, hsplit⟩ := List.append_of_mem hi
  have hj := hs.before l i r hsplit j hedge
  rw [hsplit] at hnodup ⊢
  have hi' : i ∉ l := fun hmem =>
    List.disjoint_of_nodup_append hnodup hmem List.mem_cons_self
  rw [List.idxOf_append_of_mem hj, List.idxOf_append_of_notMem hi']
  exact Nat.lt_of_lt_of_le (List.idxOf_lt_length_of_mem hj) (Nat.le_add_right _ _)

theorem idxOf_lt_of_transGen (hs : s.Sound waits) {j i : Nat} (hi : i ∈ s.placed)
    (h : TransGen (Edge waits) j i) : s.placed.idxOf j < s.placed.idxOf i := by
  induction h using TransGen.head_induction_on with
  | single hedge => exact hs.idxOf_lt hi hedge
  | head hedge hrest ih =>
    exact (hs.idxOf_lt (hs.mem_placed_of_reflTransGen hi hrest.to_reflTransGen) hedge).trans ih

/-- When the queue is empty, exactly those are not placed that a cycle leads to. -/
theorem notMem_placed_iff (hs : s.Sound waits) (hqueue : s.queue = [])
    (hclosed : ∀ i, ∀ j ∈ waitsAt waits i, j < waits.length) {i : Nat} (hi : i < waits.length) :
    i ∉ s.placed ↔ Stuck (Edge waits) i := by
  constructor
  · intro hplaced
    have hpred : ∀ i, i < waits.length ∧ i ∉ s.placed →
        ∃ j, (j < waits.length ∧ j ∉ s.placed) ∧ Edge waits j i := by
      rintro i ⟨hi, hplaced⟩
      by_contra hnone
      have hwaits : ∀ j ∈ waitsAt waits i, j ∈ s.placed := fun j hj => by
        by_contra hnot
        exact hnone ⟨j, ⟨hclosed i j hj, hnot⟩, hj⟩
      exact hplaced (by simpa [hqueue] using (hs.mem_iff i).mpr ⟨hi, hwaits⟩)
    exact stuck_of_exists_pred (fun i hi => hi.1) hpred ⟨hi, hplaced⟩
  · rintro ⟨c, hcycle, hreach⟩ hplaced
    have hc := hs.mem_placed_of_reflTransGen hplaced hreach
    exact Nat.lt_irrefl _ (hs.idxOf_lt_of_transGen hc hcycle)

end Placing.Sound

/-! ### Plugins that need one another -/

/-- The plugin at `j` is the first one that bears the name of a dependency of the plugin at `i`. -/
def Needs (infos : List PluginInfo) (j i : Nat) : Prop :=
  ∃ info, infos[i]? = some info ∧ ∃ dependency ∈ info.dependencies,
    (infos.findIdx? fun other => other.name == dependency) = some j

def Met (infos : List PluginInfo) : Prop :=
  ∀ info ∈ infos, ∀ dependency ∈ info.dependencies, ∃ other ∈ infos, other.name = dependency

structure BuildOrder (infos : List PluginInfo) (order : List Nat) : Prop where
  /-- Each plugin has one place. -/
  perm : order.Perm (List.range infos.length)
  /-- What a plugin needs comes before it. -/
  before : ∀ l i r, order = l ++ i :: r → ∀ j, Needs infos j i → j ∈ l
  /-- Plugins without dependencies come first, in their order. -/
  roots : ∃ l r, order = l ++ r ∧ l.Pairwise (· < ·) ∧
    ∀ i, i ∈ l ↔ ∃ info, infos[i]? = some info ∧ info.dependencies = []
  /-- Plugins that need the same plugins stay in their order. -/
  alike : order.Pairwise fun i j => (∀ k, Needs infos k i ↔ Needs infos k j) → i < j

variable (built : List String) {infos : List PluginInfo}

/-- Where every dependency names a plugin, each is waited for. -/
theorem exists_targets_eq (plugin : PluginInfo) {dependencies : List String}
    (hmet : ∀ dependency ∈ dependencies, ∃ other ∈ infos, other.name = dependency) :
    ∃ found, targets built infos plugin dependencies = .ok found ∧
      (∀ j, j ∈ found ↔ ∃ dependency ∈ dependencies,
        (infos.findIdx? fun other => other.name == dependency) = some j) ∧
      (found = [] ↔ dependencies = []) := by
  induction dependencies with
  | nil => exact ⟨[], rfl, by simp, by simp⟩
  | cons dependency rest ih =>
    obtain ⟨found, hrest, hmem, -⟩ := ih fun d hd => hmet d (List.mem_cons_of_mem _ hd)
    obtain ⟨other, hother, hname⟩ := hmet dependency List.mem_cons_self
    have hsome : (infos.findIdx? fun other => other.name == dependency).isSome := by
      rw [List.findIdx?_isSome, List.any_eq_true]
      exact ⟨other, hother, beq_iff_eq.mpr hname⟩
    obtain ⟨i, hi⟩ := Option.isSome_iff_exists.mp hsome
    refine ⟨i :: found, by rw [targets, hi, hrest]; rfl, fun j => ?_, by simp⟩
    rw [List.mem_cons, hmem, List.exists_mem_cons_iff, hi, Option.some.injEq, eq_comm]

theorem exists_waits_eq (hmet : Met infos) :
    ∃ w, waits built infos = .ok w ∧ w.length = infos.length ∧
      (∀ i j, j ∈ waitsAt w i ↔ Needs infos j i) ∧
      ∀ i info, infos[i]? = some info → (waitsAt w i = [] ↔ info.dependencies = []) := by
  obtain ⟨w, hw⟩ := exists_mapM_eq_ok (f := fun plugin : PluginInfo =>
      targets built infos plugin plugin.dependencies) fun info hinfo =>
    (exists_targets_eq built info (hmet info hinfo)).imp fun _ h => h.1
  have hlength : w.length = infos.length := hw.length_eq.symm
  have hat : ∀ i info, infos[i]? = some info →
      (∀ j, j ∈ waitsAt w i ↔ ∃ dependency ∈ info.dependencies,
        (infos.findIdx? fun other => other.name == dependency) = some j) ∧
      (waitsAt w i = [] ↔ info.dependencies = []) := by
    intro i info hinfo
    obtain ⟨hlt, hget⟩ := List.getElem?_eq_some_iff.mp hinfo
    have hlt' : i < w.length := hlength ▸ hlt
    obtain ⟨found, htargets, hmem, hnil⟩ := exists_targets_eq built info
      (hmet info (List.mem_of_getElem? hinfo))
    have hwi := (List.forall₂_iff_get.mp hw).2 i hlt hlt'
    rw [List.get_eq_getElem, List.get_eq_getElem, hget, htargets] at hwi
    have hfound : waitsAt w i = found := by
      rw [waitsAt, List.getD_eq_getElem?_getD, List.getElem?_eq_getElem hlt', Option.getD_some,
        Except.ok.inj hwi]
    rw [hfound]
    exact ⟨hmem, hnil⟩
  refine ⟨w, (mapM_eq_ok_iff _ _ _).mpr hw, hlength, fun i j => ?_,
    fun i info h => (hat i info h).2⟩
  constructor
  · intro hj
    have hlt : i < infos.length := hlength ▸ lt_length_of_mem_waitsAt hj
    have hinfo : infos[i]? = some infos[i] := List.getElem?_eq_getElem hlt
    exact ⟨infos[i], hinfo, ((hat i _ hinfo).1 j).mp hj⟩
  · rintro ⟨info, hinfo, hdependency⟩
    exact ((hat i info hinfo).1 j).mpr hdependency

theorem Needs.lt_length {i j : Nat} (h : Needs infos j i) : j < infos.length := by
  obtain ⟨-, -, dependency, -, hfound⟩ := h
  obtain ⟨hlt, -⟩ := List.findIdx?_eq_some_iff_getElem.mp hfound
  exact hlt

theorem Needs.left_lt_length {i j : Nat} (h : Needs infos j i) : i < infos.length := by
  obtain ⟨_, hinfo, _⟩ := h
  exact (List.getElem?_eq_some_iff.mp hinfo).1

/-- How placing ends: all are placed that no cycle leads to, in a right order, and the others are
stuck. -/
structure Settled (infos : List PluginInfo) (s : Placing) : Prop where
  nodup : s.placed.Nodup
  mem_placed : ∀ i, i ∈ s.placed ↔ i < infos.length ∧ ¬ Stuck (Needs infos) i
  mem_stuck : ∀ i, i ∈ stuck s ↔ i < infos.length ∧ Stuck (Needs infos) i
  before : ∀ l i r, s.placed = l ++ i :: r → ∀ j, Needs infos j i → j ∈ l
  roots : ∃ l r, s.placed = l ++ r ∧ l.Pairwise (· < ·) ∧
    ∀ i, i ∈ l ↔ ∃ info, infos[i]? = some info ∧ info.dependencies = []
  alike : s.placed.Pairwise fun i j => (∀ k, Needs infos k i ↔ Needs infos k j) → i < j

/-- Plugins whose counters are still up are those that are not placed. -/
theorem Placing.Sound.mem_stuck_iff {waits : List (List Nat)} {s : Placing} (hs : s.Sound waits)
    (hqueue : s.queue = []) (i : Nat) : i ∈ stuck s ↔ i < waits.length ∧ i ∉ s.placed := by
  have hlength : s.unmet.length = waits.length := by rw [hs.unmet_eq]; simp
  rw [stuck, List.mem_filter, List.mem_range, hlength, decide_eq_true_eq]
  refine and_congr_right fun hlt => ?_
  have hget : s.unmet.getD i 0 = unmetFor waits s.placed i := by
    rw [List.getD_eq_getElem?_getD, hs.unmet_eq, List.getElem?_map, List.getElem?_range hlt]
    rfl
  have hplaced := hs.mem_iff i
  rw [hqueue, List.append_nil, ← unmetFor_eq_zero_iff] at hplaced
  rw [hget, Nat.pos_iff_ne_zero, hplaced]
  exact ⟨fun hne h => hne h.2, fun hnot h => hnot ⟨hlt, h⟩⟩

theorem exists_settled (hmet : Met infos) :
    ∃ w s, waits built infos = .ok w ∧ settle w = some s ∧ Settled infos s := by
  obtain ⟨w, hwaits, hlength, hneeds, hnil⟩ := exists_waits_eq built hmet
  obtain ⟨s, hsettle, hs, hqueue, -⟩ := exists_settle w
  have hedge : Placing.Sound.Edge w = Needs infos :=
    funext fun j => funext fun i => propext (hneeds i j)
  have hclosed : ∀ i, ∀ j ∈ waitsAt w i, j < w.length := fun i j hj =>
    hlength ▸ ((hneeds i j).mp hj).lt_length
  have hplaced : ∀ i, i < infos.length → (i ∉ s.placed ↔ Stuck (Needs infos) i) := fun i hi =>
    hedge ▸ hs.notMem_placed_iff hqueue hclosed (hlength.symm ▸ hi)
  have hturn := hs.mem_iff
  have hnodup := hs.nodup
  have hroots := hs.roots
  have halike := hs.alike
  rw [hqueue, List.append_nil] at hturn hnodup hroots halike
  refine ⟨w, s, hwaits, hsettle, ?_⟩
  constructor
  case nodup => exact hnodup
  case mem_placed =>
    intro i
    constructor
    · intro hi
      have hlt : i < infos.length := hlength ▸ ((hturn i).mp hi).1
      exact ⟨hlt, fun hstuck => (hplaced i hlt).mpr hstuck hi⟩
    · rintro ⟨hlt, hfree⟩
      by_contra hi
      exact hfree ((hplaced i hlt).mp hi)
  case mem_stuck =>
    intro i
    rw [hs.mem_stuck_iff hqueue, hlength]
    exact and_congr_right (hplaced i)
  case before => exact fun l i r hsplit j hj => hs.before l i r hsplit j ((hneeds i j).mpr hj)
  case roots =>
    obtain ⟨r, hr⟩ := hroots
    refine ⟨(Placing.start w).queue, r, hr.symm, List.pairwise_lt_range.filter _, fun i => ?_⟩
    rw [Placing.start, List.mem_filter, List.mem_range, List.isEmpty_iff, hlength]
    constructor
    · rintro ⟨hlt, hempty⟩
      have hinfo : infos[i]? = some infos[i] := List.getElem?_eq_getElem hlt
      exact ⟨infos[i], hinfo, (hnil i _ hinfo).mp hempty⟩
    · rintro ⟨info, hinfo, hempty⟩
      exact ⟨(List.getElem?_eq_some_iff.mp hinfo).1, (hnil i info hinfo).mpr hempty⟩
  case alike =>
    exact halike.imp fun hlt hsame => hlt fun k =>
      (hneeds _ k).trans ((hsame k).trans (hneeds _ k).symm)

variable {built} in
theorem sort_eq_ite {w : List (List Nat)} {s : Placing} (hwaits : waits built infos = .ok w)
    (hsettle : settle w = some s) :
    sort built infos =
      if s.placed.length = infos.length then .ok s.placed
      else .error (.circular ((stuck s).filterMap fun i => infos[i]?.map PluginInfo.name)) := by
  simp only [sort, hwaits, hsettle, bind, Except.bind]
  rfl

/-- Plugins with a cycle among them are refused, and those named that are stuck. -/
theorem exists_sort_eq_circular (hmet : Met infos) (hcycle : ∃ c, TransGen (Needs infos) c c) :
    ∃ left : List Nat, left.Pairwise (· < ·) ∧
      (∀ i, i ∈ left ↔ i < infos.length ∧ Stuck (Needs infos) i) ∧
      sort built infos =
        .error (.circular (left.filterMap fun i => infos[i]?.map PluginInfo.name)) := by
  obtain ⟨w, s, hwaits, hsettle, hend⟩ := exists_settled built hmet
  refine ⟨stuck s, List.pairwise_lt_range.filter _, hend.mem_stuck, ?_⟩
  obtain ⟨c, hc⟩ := hcycle
  have hlt : c < infos.length := by
    obtain ⟨b, -, hneeds⟩ := TransGen.tail'_iff.mp hc
    exact hneeds.left_lt_length
  have hlength : s.placed.length ≠ infos.length := by
    intro heq
    have hsubset : s.placed ⊆ List.range infos.length := fun i hi =>
      List.mem_range.mpr ((hend.mem_placed i).mp hi).1
    have hperm := (hend.nodup.subperm hsubset).perm_of_length_le (by simp [heq])
    have hmem := hperm.mem_iff.mpr (List.mem_range.mpr hlt)
    exact ((hend.mem_placed c).mp hmem).2 ⟨c, hc, .refl⟩
  rw [sort_eq_ite hwaits hsettle, if_neg hlength]

/-- Plugins without a cycle among them are put in order. -/
theorem exists_sort_eq_ok (hmet : Met infos) (hacyclic : ¬ ∃ c, TransGen (Needs infos) c c) :
    ∃ order, sort built infos = .ok order ∧ BuildOrder infos order := by
  obtain ⟨w, s, hwaits, hsettle, hend⟩ := exists_settled built hmet
  have hperm : s.placed.Perm (List.range infos.length) := by
    rw [List.perm_ext_iff_of_nodup hend.nodup List.nodup_range]
    intro i
    rw [hend.mem_placed, List.mem_range]
    exact and_iff_left fun ⟨c, hc, _⟩ => hacyclic ⟨c, hc⟩
  have hlength : s.placed.length = infos.length := by
    rw [hperm.length_eq, List.length_range]
  refine ⟨s.placed, ?_, hperm, hend.before, hend.roots, hend.alike⟩
  rw [sort_eq_ite hwaits hsettle, if_pos hlength]

end StagedFlow.PluginOrder
