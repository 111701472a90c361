import Mathlib.Data.List.Infix
import Mathlib.Data.List.Nodup
import Mathlib.Data.List.Perm.Subperm
import StagedFlow.Server.Order

/-!
# Placing plugins by counters

The counters of unmet waits are redundant: for every plugin they count the waits for plugins that
are not placed. With this invariant one step of placing puts a plugin behind those placed, and
behind the queue exactly the plugins that waited for it last, `released`; no counter is lowered that
stands at zero, and the queue runs empty.
-/

namespace StagedFlow.PluginOrder

variable {waits : List (List Nat)}

theorem lt_length_of_mem_waitsAt {i j : Nat} (hmem : j ∈ waitsAt waits i) : i < waits.length := by
  by_contra hlt
  rw [waitsAt, List.getD_eq_getElem?_getD, List.getElem?_eq_none (Nat.le_of_not_lt hlt)] at hmem
  exact List.not_mem_nil hmem

/-- The waits for a plugin, plugin by plugin. -/
theorem dependents_eq (waits : List (List Nat)) (target : Nat) :
    dependents waits target = (List.range waits.length).flatMap fun i =>
      List.replicate ((waitsAt waits i).count target) i := by
  refine List.flatMap_congr fun i _ => ?_
  rw [List.map_const', ← List.countP_eq_length_filter]
  rfl

def unmetFor (waits : List (List Nat)) (placed : List Nat) (i : Nat) : Nat :=
  (waitsAt waits i).countP fun j => j ∉ placed

def released (waits : List (List Nat)) (placed : List Nat) (next : Nat) : List Nat :=
  (List.range waits.length).filter fun i =>
    next ∈ waitsAt waits i ∧ ∀ j ∈ waitsAt waits i, j ∈ placed ++ [next]

theorem unmetFor_eq_zero_iff {placed : List Nat} {i : Nat} :
    unmetFor waits placed i = 0 ↔ ∀ j ∈ waitsAt waits i, j ∈ placed := by
  simp [unmetFor, List.countP_eq_zero]

/-- What is unmet is met by the next plugin or stays unmet. -/
theorem unmetFor_eq_add {placed : List Nat} {next : Nat} (hnext : next ∉ placed) (i : Nat) :
    unmetFor waits placed i =
      unmetFor waits (placed ++ [next]) i + (waitsAt waits i).count next := by
  rw [unmetFor, unmetFor]
  induction waitsAt waits i with
  | nil => rfl
  | cons j rest ih =>
    rw [List.countP_cons, List.countP_cons, List.count_cons, ih]
    by_cases heq : j = next
    · subst heq
      simp [hnext]
      omega
    · by_cases hj : j ∈ placed <;> simp [hj, heq]
      omega

namespace Placing

/-- Meeting a wait again and again. -/
theorem foldlM_meet_replicate {s : Placing} {i left times : Nat}
    (hget : s.unmet[i]? = some (left + times)) :
    (List.replicate times i).foldlM meet s = some { s with
      unmet := s.unmet.set i left
      queue := if 0 < times ∧ left = 0 then s.queue ++ [i] else s.queue } := by
  induction times generalizing s with
  | zero =>
    obtain ⟨hlt, hleft⟩ := List.getElem?_eq_some_iff.mp hget
    have hset : s.unmet.set i left = s.unmet := by
      rw [show left = s.unmet[i] from hleft.symm]
      exact List.set_getElem_self hlt
    simp [hset]
  | succ times ih =>
    obtain ⟨hlt, -⟩ := List.getElem?_eq_some_iff.mp hget
    have hmeet : meet s i = some { s with
        unmet := s.unmet.set i (left + times)
        queue := if left + times = 0 then s.queue ++ [i] else s.queue } := by
      rw [meet, hget]
      rfl
    rw [List.replicate_succ, List.foldlM_cons, hmeet, Option.bind_eq_bind, Option.bind_some,
      ih (List.getElem?_set_self hlt)]
    simp only [List.set_set, Option.some.injEq, mk.injEq, true_and, and_true]
    by_cases hleft : left = 0 <;> by_cases htimes : times = 0 <;> simp [hleft, htimes]

/-- Meeting waits plugin by plugin: each plugin is met as often as it waits, and goes into the queue
if these were its last waits. -/
theorem exists_foldlM_meet {plugins : List Nat} (hnodup : plugins.Nodup) {times left : Nat → Nat}
    {s : Placing} (hget : ∀ i ∈ plugins, s.unmet[i]? = some (left i + times i)) :
    ∃ unmet, (plugins.flatMap fun i => List.replicate (times i) i).foldlM meet s = some { s with
        unmet
        queue := s.queue ++ plugins.filter fun i => 0 < times i ∧ left i = 0 } ∧
      (∀ i ∈ plugins, unmet[i]? = some (left i)) ∧ ∀ i ∉ plugins, unmet[i]? = s.unmet[i]? := by
  induction plugins generalizing s with
  | nil => exact ⟨s.unmet, by simp, by simp, by simp⟩
  | cons i rest ih =>
    obtain ⟨hi, hnodup⟩ := List.nodup_cons.mp hnodup
    have hfirst := hget i List.mem_cons_self
    obtain ⟨hlt, -⟩ := List.getElem?_eq_some_iff.mp hfirst
    obtain ⟨unmet, hfold, hmet, hother⟩ := ih hnodup (s := { s with
        unmet := s.unmet.set i (left i)
        queue := if 0 < times i ∧ left i = 0 then s.queue ++ [i] else s.queue }) fun j hj => by
      have hne : i ≠ j := fun heq => hi (heq ▸ hj)
      rw [List.getElem?_set_ne hne]
      exact hget j (List.mem_cons_of_mem i hj)
    refine ⟨unmet, ?_, fun j hj => ?_, fun j hj => ?_⟩
    · rw [List.flatMap_cons, List.foldlM_append, foldlM_meet_replicate hfirst]
      refine hfold.trans ?_
      by_cases h : 0 < times i ∧ left i = 0 <;> simp [h]
    · rcases List.mem_cons.mp hj with rfl | hj
      · rw [hother j hi]
        exact List.getElem?_set_self hlt
      · exact hmet j hj
    · rw [List.mem_cons, not_or] at hj
      rw [hother j hj.2]
      exact List.getElem?_set_ne (Ne.symm hj.1)

/-! ### The invariant -/

def Alike (waits : List (List Nat)) (i j : Nat) : Prop :=
  ∀ k, k ∈ waitsAt waits i ↔ k ∈ waitsAt waits j

/-- Plugins are placed, or ready to be placed, when all that they wait for is placed; and they come
in the right order. -/
structure Sound (waits : List (List Nat)) (s : Placing) : Prop where
  unmet_eq : s.unmet = (List.range waits.length).map (unmetFor waits s.placed)
  /-- A plugin has its turn if, and only if, all that it waits for is placed. -/
  mem_iff : ∀ i, i ∈ s.placed ++ s.queue ↔
    i < waits.length ∧ ∀ j ∈ waitsAt waits i, j ∈ s.placed
  nodup : (s.placed ++ s.queue).Nodup
  /-- What a placed plugin waits for is placed before it. -/
  before : ∀ l i r, s.placed = l ++ i :: r → ∀ j ∈ waitsAt waits i, j ∈ l
  /-- Those that wait for none come first, in their order. -/
  roots : (start waits).queue <+: s.placed ++ s.queue
  /-- Those that wait for the same stay in their order. -/
  alike : (s.placed ++ s.queue).Pairwise fun i j => Alike waits i j → i < j

theorem sound_start (waits : List (List Nat)) : Sound waits (start waits) where
  unmet_eq := by
    refine List.ext_getElem (by simp [start]) fun i hi hi' => ?_
    have hlt : i < waits.length := by simpa [start] using hi
    simp [start, unmetFor, waitsAt, hlt]
  mem_iff i := by
    simp [start, List.eq_nil_iff_forall_not_mem]
  nodup := by
    simp only [start, List.nil_append]
    exact List.nodup_range.filter _
  before l i r h := by simp [start] at h
  roots := by simp [start]
  alike := by
    simp only [start, List.nil_append]
    exact (List.pairwise_lt_range.filter _).imp fun hlt => fun _ => hlt

theorem run_of_queue_eq_nil {s : Placing} (hqueue : s.queue = []) (steps : Nat) :
    run waits steps s = some s := by
  induction steps with
  | zero => rfl
  | succ steps ih =>
    have hstep : s.step waits = some s := by rw [step, hqueue]
    rw [run, hstep, Option.bind_some, ih]

namespace Sound

variable {s : Placing} {next : Nat} {queue : List Nat}

theorem next_notMem (hs : s.Sound waits) (hqueue : s.queue = next :: queue) :
    next ∉ s.placed := by
  have hnodup := hs.nodup
  rw [hqueue] at hnodup
  exact fun hmem => List.disjoint_of_nodup_append hnodup hmem List.mem_cons_self

theorem next_waits (hs : s.Sound waits) (hqueue : s.queue = next :: queue) :
    ∀ j ∈ waitsAt waits next, j ∈ s.placed :=
  ((hs.mem_iff next).mp (by rw [hqueue]; simp)).2

/-- Released plugins had no turn yet. -/
theorem released_notMem (hs : s.Sound waits) (hqueue : s.queue = next :: queue) {i : Nat}
    (hi : i ∈ released waits s.placed next) : i ∉ s.placed ++ s.queue := by
  intro hmem
  have hwait : next ∈ waitsAt waits i := by
    rw [released, List.mem_filter, decide_eq_true_eq] at hi
    exact hi.2.1
  exact hs.next_notMem hqueue (((hs.mem_iff i).mp hmem).2 next hwait)

/-- One step: the first plugin of the queue is placed, and those that waited for it last come behind
the queue. No counter runs below zero. -/
theorem exists_step (hs : s.Sound waits) (hqueue : s.queue = next :: queue) :
    ∃ s', s.step waits = some s' ∧ s'.placed = s.placed ++ [next] ∧
      s'.queue = queue ++ released waits s.placed next ∧
      s'.unmet = (List.range waits.length).map (unmetFor waits s'.placed) := by
  have hnext := hs.next_notMem hqueue
  have hget : ∀ i ∈ List.range waits.length, s.unmet[i]? =
      some (unmetFor waits (s.placed ++ [next]) i + (waitsAt waits i).count next) := by
    intro i hi
    rw [hs.unmet_eq, List.getElem?_map, List.getElem?_range (List.mem_range.mp hi),
      Option.map_some, unmetFor_eq_add hnext]
  obtain ⟨unmet, hfold, hmet, hother⟩ := exists_foldlM_meet List.nodup_range
    (s := { s with queue, placed := s.placed ++ [next] }) hget
  refine ⟨⟨unmet, queue ++ released waits s.placed next, s.placed ++ [next]⟩, ?_, rfl, rfl, ?_⟩
  · simp only [unmetFor_eq_zero_iff, List.count_pos_iff, ← dependents_eq] at hfold
    rw [step, hqueue]
    exact hfold
  · refine List.ext_getElem? fun i => ?_
    by_cases hi : i < waits.length
    · rw [hmet i (List.mem_range.mpr hi), List.getElem?_map, List.getElem?_range hi,
        Option.map_some]
    · have hlength : s.unmet.length = waits.length := by rw [hs.unmet_eq]; simp
      rw [hother i (by simpa using hi), List.getElem?_eq_none (by rw [hlength]; omega),
        List.getElem?_eq_none (by simp; omega)]

theorem step_append {s' : Placing} (hqueue : s.queue = next :: queue)
    (hplaced : s'.placed = s.placed ++ [next])
    (hnew : s'.queue = queue ++ released waits s.placed next) :
    s'.placed ++ s'.queue = s.placed ++ s.queue ++ released waits s.placed next := by
  rw [hplaced, hnew, hqueue]
  simp

/-- A step keeps the invariant. -/
theorem of_step (hs : s.Sound waits) (hqueue : s.queue = next :: queue) {s' : Placing}
    (hplaced : s'.placed = s.placed ++ [next])
    (hnew : s'.queue = queue ++ released waits s.placed next)
    (hunmet : s'.unmet = (List.range waits.length).map (unmetFor waits s'.placed)) :
    s'.Sound waits := by
  have happend := step_append hqueue hplaced hnew
  constructor
  case unmet_eq => exact hunmet
  case mem_iff =>
    intro i
    rw [happend, List.mem_append, hs.mem_iff, released, List.mem_filter, decide_eq_true_eq,
      List.mem_range, hplaced]
    constructor
    · rintro (⟨hlt, hwaits⟩ | ⟨hlt, -, hwaits⟩)
      · exact ⟨hlt, fun j hj => List.mem_append_left _ (hwaits j hj)⟩
      · exact ⟨hlt, hwaits⟩
    · rintro ⟨hlt, hwaits⟩
      by_cases hmem : next ∈ waitsAt waits i
      · exact .inr ⟨hlt, hmem, hwaits⟩
      · refine .inl ⟨hlt, fun j hj => ?_⟩
        rcases List.mem_append.mp (hwaits j hj) with hj' | hj'
        · exact hj'
        · exact absurd (List.mem_singleton.mp hj' ▸ hj) hmem
  case nodup =>
    rw [happend]
    exact hs.nodup.append (List.nodup_range.filter _) fun i hi hi' =>
      hs.released_notMem hqueue hi' hi
  case before =>
    intro l i r hsplit j hj
    rw [hplaced] at hsplit
    rcases List.append_eq_append_iff.mp hsplit with ⟨l', hl, hr⟩ | ⟨r', hl, hr⟩
    · cases l' with
      | nil =>
        obtain ⟨rfl, -⟩ := List.cons.inj hr
        rw [hl, List.append_nil]
        exact hs.next_waits hqueue j hj
      | cons _ _ => simp at hr
    · cases r' with
      | nil =>
        obtain ⟨rfl, -⟩ := List.cons.inj hr
        rw [List.append_nil] at hl
        rw [← hl]
        exact hs.next_waits hqueue j hj
      | cons first r' =>
        obtain ⟨rfl, -⟩ := List.cons.inj hr
        exact hs.before l i r' hl j hj
  case roots =>
    rw [happend]
    exact hs.roots.trans (List.prefix_append _ _)
  case alike =>
    rw [happend, List.pairwise_append]
    refine ⟨hs.alike, (List.pairwise_lt_range.filter _).imp fun hlt => fun _ => hlt, ?_⟩
    intro i hi j hj halike
    -- What waits for the same as a plugin that had its turn had its turn, too.
    refine absurd ((hs.mem_iff j).mpr ⟨?_, fun k hk => ?_⟩) (hs.released_notMem hqueue hj)
    · rw [released, List.mem_filter] at hj
      exact List.mem_range.mp hj.1
    · exact ((hs.mem_iff i).mp hi).2 k ((halike k).mpr hk)

/-- A run keeps the invariant, and places a plugin with each step while there are any. -/
theorem exists_run (hs : s.Sound waits) (steps : Nat) :
    ∃ s', run waits steps s = some s' ∧ s'.Sound waits ∧
      (s'.queue = [] ∨ s'.placed.length = s.placed.length + steps) := by
  induction steps generalizing s with
  | zero => exact ⟨s, rfl, hs, .inr rfl⟩
  | succ steps ih =>
    cases hqueue : s.queue with
    | nil => exact ⟨s, run_of_queue_eq_nil hqueue _, hs, .inl hqueue⟩
    | cons next queue =>
      obtain ⟨s₁, hstep, hplaced, hnew, hunmet⟩ := hs.exists_step hqueue
      obtain ⟨s', hrun, hs', hend⟩ := ih (hs.of_step hqueue hplaced hnew hunmet)
      refine ⟨s', by rw [run, hstep, Option.bind_some, hrun], hs', hend.imp_right fun h => ?_⟩
      rw [h, hplaced, List.length_append, List.length_singleton]
      omega

/-- No more plugins have their turn than there are. -/
theorem length_le (hs : s.Sound waits) : s.placed.length + s.queue.length ≤ waits.length := by
  have hsubset : s.placed ++ s.queue ⊆ List.range waits.length := fun i hi =>
    List.mem_range.mpr ((hs.mem_iff i).mp hi).1
  have hlength := (hs.nodup.subperm hsubset).length_le
  rwa [List.length_append, List.length_range] at hlength

end Sound

theorem run_add (waits : List (List Nat)) (steps more : Nat) (s : Placing) :
    run waits (steps + more) s = (run waits steps s).bind (run waits more) := by
  induction steps generalizing s with
  | zero => rw [Nat.zero_add]; rfl
  | succ steps ih =>
    rw [Nat.succ_add, run, run, Option.bind_assoc]
    exact congrArg (s.step waits).bind (funext ih)

end Placing

/-- Placing comes to an end: the queue runs empty, and no further step changes anything. -/
theorem exists_settle (waits : List (List Nat)) :
    ∃ s, settle waits = some s ∧ s.Sound waits ∧ s.queue = [] ∧
      ∀ steps, waits.length ≤ steps → Placing.run waits steps (.start waits) = some s := by
  obtain ⟨s, hrun, hs, hend⟩ := (Placing.sound_start waits).exists_run waits.length
  have hqueue : s.queue = [] := by
    rcases hend with hempty | hplaced
    · exact hempty
    · have hle := hs.length_le
      have hstart : (Placing.start waits).placed.length = 0 := rfl
      exact List.eq_nil_of_length_eq_zero (by omega)
  refine ⟨s, hrun, hs, hqueue, fun steps hle => ?_⟩
  rw [← Nat.add_sub_cancel' hle, Placing.run_add, hrun, Option.bind_some,
    Placing.run_of_queue_eq_nil hqueue]

end StagedFlow.PluginOrder
