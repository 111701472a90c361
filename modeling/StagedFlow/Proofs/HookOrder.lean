import StagedFlow.Proofs.Outcome

/-!
# The order of hooks

The hooks of a map are sorted once for every stage, and sorted again with those attached to the call
when the stage is entered. Both sorts keep the order of hooks of one priority, so that together they
are one sort of all hooks in the order in which they came: those of the flow, those of others, and
those attached to the call. `StablySorts` says what such a sort is, without an algorithm.
-/

namespace StagedFlow

variable {K : Type} {V : K → Type} {S W H : Type}

/-- The list in ascending priority, where hooks of one priority keep their order. -/
structure StablySorts (hooks sorted : List (HookBinding H)) : Prop where
  ascending : sorted.Pairwise fun a b => a.priority ≤ b.priority
  stable : ∀ priority : Int,
    (sorted.filter fun hook => hook.priority = priority) =
      hooks.filter fun hook => hook.priority = priority

theorem HookBinding.before_trans (a b c : HookBinding H) (hab : a.before b) (hbc : b.before c) :
    a.before c := by
  simp only [before, decide_eq_true_eq] at hab hbc ⊢
  exact Int.le_trans hab hbc

theorem HookBinding.before_total (a b : HookBinding H) : a.before b || b.before a := by
  simp only [before, Bool.or_eq_true, decide_eq_true_eq]
  exact Int.le_total a.priority b.priority

/-- Merge sort is such a sort. -/
theorem stablySorts_mergeSort (hooks : List (HookBinding H)) :
    StablySorts hooks (hooks.mergeSort HookBinding.before) where
  ascending := by
    have hsorted := List.pairwise_mergeSort HookBinding.before_trans HookBinding.before_total hooks
    refine hsorted.imp fun {a b} h => ?_
    simpa [HookBinding.before] using h
  stable priority := by
    have hequal : (hooks.filter fun hook => hook.priority = priority).Pairwise
        fun a b => a.before b := by
      refine List.pairwise_of_forall_mem_list fun a ha b hb => ?_
      have ha : a.priority = priority := by simpa using (List.mem_filter.mp ha).2
      have hb : b.priority = priority := by simpa using (List.mem_filter.mp hb).2
      simp [HookBinding.before, ha, hb]
    -- Hooks of one priority are in order already, so the sort keeps them as a sublist.
    have hkept := (List.sublist_mergeSort HookBinding.before_trans HookBinding.before_total hequal
      List.filter_sublist).filter fun hook => decide (hook.priority = priority)
    rw [List.filter_filter] at hkept
    simp only [Bool.and_self] at hkept
    have hlength := ((List.mergeSort_perm hooks HookBinding.before).filter
      fun hook => decide (hook.priority = priority)).length_eq
    exact (hkept.eq_of_length hlength.symm).symm

namespace StablySorts

variable {hooks a b : List (HookBinding H)}

/-- Equal filters by priority have equal members. -/
theorem subset_of_stable
    (h : ∀ priority : Int, (a.filter fun hook => hook.priority = priority) =
      b.filter fun hook => hook.priority = priority) : a ⊆ b := by
  intro hook hmem
  have hfiltered : hook ∈ a.filter fun other => other.priority = hook.priority :=
    List.mem_filter.mpr ⟨hmem, decide_eq_true rfl⟩
  rw [h hook.priority] at hfiltered
  exact (List.mem_filter.mp hfiltered).1

theorem mem_iff (h : StablySorts hooks a) (hook : HookBinding H) : hook ∈ a ↔ hook ∈ hooks :=
  ⟨fun hmem => subset_of_stable h.stable hmem,
    fun hmem => subset_of_stable (fun priority => (h.stable priority).symm) hmem⟩

theorem head_le {x y : HookBinding H}
    (hascending : (x :: a).Pairwise fun a b => a.priority ≤ b.priority) (hmem : y ∈ x :: a) :
    x.priority ≤ y.priority := by
  rcases List.mem_cons.mp hmem with rfl | hmem
  · exact Int.le_refl _
  · exact List.rel_of_pairwise_cons hascending hmem

/-- There is only one such list. -/
theorem unique (ha : StablySorts hooks a) (hb : StablySorts hooks b) : a = b := by
  have hfirst := ha.ascending
  have hsecond := hb.ascending
  have hsame := fun priority => (ha.stable priority).trans (hb.stable priority).symm
  clear ha hb
  induction a generalizing b with
  | nil =>
    have hempty : b ⊆ [] := subset_of_stable fun priority => (hsame priority).symm
    exact (List.subset_nil.mp hempty).symm
  | cons x a ih =>
    cases b with
    | nil => exact List.subset_nil.mp (subset_of_stable hsame)
    | cons y b =>
      have hxy : x.priority ≤ y.priority := head_le hfirst
        (subset_of_stable (fun priority => (hsame priority).symm) List.mem_cons_self)
      have hyx : y.priority ≤ x.priority := head_le hsecond
        (subset_of_stable hsame List.mem_cons_self)
      have hpriority : y.priority = x.priority := Int.le_antisymm hyx hxy
      -- Both heads come first among the hooks of their priority.
      have hheads := hsame x.priority
      rw [List.filter_cons_of_pos (by simp), List.filter_cons_of_pos (by simp [hpriority])]
        at hheads
      obtain ⟨rfl, htails⟩ := List.cons.inj hheads
      rw [ih hfirst.of_cons hsecond.of_cons fun priority => ?_]
      by_cases heq : x.priority = priority
      · rw [← heq, htails]
      · have hrest := hsame priority
        rwa [List.filter_cons_of_neg (by simp [heq]), List.filter_cons_of_neg (by simp [heq])]
          at hrest

end StablySorts

/-! ### The hooks of a stage -/

def eligible (hooks : List (HookBinding H)) (stage : Stage) (scope : Option String) :
    List (HookBinding H) :=
  hooks.filter fun hook => hook.stage = stage ∧ (hook.owner = none ∨ hook.owner = scope)

theorem HookBinding.appliesTo_iff (hook : HookBinding H) (scope : Option String) :
    hook.appliesTo scope ↔ hook.owner = none ∨ hook.owner = scope := by
  rw [appliesTo]
  cases hook.owner with
  | none => simp
  | some owner => rw [beq_iff_eq, or_iff_right (Option.some_ne_none owner), eq_comm]

/-- Sorting twice with filters in between is sorting the whole once. -/
theorem HookMap.stablySorts_resolve (map : HookMap H) (stage : Stage) (scope : Option String)
    (attached : List (HookBinding H)) :
    StablySorts (eligible (map.bindings ++ attached) stage scope)
      (map.resolve stage scope attached) where
  ascending := (stablySorts_mergeSort _).ascending
  stable priority := by
    have hmap :=
      (stablySorts_mergeSort (map.bindings.filter fun hook => hook.stage == stage)).stable priority
    have houter := (stablySorts_mergeSort
      (((map.hooksAt stage).filter fun hook => hook.appliesTo scope) ++
        (attached.filter fun hook => hook.stage == stage).filter fun hook =>
          hook.appliesTo scope)).stable priority
    have hinner : ((map.hooksAt stage).filter fun hook => hook.appliesTo scope).filter
          (fun hook => hook.priority = priority) =
        ((map.bindings.filter fun hook => hook.stage == stage).filter fun hook =>
          hook.appliesTo scope).filter fun hook => hook.priority = priority := by
      rw [List.filter_comm, HookMap.hooksAt, hmap, List.filter_comm]
    rw [resolve, houter, List.filter_append, hinner, ← List.filter_append, ← List.filter_append,
      ← List.filter_append, List.filter_filter, List.filter_filter, eligible, List.filter_filter]
    refine List.filter_congr fun hook _ => ?_
    rw [Bool.eq_iff_iff]
    simp only [Bool.and_eq_true, beq_iff_eq, decide_eq_true_eq, hook.appliesTo_iff scope]
    rw [and_assoc, and_comm (a := hook.stage = stage)]

/-- Hooks that stand in the order of their priorities fire as they stand. -/
theorem HookMap.resolve_of_ascending {map : HookMap H}
    (h : map.bindings.Pairwise fun a b => a.priority ≤ b.priority) (stage : Stage)
    (scope : Option String) : map.resolve stage scope [] = eligible map.bindings stage scope := by
  have hsorts := map.stablySorts_resolve stage scope []
  rw [List.append_nil] at hsorts
  exact hsorts.unique ⟨h.filter _, fun _ => rfl⟩

theorem HookMap.bindings_of_build {token : FlowToken} {own others : List (HookBinding H)}
    {map : HookMap H} (hbuild : HookMap.build token own others = .ok map) :
    map.bindings = own ++ others := by
  rw [HookMap.build] at hbuild
  split at hbuild
  · cases hbuild
  · cases hbuild
    rfl

/-- All hooks that run one after another on a stage see that stage. -/
theorem Fires.stage_seen {hooks : List (HookBinding H)} {ctx after : Context S H}
    {firings : List (Firing S H)} {result : Except Interrupt Unit}
    (h : Fires hooks ctx firings result after) :
    ∀ firing ∈ firings, firing.seen.stage = ctx.stage := by
  induction h with
  | done => exact fun _ hmem => absurd hmem List.not_mem_nil
  | passed _ ih =>
    intro firing hmem
    rcases List.mem_cons.mp hmem with rfl | hmem
    · rfl
    · exact ih firing hmem
  | stopped =>
    intro firing hmem
    rw [List.mem_singleton.mp hmem]

/-- A visit runs the hooks that are eligible among `hooks`, in the order of priority, up to and
including the first that interrupts; all of them see the stage of the visit. -/
structure Visit.Ordered (hooks : List (HookBinding H)) (scope : Option String)
    (visit : Visit S H) : Prop where
  order : ∃ sorted, StablySorts (eligible hooks visit.stage scope) sorted ∧
    UpToStop Firing.hook Firing.Passes sorted visit.firings
  seen : ∀ firing ∈ visit.firings, firing.seen.stage = some visit.stage

theorem Visit.Happens.ordered {map : HookMap H} {ctx after : Context S H} {visit : Visit S H}
    {result : Except Interrupt Unit} (h : visit.Happens map ctx result after) :
    visit.Ordered (map.bindings ++ ctx.attached) ctx.scope where
  order := ⟨_, map.stablySorts_resolve visit.stage ctx.scope ctx.attached, Fires.upToStop h⟩
  seen := Fires.stage_seen h

/-- Every hook of a visit is one of its stage. -/
theorem Visit.Ordered.stage_eq {hooks : List (HookBinding H)} {scope : Option String}
    {visit : Visit S H} (h : visit.Ordered hooks scope) {firing : Firing S H}
    (hfiring : firing ∈ visit.firings) : firing.hook.stage = visit.stage := by
  obtain ⟨sorted, hsorts, hupto⟩ := h.order
  have hsorted : firing.hook ∈ sorted := hupto.isPrefix.subset (List.mem_map_of_mem hfiring)
  have heligible := (hsorts.mem_iff firing.hook).mp hsorted
  exact (of_decide_eq_true (List.mem_filter.mp heligible).2).1

/-- No stage of a validated plan is entered twice in a call. -/
theorem History.stages_nodup {p : Platform S W H} {inst : Instance K V W H}
    {setting : Setting S W} (history : History p inst setting) (hplan : inst.plan.WellFormed) :
    ((history.visits ++ history.closing).map Visit.stage).Nodup := by
  rw [List.map_append, history.map_stage_closing hplan]
  exact hplan.closed_nodup history.stages_initial

/-- Which hooks a call runs that has made visits, where `hooks` are those bound before the call. -/
structure Instance.Invokes (p : Platform S W H) (inst : Instance K V W H) (setting : Setting S W)
    (hooks : List (HookBinding H)) (visits : List (Visit S H)) : Prop where
  /-- All visits of the call, in the walk or to close a bracket. -/
  record_eq : ∀ place, inst.record p place setting = inst.marksOf p setting visits
  /-- A visit runs hooks bound before the call or attached before the visit, under the scope of the
  caller. -/
  ordered : ∀ before visit later, visits = before ++ visit :: later →
    visit.Ordered (hooks ++ before.flatMap Visit.attached) (p.scope setting.deps)
  /-- On a validated plan a hook that is attached too late for its stage never runs. -/
  late : inst.plan.validate = .ok () → ∀ before visit later, visits = before ++ visit :: later →
    ∀ hook ∈ visit.attached, hook.stage ∈ (before ++ [visit]).map Visit.stage →
      ∀ next ∈ later, ∀ firing ∈ next.firings, firing.hook ≠ hook

/-- **Hook order.** Every stage that a call enters runs its hooks sorted by priority: those of the
flow, those of others, and those attached before, each under its owner. -/
theorem exists_invokes (p : Platform S W H) (inst : Instance K V W H) (setting : Setting S W)
    (token : FlowToken) (own others : List (HookBinding H))
    (hbuild : HookMap.build token own others = .ok inst.hooks) :
    ∃ visits, inst.Invokes p setting (own ++ others) visits := by
  obtain ⟨history, hrecord⟩ := exists_history p inst setting
  have hordered : ∀ before visit later,
      history.visits ++ history.closing = before ++ visit :: later →
        visit.Ordered (own ++ others ++ before.flatMap Visit.attached) (p.scope setting.deps) := by
    intro before visit later hsplit
    obtain ⟨seen, result, next, hvisit, hscope, hattached⟩ :=
      history.proceeds.exists_happens hsplit
    have hvisit := hvisit.ordered
    rw [hscope, hattached, HookMap.bindings_of_build hbuild] at hvisit
    exact hvisit
  refine ⟨history.visits ++ history.closing, hrecord, hordered, ?_⟩
  intro hplan before visit later hsplit hook _ hstage next hnext firing hfiring heq
  have hnodup := history.stages_nodup ((Plan.validate_eq_ok_iff inst.plan).mp hplan)
  rw [hsplit, List.append_cons, List.map_append] at hnodup
  obtain ⟨middle, rest, rfl⟩ := List.append_of_mem hnext
  have hlater : history.visits ++ history.closing =
      (before ++ visit :: middle) ++ next :: rest := by
    rw [hsplit, List.append_assoc]
    rfl
  have hfired : hook.stage = next.stage := heq ▸ (hordered _ _ _ hlater).stage_eq hfiring
  exact List.disjoint_of_nodup_append hnodup hstage (hfired ▸ List.mem_map_of_mem hnext)

def HookBinding.guard : HookBinding (Option Interrupt) :=
  ⟨"guard", "work", -1, some "tenant", some (.signal .handled)⟩

theorem exists_invokes_crossed :
    HookMap.build ⟨"crossed", ⟨"demo", Plan.crossed.stages⟩⟩ [.own "work" none] [.guard] =
        .ok (Instance.crossed [.own "work" none, .guard]).hooks ∧
      ∃ visits, (Instance.crossed [.own "work" none, .guard]).Invokes .plain .plain
        ([.own "work" none] ++ [.guard]) visits :=
  ⟨rfl, exists_invokes _ _ _ ⟨"crossed", ⟨"demo", Plan.crossed.stages⟩⟩ _ _ rfl⟩

end StagedFlow
