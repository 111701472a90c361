import Mathlib.Data.List.Nodup
import Mathlib.Data.List.Pairwise
import StagedFlow.Flow.Instance

/-!
# Validated plans

What `Plan.validate` accepts, as a statement about the stages and the brackets of a plan, and what a
walk through such a plan keeps open: the brackets that are `pending` are those whose first stage was
entered and whose last one was not, newest first. The list of open brackets that the walk maintains
is this one at every stage.
-/

namespace StagedFlow

def Bracket.ends (bracket : Bracket) : List Stage := [bracket.acquire, bracket.release]

theorem Bracket.acquire_mem_ends (bracket : Bracket) : bracket.acquire ∈ bracket.ends :=
  List.mem_cons_self

theorem Bracket.release_mem_ends (bracket : Bracket) : bracket.release ∈ bracket.ends :=
  List.mem_cons_of_mem _ List.mem_cons_self

namespace Plan

structure WellFormed (plan : Plan) : Prop where
  stages_nodup : plan.stages.Nodup
  released : ∀ b ∈ plan.brackets, b.release ∈ plan.stages
  ordered : ∀ b ∈ plan.brackets, plan.stages.idxOf b.acquire < plan.stages.idxOf b.release
  ends_nodup : (plan.brackets.flatMap Bracket.ends).Nodup

theorem firstRepeat?_eq_none_iff {seen : List Stage} (hseen : seen.Nodup) (stages : List Stage) :
    firstRepeat? seen stages = none ↔ (seen ++ stages).Nodup := by
  induction stages generalizing seen with
  | nil => simpa [firstRepeat?] using hseen
  | cons stage rest ih =>
    rw [firstRepeat?]
    by_cases hmem : stage ∈ seen
    · have hrepeat : ¬ (seen ++ stage :: rest).Nodup := fun hnodup =>
        List.disjoint_of_nodup_append hnodup hmem List.mem_cons_self
      simp [hmem, hrepeat]
    · have hnext : (seen ++ [stage]).Nodup :=
        List.nodup_append.mpr ⟨hseen, List.nodup_singleton stage, fun a ha b hb =>
          List.mem_singleton.mp hb ▸ fun heq => hmem (heq ▸ ha)⟩
      rw [if_neg (by simpa using hmem), ih hnext, List.append_assoc, List.singleton_append]

theorem position?_eq (stages : List Stage) (stage : Stage) :
    position? stages stage =
      if stage ∈ stages then .ok (stages.idxOf stage) else .error (.unknownStage stage) := by
  have hfind : stages.idxOf? stage =
      if stage ∈ stages then some (stages.idxOf stage) else none := by
    induction stages with
    | nil => rfl
    | cons first rest ih =>
      rw [List.idxOf?_cons, List.idxOf_cons, ih]
      by_cases hfirst : first = stage
      · simp [hfirst]
      · have hne : stage ≠ first := fun heq => hfirst heq.symm
        by_cases hrest : stage ∈ rest <;> simp [hne, hrest, beq_eq_false_iff_ne.mpr hfirst]
  rw [position?, hfind]
  by_cases hmem : stage ∈ stages <;> simp [hmem]

theorem checkBracket_eq_ok_iff (stages used : List Stage) (bracket : Bracket) :
    checkBracket stages used bracket = .ok () ↔
      (bracket.release ∈ stages ∧ stages.idxOf bracket.acquire < stages.idxOf bracket.release) ∧
        bracket.acquire ∉ used ∧ bracket.release ∉ used ∧ bracket.acquire ≠ bracket.release := by
  rw [checkBracket, position?_eq, position?_eq]
  by_cases hacquire : bracket.acquire ∈ used ∨ bracket.acquire = bracket.release
  · rw [if_pos (by simpa using hacquire)]
    exact ⟨nofun, fun h => absurd hacquire (not_or.mpr ⟨h.2.1, h.2.2.2⟩)⟩
  rw [if_neg (by simpa using hacquire)]
  obtain ⟨hacquire, hne⟩ := not_or.mp hacquire
  by_cases hrelease : bracket.release ∈ used
  · rw [if_pos (by simpa using hrelease)]
    exact ⟨nofun, fun h => absurd hrelease h.2.2.1⟩
  rw [if_neg (by simpa using hrelease)]
  by_cases hlast : bracket.release ∈ stages
  · by_cases hfirst : bracket.acquire ∈ stages
    · have hplace : stages.idxOf bracket.acquire ≠ stages.idxOf bracket.release :=
        fun heq => hne ((List.idxOf_inj hfirst).mp heq)
      rw [if_pos hlast, if_pos hfirst]
      change (if stages.idxOf bracket.release < stages.idxOf bracket.acquire then
        throw (PlanFault.releaseBeforeAcquire bracket) else pure ()) = Except.ok () ↔ _
      by_cases hlt : stages.idxOf bracket.release < stages.idxOf bracket.acquire
      · rw [if_pos hlt]
        exact ⟨nofun, fun h => absurd h.1.2 (by omega)⟩
      · rw [if_neg hlt]
        exact ⟨fun _ => ⟨⟨hlast, by omega⟩, hacquire, hrelease, hne⟩, fun _ => rfl⟩
    · rw [if_pos hlast, if_neg hfirst]
      rw [List.idxOf_eq_length hfirst]
      exact ⟨nofun, fun h => absurd h.1.2 (Nat.not_lt.mpr List.idxOf_le_length)⟩
  · rw [if_neg hlast]
    exact ⟨nofun, fun h => absurd h.1.1 hlast⟩

theorem checkBrackets_eq_ok_iff {stages used : List Stage} (hused : used.Nodup)
    (brackets : List Bracket) :
    checkBrackets stages used brackets = .ok () ↔
      (∀ b ∈ brackets, b.release ∈ stages ∧ stages.idxOf b.acquire < stages.idxOf b.release) ∧
        (used ++ brackets.flatMap Bracket.ends).Nodup := by
  induction brackets generalizing used with
  | nil => simpa [checkBrackets] using hused
  | cons bracket rest ih =>
    have hsplit : used ++ (bracket :: rest).flatMap Bracket.ends =
        (used ++ bracket.ends) ++ rest.flatMap Bracket.ends := by
      rw [List.flatMap_cons, List.append_assoc]
    have hends : (used ++ bracket.ends).Nodup ↔ bracket.acquire ∉ used ∧
        bracket.release ∉ used ∧ bracket.acquire ≠ bracket.release := by
      rw [Bracket.ends, List.nodup_append]
      constructor
      · rintro ⟨-, hpair, hfresh⟩
        have hne : bracket.acquire ≠ bracket.release := by simpa using hpair
        exact ⟨fun h => hfresh _ h _ (by simp) rfl, fun h => hfresh _ h _ (by simp) rfl, hne⟩
      · rintro ⟨hacquire, hrelease, hne⟩
        refine ⟨hused, by simpa using hne, fun a ha b hb heq => ?_⟩
        rcases List.mem_pair.mp (heq ▸ hb) with rfl | rfl
        · exact hacquire ha
        · exact hrelease ha
    rw [checkBrackets, hsplit]
    cases hcheck : checkBracket stages used bracket with
    | error fault =>
      refine ⟨nofun, fun h => ?_⟩
      have hfirst := h.1 bracket List.mem_cons_self
      have hok := (checkBracket_eq_ok_iff stages used bracket).mpr
        ⟨hfirst, hends.mp (List.Nodup.of_append_left h.2)⟩
      rw [hcheck] at hok
      exact nomatch hok
    | ok _ =>
      obtain ⟨hfirst, hfresh⟩ := (checkBracket_eq_ok_iff stages used bracket).mp hcheck
      rw [List.forall_mem_cons, and_iff_right hfirst]
      exact ih (hends.mpr hfresh)

/-- Validation accepts the well-formed plans. -/
theorem validate_eq_ok_iff (plan : Plan) : plan.validate = .ok () ↔ plan.WellFormed := by
  have hrepeat := firstRepeat?_eq_none_iff List.nodup_nil plan.stages
  have hbrackets : checkBrackets plan.stages [] plan.brackets = .ok () ↔ _ :=
    checkBrackets_eq_ok_iff List.nodup_nil plan.brackets
  rw [List.nil_append] at hrepeat hbrackets
  rw [validate]
  cases hfound : firstRepeat? [] plan.stages with
  | some stage => exact ⟨nofun, fun h => by rw [hrepeat.mpr h.stages_nodup] at hfound; cases hfound⟩
  | none =>
    refine hbrackets.trans ⟨fun h => ?_, fun h => ?_⟩
    · exact ⟨hrepeat.mp hfound, fun b hb => (h.1 b hb).1, fun b hb => (h.1 b hb).2, h.2⟩
    · exact ⟨fun b hb => ⟨h.released b hb, h.ordered b hb⟩, h.ends_nodup⟩

theorem map_steps (plan : Plan) : plan.steps.map Prod.snd = plan.stages := by
  simp only [steps, stages, List.map_append, List.map_map]
  exact congrArg₂ _ (congrArg₂ _ (congrArg₂ _ (List.map_id' _) (List.map_id' _)) (List.map_id' _))
    (List.map_id' _)

/-- A stage of the plan is a step of the plan in its phase. -/
theorem step_mem {plan : Plan} {stage : Stage} (hmem : stage ∈ plan.stages) :
    ((plan.phaseOf? stage).getD .finalize, stage) ∈ plan.steps := by
  rw [← map_steps] at hmem
  obtain ⟨step, hstep, rfl⟩ := List.mem_map.mp hmem
  rw [phaseOf?]
  cases hfound : plan.steps.find? fun other => other.2 == step.2 with
  | none => exact absurd (beq_self_eq_true step.2) (List.find?_eq_none.mp hfound step hstep)
  | some other =>
    have hstage : other.2 = step.2 := by simpa using List.find?_some hfound
    rw [← hstage]
    exact List.mem_of_find?_eq_some hfound

/-! ### Pending brackets -/

/-- The brackets that were opened and not closed once stages have been entered, newest first. -/
def pending (plan : Plan) (entered : List Stage) : List Bracket :=
  entered.reverse.flatMap fun stage =>
    plan.brackets.filter fun b => b.acquire = stage ∧ b.release ∉ entered

theorem mem_pending {plan : Plan} {entered : List Stage} {b : Bracket} :
    b ∈ plan.pending entered ↔
      b ∈ plan.brackets ∧ b.acquire ∈ entered ∧ b.release ∉ entered := by
  simp only [pending, List.mem_flatMap, List.mem_reverse, List.mem_filter, decide_eq_true_eq]
  constructor
  · rintro ⟨stage, hstage, hb, rfl, hrelease⟩
    exact ⟨hb, hstage, hrelease⟩
  · rintro ⟨hb, hacquire, hrelease⟩
    exact ⟨b.acquire, hacquire, hb, rfl, hrelease⟩

namespace WellFormed

variable {plan : Plan} {entered : List Stage} {stage : Stage} {a b : Bracket}

/-- Nothing is pending at the end of the plan. -/
theorem pending_stages (hplan : plan.WellFormed) : plan.pending plan.stages = [] := by
  rw [List.eq_nil_iff_forall_not_mem]
  intro b hb
  obtain ⟨hb, -, hrelease⟩ := mem_pending.mp hb
  exact hrelease (hplan.released b hb)

/-- No stage is in two brackets. -/
theorem eq_of_mem_ends (hplan : plan.WellFormed) (ha : a ∈ plan.brackets)
    (hb : b ∈ plan.brackets) (hastage : stage ∈ a.ends) (hbstage : stage ∈ b.ends) : a = b := by
  by_contra hne
  have hdisjoint := (List.nodup_flatMap.mp hplan.ends_nodup).2
  have hsymm : Std.Symm (Function.onFun List.Disjoint Bracket.ends) := 
    ⟨fun _ _ h _ hfirst hsecond => h hsecond hfirst⟩
  exact hdisjoint.forall ha hb hne hastage hbstage

theorem eq_of_acquire (hplan : plan.WellFormed) (ha : a ∈ plan.brackets)
    (hb : b ∈ plan.brackets) (heq : a.acquire = b.acquire) : a = b :=
  hplan.eq_of_mem_ends ha hb a.acquire_mem_ends (heq ▸ b.acquire_mem_ends)

theorem eq_of_release (hplan : plan.WellFormed) (ha : a ∈ plan.brackets)
    (hb : b ∈ plan.brackets) (heq : a.release = b.release) : a = b :=
  hplan.eq_of_mem_ends ha hb a.release_mem_ends (heq ▸ b.release_mem_ends)

theorem brackets_nodup (hplan : plan.WellFormed) : plan.brackets.Nodup := by
  have hdisjoint := (List.nodup_flatMap.mp hplan.ends_nodup).2
  refine hdisjoint.imp fun {a b} hab heq => ?_
  subst heq
  exact hab a.acquire_mem_ends a.acquire_mem_ends

/-- A bracket whose closing stage was entered was opened before. -/
theorem acquire_mem (hplan : plan.WellFormed) (hinitial : entered <+: plan.stages)
    (hb : b ∈ plan.brackets) (hrelease : b.release ∈ entered) : b.acquire ∈ entered := by
  obtain ⟨rest, hrest⟩ := hinitial
  have hordered := hplan.ordered b hb
  have hlt : plan.stages.idxOf b.release < entered.length := by
    rw [← hrest, List.idxOf_append_of_mem hrelease]
    exact List.idxOf_lt_length_iff.mpr hrelease
  by_contra hacquire
  have hge : plan.stages.idxOf b.acquire = entered.length + rest.idxOf b.acquire := by
    rw [← hrest, List.idxOf_append_of_notMem hacquire]
  omega

/-- The closing stage of a bracket was not entered yet when its opening stage is. -/
theorem release_notMem (hplan : plan.WellFormed) (hb : b ∈ plan.brackets)
    (hinitial : entered ++ [b.acquire] <+: plan.stages) : b.release ∉ entered ++ [b.acquire] := by
  intro hmem
  rcases List.mem_append.mp hmem with hmem | hmem
  · have hacquire := hplan.acquire_mem ((List.prefix_append _ _).trans hinitial) hb hmem
    have hnodup : (entered ++ [b.acquire]).Nodup := hplan.stages_nodup.sublist hinitial.sublist
    exact List.disjoint_of_nodup_append hnodup hacquire List.mem_cons_self
  · have hordered := hplan.ordered b hb
    rw [List.mem_singleton.mp hmem] at hordered
    exact Nat.lt_irrefl _ hordered

/-- The lookup of the bracket that a stage opens finds the only one. -/
theorem filter_acquire (hplan : plan.WellFormed) (stage : Stage) :
    (plan.brackets.filter fun b => b.acquire = stage) = (plan.openedBy? stage).toList := by
  rw [openedBy?]
  cases hfound : plan.brackets.find? fun b => b.acquire == stage with
  | none =>
    have hnone := List.find?_eq_none.mp hfound
    simpa [List.filter_eq_nil_iff] using hnone
  | some b =>
    have hb := List.mem_of_find?_eq_some hfound
    have hacquire : b.acquire = stage := by simpa using List.find?_some hfound
    have honly : ∀ a ∈ plan.brackets, decide (a.acquire = stage) = (a == b) := fun a ha => by
      rw [Bool.eq_iff_iff, decide_eq_true_iff, beq_iff_eq]
      constructor
      · intro h
        exact hplan.eq_of_acquire ha hb (h.trans hacquire.symm)
      · rintro rfl
        exact hacquire
    rw [List.filter_congr honly, List.filter_beq, List.count_eq_one_of_mem hplan.brackets_nodup hb]
    rfl

/-- Entering a stage opens its bracket, and closes the one it ends. -/
theorem enterBrackets_eq (hplan : plan.WellFormed) (stage : Stage) {opened : List Bracket}
    (hopened : opened ⊆ plan.brackets) :
    Instance.enterBrackets plan stage opened =
      ((plan.brackets.filter fun b => b.acquire = stage) ++ opened).filter
        fun b => b.release ≠ stage := by
  have hsubset : (plan.brackets.filter fun b => b.acquire = stage) ++ opened ⊆ plan.brackets :=
    List.append_subset.mpr ⟨List.filter_sublist.subset, hopened⟩
  have hopen : Instance.enterBrackets plan stage opened =
      ((plan.closedBy? stage).map fun c =>
        ((plan.brackets.filter fun b => b.acquire = stage) ++ opened).filter (· != c)).getD
          ((plan.brackets.filter fun b => b.acquire = stage) ++ opened) := by
    rw [hplan.filter_acquire, Instance.enterBrackets]
    cases plan.openedBy? stage <;> cases plan.closedBy? stage <;> rfl
  rw [hopen]
  cases hclosed : plan.closedBy? stage with
  | none =>
    rw [Option.map_none, Option.getD_none]
    have hnone := List.find?_eq_none.mp hclosed
    rw [eq_comm, List.filter_eq_self]
    intro b hb
    simpa using hnone b (hsubset hb)
  | some c =>
    have hc := List.mem_of_find?_eq_some hclosed
    have hrelease : c.release = stage := by simpa using List.find?_some hclosed
    rw [Option.map_some, Option.getD_some]
    refine List.filter_congr fun b hb => ?_
    rw [Bool.eq_iff_iff, bne_iff_ne, decide_eq_true_iff, not_iff_not]
    constructor
    · rintro rfl
      exact hrelease
    · intro h
      exact hplan.eq_of_release (hsubset hb) hc (h.trans hrelease.symm)

/-- Entering the next stage of the plan leads from what is pending to what is pending then. -/
theorem pending_append (hplan : plan.WellFormed)
    (hinitial : entered ++ [stage] <+: plan.stages) :
    plan.pending (entered ++ [stage]) =
      Instance.enterBrackets plan stage (plan.pending entered) := by
  have hopened : plan.pending entered ⊆ plan.brackets := fun b hb => (mem_pending.mp hb).1
  have hnew : (plan.brackets.filter fun b =>
        b.acquire = stage ∧ b.release ∉ entered ++ [stage]) =
      (plan.brackets.filter fun b => b.acquire = stage).filter fun b => b.release ≠ stage := by
    rw [List.filter_filter]
    refine List.filter_congr fun b hb => ?_
    rw [← Bool.decide_and, decide_eq_decide, and_comm]
    refine and_congr_left fun hacquire => ?_
    have hfresh : b.release ∉ entered ++ [stage] :=
      hacquire ▸ hplan.release_notMem hb (hacquire ▸ hinitial)
    have hne : b.release ≠ stage := fun h => hfresh (by simp [h])
    exact iff_of_true hfresh hne
  have hold : (entered.reverse.flatMap fun first => plan.brackets.filter fun b =>
      b.acquire = first ∧ b.release ∉ entered ++ [stage]) =
        (plan.pending entered).filter fun b => b.release ≠ stage := by
    rw [pending, List.filter_flatMap]
    refine List.flatMap_congr fun first _ => ?_
    rw [List.filter_filter]
    refine List.filter_congr fun b _ => ?_
    rw [← Bool.decide_and, decide_eq_decide, List.mem_append, List.mem_singleton]
    tauto
  rw [hplan.enterBrackets_eq stage hopened, List.filter_append, ← hnew, ← hold, pending]
  rw [List.reverse_append, List.reverse_singleton, List.singleton_append, List.flatMap_cons]

theorem pending_nodup (hplan : plan.WellFormed) (hentered : entered.Nodup) :
    (plan.pending entered).Nodup := by
  refine List.nodup_flatMap.mpr ⟨fun _ _ => hplan.brackets_nodup.filter _, ?_⟩
  refine (List.nodup_reverse.mpr hentered).imp fun {first second} hne b hfirst hsecond => ?_
  have hfirst : b.acquire = first := (of_decide_eq_true (List.mem_filter.mp hfirst).2).1
  have hsecond : b.acquire = second := (of_decide_eq_true (List.mem_filter.mp hsecond).2).1
  exact hne (hfirst.symm.trans hsecond)

/-- What closes pending brackets opens none. -/
theorem acquire_notMem_closing (hplan : plan.WellFormed) (hb : b ∈ plan.brackets) :
    b.acquire ∉ (plan.pending entered).map Bracket.release := by
  intro hmem
  obtain ⟨c, hc, heq⟩ := List.mem_map.mp hmem
  have hsame : c = b := hplan.eq_of_mem_ends (mem_pending.mp hc).1 hb c.release_mem_ends
    (heq ▸ b.acquire_mem_ends)
  have hordered := hplan.ordered b hb
  rw [← heq, hsame] at hordered
  exact Nat.lt_irrefl _ hordered

theorem closing_nodup (hplan : plan.WellFormed) (hentered : entered.Nodup) :
    ((plan.pending entered).map Bracket.release).Nodup := by
  refine List.Nodup.map_on (fun c hc d hd heq => ?_) (hplan.pending_nodup hentered)
  exact hplan.eq_of_release (mem_pending.mp hc).1 (mem_pending.mp hd).1 heq

/-- Closing what is pending enters no stage again. -/
theorem closed_nodup (hplan : plan.WellFormed) (hinitial : entered <+: plan.stages) :
    (entered ++ (plan.pending entered).map Bracket.release).Nodup := by
  have hentered : entered.Nodup := hplan.stages_nodup.sublist hinitial.sublist
  refine List.nodup_append.mpr ⟨hentered, hplan.closing_nodup hentered, ?_⟩
  rintro stage hstage closed hclosed rfl
  obtain ⟨b, hb, rfl⟩ := List.mem_map.mp hclosed
  exact (mem_pending.mp hb).2.2 hstage

/-- Once what is pending has been closed, a closing stage was entered once if its bracket was
opened, and not at all otherwise. -/
theorem count_release (hplan : plan.WellFormed) (hinitial : entered <+: plan.stages)
    (hb : b ∈ plan.brackets) :
    (entered ++ (plan.pending entered).map Bracket.release).count b.release =
      if b.acquire ∈ entered ++ (plan.pending entered).map Bracket.release then 1 else 0 := by
  rw [(hplan.closed_nodup hinitial).count]
  refine if_congr ?_ rfl rfl
  rw [List.mem_append, List.mem_append, or_iff_left (hplan.acquire_notMem_closing hb)]
  constructor
  · rintro (hentered | hclosed)
    · exact hplan.acquire_mem hinitial hb hentered
    · obtain ⟨c, hc, heq⟩ := List.mem_map.mp hclosed
      obtain ⟨hbracket, hopened, -⟩ := mem_pending.mp hc
      exact hplan.eq_of_release hbracket hb heq ▸ hopened
  · intro hopened
    by_cases hentered : b.release ∈ entered
    · exact .inl hentered
    · exact .inr (List.mem_map_of_mem (mem_pending.mpr ⟨hb, hopened, hentered⟩))

end WellFormed

end Plan

end StagedFlow
