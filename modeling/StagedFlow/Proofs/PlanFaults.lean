import StagedFlow.Proofs.Checks
import StagedFlow.Proofs.Plans

/-!
# What is wrong with a plan

Validation goes through the stages of a plan and then through its brackets, and stops at the first
thing it minds. Here that is said without a scan. The stages must be distinct. A bracket must have
two stages of its own, which no bracket before it has, and both must be in the plan, the opening one
first. Where one bracket goes wrong in several ways, a stage that is taken counts before one that is
missing, and this before the wrong order.

Each of these faults is reported exactly if it is the first one, and none is reported exactly if
the plan has none, so the two lists of conditions leave nothing out and do not overlap.
-/

namespace StagedFlow

/-- Among distinct stages, one comes before another exactly if its position does. -/
theorem pair_sublist_iff {stages : List Stage} (hstages : stages.Nodup) {a b : Stage}
    (hne : a ≠ b) :
    [a, b].Sublist stages ↔ b ∈ stages ∧ stages.idxOf a < stages.idxOf b := by
  induction stages with
  | nil => simp
  | cons first rest ih =>
    obtain ⟨hfirst, hrest⟩ := List.nodup_cons.mp hstages
    rw [List.idxOf_cons, List.idxOf_cons]
    by_cases ha : first = a
    · subst ha
      have hb : (first == b) = false := beq_eq_false_iff_ne.mpr hne
      simp [hb, hne.symm]
    · have hsublist : [a, b].Sublist (first :: rest) ↔ [a, b].Sublist rest :=
        List.sublist_cons_iff.trans (or_iff_left fun ⟨_, heq, _⟩ => ha (List.cons.inj heq).1.symm)
      have ha : (first == a) = false := beq_eq_false_iff_ne.mpr ha
      rw [hsublist, ih hrest, ha]
      by_cases hb : first = b
      · subst hb
        simp [hfirst]
      · have hb' : b ≠ first := fun h => hb h.symm
        simp [hb', beq_eq_false_iff_ne.mpr hb]

namespace Bracket

structure Apart (used : List Stage) (bracket : Bracket) : Prop where
  acquire_notMem : bracket.acquire ∉ used
  release_notMem : bracket.release ∉ used
  ne : bracket.acquire ≠ bracket.release

/-- What is wrong with a bracket, given the stages of the plan and those that the brackets before it
have taken. -/
inductive FaultOf (stages used : List Stage) (bracket : Bracket) : PlanFault → Prop
  | overlap {stage : Stage}
      (taken : IsFirst (fun stage => stage ∈ used ∨ bracket.acquire = bracket.release)
        bracket.ends stage) :
      FaultOf stages used bracket (.overlappingBracket stage)
  | unknown {stage : Stage} (apart : bracket.Apart used)
      (missing : IsFirst (· ∉ stages) bracket.ends.reverse stage) :
      FaultOf stages used bracket (.unknownStage stage)
  | backwards (apart : bracket.Apart used) (turned : bracket.ends.reverse.Sublist stages) :
      FaultOf stages used bracket (.releaseBeforeAcquire bracket)

variable {stages used : List Stage} {bracket : Bracket}

/-- A bracket has stages of its own, or one that it must not have. -/
theorem apart_or_overlap (used : List Stage) (bracket : Bracket) :
    bracket.Apart used ∨ ∃ stage,
      IsFirst (fun stage => stage ∈ used ∨ bracket.acquire = bracket.release) bracket.ends
        stage := by
  by_cases hacquire : bracket.acquire ∈ used ∨ bracket.acquire = bracket.release
  · exact .inr ⟨_, IsFirst.cons_iff.mpr (.inl ⟨hacquire, rfl⟩)⟩
  by_cases hrelease : bracket.release ∈ used
  · exact .inr ⟨_, IsFirst.cons_iff.mpr (.inr ⟨hacquire, IsFirst.cons_iff.mpr
      (.inl ⟨.inl hrelease, rfl⟩)⟩)⟩
  · obtain ⟨hacquire, hne⟩ := not_or.mp hacquire
    exact .inl ⟨hacquire, hrelease, hne⟩

end Bracket

namespace Plan

variable {stages used : List Stage} {bracket : Bracket}

/-- A bracket with stages of its own is judged by where they are. -/
theorem checkBracket_of_apart (hapart : bracket.Apart used) :
    checkBracket stages used bracket =
      if bracket.release ∉ stages then .error (.unknownStage bracket.release)
      else if bracket.acquire ∉ stages then .error (.unknownStage bracket.acquire)
      else if stages.idxOf bracket.release < stages.idxOf bracket.acquire then
        .error (.releaseBeforeAcquire bracket)
      else .ok () := by
  rw [checkBracket, if_neg (by simpa using ⟨hapart.acquire_notMem, hapart.ne⟩),
    if_neg (by simpa using hapart.release_notMem), position?_eq, position?_eq]
  by_cases hrelease : bracket.release ∈ stages
  · by_cases hacquire : bracket.acquire ∈ stages
    · simp only [hrelease, hacquire, if_true, not_true, if_false]
      rfl
    · simp only [hrelease, hacquire, if_true, if_false, not_true, not_false_iff]
      rfl
  · simp only [hrelease, if_true, if_false, not_false_iff]
    rfl

/-- A bracket with a fault is rejected for it. -/
theorem checkBracket_of_fault (hstages : stages.Nodup) {fault : PlanFault}
    (hfault : bracket.FaultOf stages used fault) :
    checkBracket stages used bracket = .error fault := by
  cases hfault with
  | overlap taken =>
    rw [checkBracket]
    rcases IsFirst.cons_iff.mp taken with ⟨hacquire, rfl⟩ | ⟨hacquire, taken⟩
    · rw [if_pos (by simpa using hacquire)]
      rfl
    · rw [if_neg (by simpa using hacquire)]
      rcases IsFirst.cons_iff.mp taken with ⟨hrelease, rfl⟩ | ⟨-, taken⟩
      · have hrelease := hrelease.resolve_right (not_or.mp hacquire).2
        rw [if_pos (by simpa using hrelease)]
        rfl
      · exact absurd taken IsFirst.not_nil
  | unknown apart missing =>
    rw [checkBracket_of_apart apart]
    rcases IsFirst.cons_iff.mp missing with ⟨hrelease, rfl⟩ | ⟨hrelease, missing⟩
    · rw [if_pos hrelease]
    · rw [if_neg hrelease]
      rcases IsFirst.cons_iff.mp missing with ⟨hacquire, rfl⟩ | ⟨-, missing⟩
      · rw [if_pos hacquire]
      · exact absurd missing IsFirst.not_nil
  | backwards apart turned =>
    have hrelease : bracket.release ∈ stages := turned.subset (by simp [Bracket.ends])
    have hturned : [bracket.release, bracket.acquire].Sublist stages := turned
    obtain ⟨hacquire, hlt⟩ := (pair_sublist_iff hstages apart.ne.symm).mp hturned
    rw [checkBracket_of_apart apart, if_neg (not_not.mpr hrelease), if_neg (not_not.mpr hacquire),
      if_pos hlt]

/-- A bracket that is rejected has a fault. -/
theorem exists_faulty_checkBracket (hstages : stages.Nodup)
    (hcheck : checkBracket stages used bracket ≠ .ok ()) :
    ∃ fault, bracket.FaultOf stages used fault := by
  rcases Bracket.apart_or_overlap used bracket with hapart | ⟨stage, htaken⟩
  · rw [checkBracket_of_apart hapart] at hcheck
    by_cases hrelease : bracket.release ∈ stages
    · by_cases hacquire : bracket.acquire ∈ stages
      · have hlt : stages.idxOf bracket.release < stages.idxOf bracket.acquire := by
          by_contra hle
          simp [hrelease, hacquire, hle] at hcheck
        exact ⟨_, .backwards hapart
          ((pair_sublist_iff hstages hapart.ne.symm).mpr ⟨hacquire, hlt⟩)⟩
      · exact ⟨_, .unknown hapart (IsFirst.cons_iff.mpr (.inr ⟨not_not.mpr hrelease,
          IsFirst.cons_iff.mpr (.inl ⟨hacquire, rfl⟩)⟩))⟩
    · exact ⟨_, .unknown hapart (IsFirst.cons_iff.mpr (.inl ⟨hrelease, rfl⟩))⟩
  · exact ⟨_, .overlap htaken⟩

/-- A bracket is rejected for exactly the fault that it has. -/
theorem checkBracket_eq_error_iff (hstages : stages.Nodup) (fault : PlanFault) :
    checkBracket stages used bracket = .error fault ↔ bracket.FaultOf stages used fault := by
  refine ⟨fun hcheck => ?_, checkBracket_of_fault hstages⟩
  obtain ⟨other, hother⟩ := exists_faulty_checkBracket hstages (by rw [hcheck]; nofun)
  have heq := checkBracket_of_fault hstages hother
  rw [hcheck] at heq
  exact Except.error.inj heq ▸ hother

structure Paired (stages : List Stage) (brackets : List Bracket) : Prop where
  ordered : ∀ bracket ∈ brackets, bracket.ends.Sublist stages
  ends_nodup : (brackets.flatMap Bracket.ends).Nodup

theorem checkBrackets_eq_ok_iff_paired (hstages : stages.Nodup) (brackets : List Bracket) :
    checkBrackets stages [] brackets = .ok () ↔ Paired stages brackets := by
  have hbrackets : checkBrackets stages [] brackets = .ok () ↔ _ :=
    checkBrackets_eq_ok_iff List.nodup_nil brackets
  rw [hbrackets, List.nil_append]
  have hordered (hends : (brackets.flatMap Bracket.ends).Nodup) {b : Bracket}
      (hb : b ∈ brackets) : b.ends.Sublist stages ↔
        b.release ∈ stages ∧ stages.idxOf b.acquire < stages.idxOf b.release := by
    have hne : b.ends.Nodup := (List.nodup_flatMap.mp hends).1 b hb
    exact pair_sublist_iff hstages (by simpa [Bracket.ends] using hne)
  constructor
  · rintro ⟨hplaces, hends⟩
    exact ⟨fun b hb => (hordered hends hb).mpr (hplaces b hb), hends⟩
  · rintro ⟨hplaces, hends⟩
    exact ⟨fun b hb => (hordered hends hb).mp (hplaces b hb), hends⟩

/-- Brackets are rejected as the first one that is, after those before it have passed. -/
theorem checkBrackets_eq_error_iff (brackets : List Bracket) (fault : PlanFault) :
    checkBrackets stages used brackets = .error fault ↔
      ∃ before b after, brackets = before ++ b :: after ∧
        checkBrackets stages used before = .ok () ∧
          checkBracket stages (used ++ before.flatMap Bracket.ends) b = .error fault := by
  induction brackets generalizing used with
  | nil =>
    refine ⟨nofun, fun ⟨before, b, after, hsplit, _⟩ => ?_⟩
    exact absurd hsplit.symm (by simp)
  | cons first rest ih =>
    rw [exists_cons_eq_append, checkBrackets]
    cases hcheck : checkBracket stages used first with
    | error other =>
      simp [checkBrackets, hcheck, bind, Except.bind]
    | ok _ =>
      simp [checkBrackets, hcheck, bind, Except.bind, ih, Bracket.ends]

/-! ### Stages and brackets -/

/-- The first stage that repeats another one. -/
theorem firstRepeat?_eq_some_iff {seen : List Stage} (hseen : seen.Nodup) (stages : List Stage)
    (stage : Stage) :
    firstRepeat? seen stages = some stage ↔
      ∃ before again after, stages = before ++ again :: after ∧
        (seen ++ before).Nodup ∧ again ∈ seen ++ before ∧ again = stage := by
  induction stages generalizing seen with
  | nil =>
    refine ⟨nofun, fun ⟨before, again, after, hsplit, _⟩ => ?_⟩
    exact absurd hsplit.symm (by simp)
  | cons first rest ih =>
    rw [exists_cons_eq_append, firstRepeat?]
    by_cases hmem : first ∈ seen
    · have hlater (before : List Stage) : ¬ (seen ++ first :: before).Nodup := fun hnodup =>
        List.disjoint_of_nodup_append hnodup hmem List.mem_cons_self
      simp [hmem, hseen, hlater]
    · have hnext : (seen ++ [first]).Nodup := List.concat_eq_append ▸ hseen.concat hmem
      rw [if_neg (by simpa using hmem), ih hnext]
      simp [hmem]

/-- What is wrong with a plan first: a stage that repeats one before it, or, if there is none, a
fault of a bracket after brackets that are right. -/
inductive FirstFault (plan : Plan) : PlanFault → Prop
  | repeated {before after : List Stage} {stage : Stage}
      (split : plan.stages = before ++ stage :: after) (distinct : before.Nodup)
      (again : stage ∈ before) :
      FirstFault plan (.duplicateStage stage)
  | bracket {before after : List Bracket} {bracket : Bracket} {fault : PlanFault}
      (distinct : plan.stages.Nodup) (split : plan.brackets = before ++ bracket :: after)
      (paired : Paired plan.stages before)
      (faulty : bracket.FaultOf plan.stages (before.flatMap Bracket.ends) fault) :
      FirstFault plan fault

/-- **Validation is exact.** A plan, whatever calls have built it up, passes if and only if its
stages, in the order in which the four phases run them, are distinct, every bracket opens at one of
them and closes at a later one, and no stage is in two brackets or at both ends of one. A plan that
does not pass is rejected for what is wrong with it first, and for nothing else. A stage that
repeats an earlier one comes before all brackets. Of the brackets the first one counts that goes
wrong next to those declared before it, with a stage that is taken before one that is missing, and
this before the wrong order. -/
theorem validate_decides (plan : Plan) :
    (plan.validate = .ok () ↔ plan.stages.Nodup ∧ Paired plan.stages plan.brackets) ∧
      ∀ fault, plan.validate = .error fault ↔ plan.FirstFault fault := by
  have hnone := firstRepeat?_eq_none_iff List.nodup_nil plan.stages
  have hsome := firstRepeat?_eq_some_iff List.nodup_nil plan.stages
  simp only [List.nil_append] at hnone hsome
  rw [validate]
  cases hfound : firstRepeat? [] plan.stages with
  | some stage =>
    have hrepeats : ¬ plan.stages.Nodup := fun h => by rw [hnone.mpr h] at hfound; cases hfound
    refine ⟨iff_of_false (by rintro ⟨⟩) fun h => hrepeats h.1,
      fun fault => ⟨fun h => ?_, fun h => ?_⟩⟩
    · obtain ⟨before, _, after, hsplit, hdistinct, hagain, rfl⟩ := (hsome stage).mp hfound
      exact Except.error.inj h ▸ .repeated hsplit hdistinct hagain
    · cases h with
      | repeated split distinct again =>
        have hfirst := (hsome _).mpr ⟨_, _, _, split, distinct, again, rfl⟩
        rw [hfound] at hfirst
        rw [Option.some.inj hfirst]
      | bracket distinct => exact absurd distinct hrepeats
  | none =>
    have hdistinct := hnone.mp hfound
    refine ⟨?_, fun fault => ?_⟩
    · rw [and_iff_right hdistinct]
      exact checkBrackets_eq_ok_iff_paired hdistinct plan.brackets
    · refine (checkBrackets_eq_error_iff plan.brackets fault).trans ⟨?_, fun h => ?_⟩
      · rintro ⟨before, b, after, hsplit, hbefore, hb⟩
        rw [List.nil_append, checkBracket_eq_error_iff hdistinct] at hb
        exact .bracket hdistinct hsplit ((checkBrackets_eq_ok_iff_paired hdistinct _).mp hbefore) hb
      · cases h with
        | repeated split distinct again =>
          have hfirst := (hsome _).mpr ⟨_, _, _, split, distinct, again, rfl⟩
          rw [hfound] at hfirst
          cases hfirst
        | bracket distinct split paired faulty =>
          exact ⟨_, _, _, split, (checkBrackets_eq_ok_iff_paired distinct _).mpr paired,
            (checkBracket_eq_error_iff distinct _).mpr faulty⟩

/-- Both brackets are wrong, and the first one lacks both of its stages. -/
example : (Plan.mk ["open", "work"] [] [] ["close"]
    [⟨"lock", "unlock"⟩, ⟨"close", "open"⟩]).validate = .error (.unknownStage "unlock") := rfl

end Plan

end StagedFlow
