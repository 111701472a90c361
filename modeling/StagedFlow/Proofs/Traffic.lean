import StagedFlow.Demo.Plugin
import StagedFlow.Proofs.Refusals
import StagedFlow.Proofs.Underway
import StagedFlow.Tool.Flows

/-!
# Traffic on a server that limits its calls

Any number of calls go on side by side on a limited server, permits are held outside of them, and
all kinds of things happen to the world that are not about permits. The permits that are in use are
those of the calls that hold one and those held outside, however the turns of the calls fall.

Two facts about one call carry this. In its own turns it accounts for every permit, whatever was
done to the world since its last one, so that the sum of the free permits, the holders and the
permits held outside stays what it was. And its record is the first part of the record of a whole
call, from which the order of its marks follows: a request comes before all else about permits, so
that it finds just the permits that were free when the turn began.
-/

namespace StagedFlow

variable {X L : Type}

abbrev TrackedCall (X L : Type) := Party (World L) (Marks X L) (Except FlowFault Outcome)

structure Traffic (X L : Type) where
  pool : Pool (World L) (Marks X L) (Except FlowFault Outcome)
  outside : Nat

namespace Traffic

/-- What happens on the server: a turn of a call; a permit is taken outside, if one is free, or
given back; or anything else that leaves the permits alone. -/
inductive Move (L : Type) where
  | resume (i : Nat)
  | hold
  | give
  | other (change : World L → World L)

def step (traffic : Traffic X L) : Move L → Traffic X L
  | .resume i => { traffic with pool := traffic.pool.step (.resume i) }
  | .hold =>
    if traffic.pool.world.permits = 0 then traffic
    else ⟨traffic.pool.step (.outside World.takePermit), traffic.outside + 1⟩
  | .give =>
    if traffic.outside = 0 then traffic
    else ⟨traffic.pool.step (.outside World.givePermit), traffic.outside - 1⟩
  | .other change =>
    { traffic with
      pool := traffic.pool.step (.outside fun w => { change w with permits := w.permits }) }

def run (traffic : Traffic X L) (moves : List (Move L)) : Traffic X L := moves.foldl step traffic

def start {K : Type} {V : K → Type} (behave : X → ToolM X L Unit)
    (inst : Instance K V (World L) (Handler X L)) (place : Nat)
    (calls : List (Json × CallState X L)) (w : World L) : Traffic X L :=
  ⟨.launch (calls.map fun call =>
    (inst.recorded place).run (toolPlatform behave).recorded call.1 call.2) [] w, 0⟩

def holders (traffic : Traffic X L) : Nat :=
  traffic.pool.parties.countP fun party => holding party.record

def Ended (traffic : Traffic X L) : Prop :=
  ∀ party ∈ traffic.pool.parties, ∃ outcome, party.Ends outcome

section Step

variable {traffic : Traffic X L}

theorem run_append (traffic : Traffic X L) (before later : List (Move L)) :
    traffic.run (before ++ later) = (traffic.run before).run later :=
  List.foldl_append

/-- A move is a step of the pool, or nothing happens. -/
theorem exists_schedule_step (traffic : Traffic X L) (move : Move L) :
    ∃ schedule, (traffic.step move).pool = traffic.pool.run schedule := by
  cases move with
  | resume i => exact ⟨[.resume i], rfl⟩
  | hold =>
    rw [step]
    split
    · exact ⟨[], rfl⟩
    · exact ⟨[.outside World.takePermit], rfl⟩
  | give =>
    rw [step]
    split
    · exact ⟨[], rfl⟩
    · exact ⟨[.outside World.givePermit], rfl⟩
  | other change => exact ⟨[.outside fun w => { change w with permits := w.permits }], rfl⟩

theorem exists_schedule (traffic : Traffic X L) (moves : List (Move L)) :
    ∃ schedule, (traffic.run moves).pool = traffic.pool.run schedule := by
  induction moves generalizing traffic with
  | nil => exact ⟨[], rfl⟩
  | cons move rest ih =>
    obtain ⟨first, hfirst⟩ := traffic.exists_schedule_step move
    obtain ⟨later, hlater⟩ := ih (traffic.step move)
    refine ⟨first ++ later, ?_⟩
    rw [Pool.run_append, ← hfirst]
    exact hlater

/-- In a turn only the call whose turn it is can become or cease to be a holder. -/
theorem holders_resume {i : Nat} {party : TrackedCall X L}
    (h : traffic.pool.parties[i]? = some party) :
    (traffic.step (.resume i)).holders + (holding party.record).toNat =
      traffic.holders + (holding (party.resumed traffic.pool.world).record).toNat := by
  obtain ⟨hi, hget⟩ := List.getElem?_eq_some_iff.mp h
  have hcount := List.countP_set (p := fun party => holding party.record)
    (a := party.resumed traffic.pool.world) hi
  have hpos : holding party.record = true → 0 < traffic.holders := fun hholding =>
    List.countP_pos_iff.mpr ⟨party, List.mem_of_getElem? h, hholding⟩
  rw [hget] at hcount
  rw [step, holders, Pool.step_resume h]
  change List.countP _ (traffic.pool.parties.set i _) + _ = _
  rw [hcount]
  change traffic.holders - _ + _ + _ = _
  cases hbefore : holding party.record <;>
    cases holding (party.resumed traffic.pool.world).record <;> simp at hpos ⊢
  all_goals
    have := hpos hbefore
    omega

end Step

structure Sound (limit : CallLimit) (start : World L) (traffic : Traffic X L) : Prop where
  parties : ∀ party ∈ traffic.pool.parties, party.Guards .balance fun later => holding later = false
  total : traffic.pool.world.permits + traffic.holders + traffic.outside = limit.max
  world_eq : traffic.pool.world =
    (traffic.pool.journal.map Prod.snd).foldl (fun w change => change w) start
  always : traffic.pool.Always (fun w => w.permits ≤ limit.max) start

namespace Sound

variable {limit : CallLimit} {start : World L} {traffic : Traffic X L}

theorem permits_le (h : traffic.Sound limit start) : traffic.pool.world.permits ≤ limit.max := by
  have := h.total
  omega

/-- A change of the world from outside, with the permits that are held there. -/
theorem outside (h : traffic.Sound limit start) (change : World L → World L) (outside : Nat)
    (htotal : (change traffic.pool.world).permits + outside =
      traffic.pool.world.permits + traffic.outside) :
    Sound limit start ⟨traffic.pool.step (.outside change), outside⟩ := by
  have hsum := h.total
  have hnow : (change traffic.pool.world).permits + traffic.holders + outside = limit.max := by
    omega
  refine ⟨h.parties, hnow, Pool.world_run _ _ h.world_eq [.outside change], ?_⟩
  have hjournal : (traffic.pool.step (.outside change)).journal.map Prod.snd =
      traffic.pool.journal.map Prod.snd ++ [change] := List.map_append
  refine h.always.append h.world_eq hjournal fun before hbefore => ?_
  rcases List.prefix_cons_iff.mp hbefore with rfl | ⟨rest, rfl, hrest⟩
  · exact h.permits_le
  · rw [List.prefix_nil.mp hrest]
    change (change traffic.pool.world).permits ≤ limit.max
    omega

/-- What a turn of a call comes to. -/
theorem resume (h : traffic.Sound limit start) {i : Nat} {party : TrackedCall X L}
    (hparty : traffic.pool.parties[i]? = some party) :
    Balanced (traffic.pool.world, party.record)
        ((traffic.step (.resume i)).pool.world, (party.resumed traffic.pool.world).record) ∧
      (traffic.step (.resume i)).Sound limit start := by
  have hguards := h.parties party (List.mem_of_getElem? hparty)
  obtain ⟨hturn, hlater⟩ := hguards.turn traffic.pool.world
  have hsum := h.total
  have hbalanced : Balanced (traffic.pool.world, party.record)
      ((traffic.step (.resume i)).pool.world, (party.resumed traffic.pool.world).record) := by
    rw [step, Pool.step_resume hparty]
    exact hturn
  have htotal := hbalanced.total
  have hholders := holders_resume hparty
  have hholds : holding party.record = true → 0 < traffic.holders := fun hholding =>
    List.countP_pos_iff.mpr ⟨party, List.mem_of_getElem? hparty, hholding⟩
  refine ⟨hbalanced, ?_, ?_, Pool.world_run _ _ h.world_eq [.resume i], ?_⟩
  · rw [step, Pool.step_resume hparty]
    intro other hother
    rcases List.mem_or_eq_of_mem_set hother with hold | rfl
    · exact h.parties other hold
    · exact hlater
  · change (traffic.step (.resume i)).pool.world.permits + _ + traffic.outside = _
    simp only at htotal
    omega
  · have hjournal : (traffic.step (.resume i)).pool.journal.map Prod.snd =
        traffic.pool.journal.map Prod.snd ++
          party.task.made (traffic.pool.world, party.record) := by
      rw [step, Pool.step_resume hparty]
      simp [Function.comp_def]
    -- In the middle of the turn at most the permit of this call is free beside the others.
    refine h.always.append h.world_eq hjournal fun before hbefore => ?_
    have hmoment : _ ≤ traffic.pool.world.permits + (holding party.record).toNat :=
      hguards.moments traffic.pool.world hbefore
    cases hbefore : holding party.record with
    | false =>
      rw [hbefore] at hmoment
      simp at hmoment
      omega
    | true =>
      rw [hbefore] at hmoment
      have := hholds hbefore
      simp at hmoment
      omega

theorem step (h : traffic.Sound limit start) (move : Move L) :
    (traffic.step move).Sound limit start := by
  cases move with
  | resume i =>
    cases hparty : traffic.pool.parties[i]? with
    | none =>
      rw [Traffic.step, Pool.step_resume_of_none hparty]
      exact h
    | some party => exact (h.resume hparty).2
  | hold =>
    rw [Traffic.step]
    split
    · exact h
    · refine h.outside _ _ ?_
      simp only [World.takePermit]
      omega
  | give =>
    rw [Traffic.step]
    split
    · exact h
    · refine h.outside _ _ ?_
      simp only [World.givePermit]
      omega
  | other change => exact h.outside _ _ rfl

theorem run (h : traffic.Sound limit start) (moves : List (Move L)) :
    (traffic.run moves).Sound limit start := by
  induction moves generalizing traffic with
  | nil => exact h
  | cons move rest ih => exact ih (h.step move)

end Sound

section Calls

variable {K : Type} {V : K → Type} {behave : X → ToolM X L Unit}
  {inst : Instance K V (World L) (Handler X L)} {place : Nat}
  {calls : List (Json × CallState X L)} {limit : CallLimit} {w : World L}

/-- The states of calls that bring no permit, and if they bring a tool, one that leaves the permits
alone. -/
def Unladen (calls : List (Json × CallState X L)) : Prop :=
  ∀ call ∈ calls, CallFlow.Carries .sparing HookBinding.Custom call.2 ∧
    call.2.contains .permit = false

theorem sound_start (h : inst.Limited behave) (hcalls : Unladen calls)
    (hw : w.permits = limit.max) : (start behave inst place calls w).Sound limit w where
  parties party hparty v := by
    obtain ⟨task, htask, rfl⟩ := List.mem_map.mp hparty
    obtain ⟨call, hcall, rfl⟩ := List.mem_map.mp htask
    obtain ⟨hdeps, hpermit⟩ := hcalls call hcall
    exact h.holds_run place call.1 hdeps hpermit _ _ (.refl _)
  total := by
    have hnone : (start behave inst place calls w).holders = 0 := by
      refine List.countP_eq_zero.mpr fun party hparty => ?_
      obtain ⟨task, -, rfl⟩ := List.mem_map.mp hparty
      exact Bool.false_ne_true
    rw [hnone]
    exact hw
  world_eq := rfl
  always := by
    intro before hbefore
    rw [List.prefix_nil.mp hbefore]
    exact Nat.le_of_eq hw

/-- A call in traffic is on its way through a call of the flow. -/
theorem exists_setting (hcalls : Unladen calls) (moves : List (Move L)) {i : Nat}
    {party : TrackedCall X L}
    (hparty : ((start behave inst place calls w).run moves).pool.parties[i]? = some party) :
    ∃ setting : Setting (CallState X L) (World L),
      CallFlow.Carries .sparing HookBinding.Custom setting.deps ∧
      party.record <+: inst.record (toolPlatform behave) place setting ∧
      ∀ outcome, party.Ends outcome → outcome = inst.outcome (toolPlatform behave) setting := by
  obtain ⟨schedule, hschedule⟩ := (start behave inst place calls w).exists_schedule moves
  rw [hschedule] at hparty
  have hi : i < calls.length := by
    have hlt := (List.getElem?_eq_some_iff.mp hparty).1
    rw [Pool.length_run] at hlt
    simpa [start, Pool.launch] using hlt
  have htask := List.getElem?_map (f := fun call : Json × CallState X L =>
    (inst.recorded place).run (toolPlatform behave).recorded call.1 call.2) (l := calls) (i := i)
  rw [List.getElem?_eq_getElem hi, Option.map_some] at htask
  obtain ⟨setting, -, hdeps, hrecord, hends⟩ :=
    Pool.exists_setting htask w schedule hparty
  refine ⟨setting, ?_, hrecord, fun outcome houtcome => (hends outcome houtcome).1⟩
  rw [hdeps]
  exact (hcalls _ (List.getElem_mem hi)).1

theorem requestsFirst_record (h : inst.Admitting behave) (hcalls : Unladen calls)
    (moves : List (Move L)) {i : Nat} {party : TrackedCall X L}
    (hparty : ((start behave inst place calls w).run moves).pool.parties[i]? = some party) :
    RequestsFirst party.record := by
  obtain ⟨setting, hdeps, hrecord, -⟩ := exists_setting hcalls moves hparty
  exact (h.requestsFirst_record hdeps place).sublist hrecord.sublist

theorem refused_of_fired (h : inst.Admitting behave) (hcalls : Unladen calls)
    (moves : List (Move L)) {i : Nat} {party : TrackedCall X L}
    (hparty : ((start behave inst place calls w).run moves).pool.parties[i]? = some party)
    {firing : Firing (CallState X L) (Handler X L)} (hfiring : .fired firing ∈ party.record)
    (hacquires : firing.hook.handler.acquires = true) (hrefused : ¬ firing.Passes) :
    Refused party.record ∧
      ∀ outcome, party.Ends outcome → outcome = .ok (.failed (some Admission.refusal)) := by
  obtain ⟨setting, hdeps, hrecord, hends⟩ := exists_setting hcalls moves hparty
  obtain ⟨-, houtcome, hwhole⟩ :=
    h.outcome_of_refused hdeps (hrecord.subset hfiring) hacquires hrefused
  exact ⟨hwhole.of_isPrefix hrecord, fun outcome hend => (hends outcome hend).trans houtcome⟩

end Calls

/-! ### Requests in a turn -/

structure Turn (limit : CallLimit) (now later : Traffic X L)
    (record grown : Marks X L) : Prop where
  /-- The permits in use change by what the call has taken or given back. -/
  inFlight_eq : limit.inFlight later.pool.world + (holding record).toNat =
    limit.inFlight now.pool.world + (holding grown).toNat
  /-- A request is granted just if not all permits were in use. -/
  passes_iff : ∀ firing, .fired firing ∈ grown → .fired firing ∉ record →
    firing.hook.handler.acquires = true →
      (firing.Passes ↔ limit.inFlight now.pool.world < limit.max)
  /-- A request that is refused changes nothing. -/
  refused : ∀ firing, .fired firing ∈ grown → firing.hook.handler.acquires = true →
    ¬ firing.Passes → limit.inFlight later.pool.world = limit.inFlight now.pool.world

theorem takes_iff_passes {firing : Firing (CallState X L) (Handler X L)}
    (h : firing.hook.handler.acquires = true) :
    (Mark.fired firing).takes = true ↔ firing.Passes := by
  rw [Mark.takes, h, Bool.true_and, Firing.Passes]
  cases firing.result <;> simp [Except.isOk, Except.toBool]

section Turn

variable {K : Type} {V : K → Type} {behave : X → ToolM X L Unit}
  {inst : Instance K V (World L) (Handler X L)} {place : Nat}
  {calls : List (Json × CallState X L)} {limit : CallLimit} {w : World L}

theorem turn_resume (h : inst.Admitting behave) (hcalls : Unladen calls)
    (hw : w.permits = limit.max) (moves : List (Move L)) {i : Nat} {party : TrackedCall X L}
    (hparty : ((start behave inst place calls w).run moves).pool.parties[i]? = some party) :
    let now := (start behave inst place calls w).run moves
    Turn limit now (now.step (.resume i)) party.record (party.resumed now.pool.world).record := by
  intro now
  have hsound : now.Sound limit w := (sound_start h.toLimited hcalls hw).run moves
  obtain ⟨hbalanced, hlater⟩ := hsound.resume hparty
  have htotal := hbalanced.total
  have hnowLe := hsound.permits_le
  have hlaterLe := hlater.permits_le
  simp only at htotal
  have hnext : ((start behave inst place calls w).run (moves ++ [.resume i])).pool.parties[i]? =
      some (party.resumed now.pool.world) := by
    rw [run_append]
    exact Pool.getElem?_resume hparty
  have hrequests := requestsFirst_record h hcalls _ hnext
  constructor
  case inFlight_eq =>
    simp only [CallLimit.inFlight]
    omega
  case passes_iff =>
    intro firing hfiring hnew hacquires
    obtain ⟨made, hmade, hfair⟩ := hbalanced.fair
    simp only at hmade hfair
    rw [hmade] at hrequests hfiring
    have hmem : .fired firing ∈ made := (List.mem_append.mp hfiring).resolve_left hnew
    -- In this turn nothing about permits came before the request.
    have hnewRequests : RequestsFirst made := (List.pairwise_append.mp hrequests).2.1
    rw [Fair, hnewRequests.find?_matters hmem hacquires] at hfair
    rw [← takes_iff_passes hacquires, hfair hacquires, CallLimit.inFlight]
    omega
  case refused =>
    intro firing hfiring hacquires hrefused
    -- The call has held no permit before the turn, and it holds none after it.
    have hnever := (refused_of_fired h hcalls _ hnext hfiring hacquires hrefused).1.never
    obtain ⟨made, hmade, -⟩ := hbalanced.fair
    have hgrown := hnever _ (List.prefix_refl _)
    have hbefore : holding party.record = false := hnever _ ⟨made, hmade.symm⟩
    rw [hgrown, hbefore] at htotal
    simp only [CallLimit.inFlight]
    omega

end Turn

def after (traffic : Traffic X L) (moves : Nat → Move L) (n : Nat) : Traffic X L :=
  traffic.run ((List.range n).map moves)

theorem after_succ (traffic : Traffic X L) (moves : Nat → Move L) (n : Nat) :
    traffic.after moves (n + 1) = (traffic.after moves n).step (moves n) := by
  rw [after, List.range_succ, List.map_append, run_append]
  rfl

section Ends

variable {traffic : Traffic X L} {moves : Nat → Move L} {i : Nat}
  {party : TrackedCall X L}

theorem getElem?_step_of_ne {move : Move L} (hne : move ≠ .resume i) :
    (traffic.step move).pool.parties[i]? = traffic.pool.parties[i]? := by
  cases move with
  | resume j =>
    have hresumes : (Pool.Step.resume j : Pool.Step (World L)).resumes i = false := by
      refine beq_false_of_ne fun heq => hne ?_
      rw [heq]
    exact (traffic.pool.step_of_not_resumes hresumes).1
  | hold =>
    rw [step]
    split <;> rfl
  | give =>
    rw [step]
    split <;> rfl
  | other change => rfl

theorem eventually_ends (h : traffic.pool.parties[i]? = some party)
    (hfair : ∀ n, ∃ m, n ≤ m ∧ moves m = .resume i) :
    ∃ n, ∀ m, n ≤ m → ∃ later outcome,
      (traffic.after moves m).pool.parties[i]? = some later ∧ later.Ends outcome := by
  have hstays : ∀ n, ∃ later, (traffic.after moves n).pool.parties[i]? = some later := by
    intro n
    obtain ⟨schedule, hschedule⟩ := traffic.exists_schedule ((List.range n).map moves)
    rw [after, hschedule]
    obtain ⟨later, hlater, -⟩ := Pool.exists_run (P := fun _ => True) (fun _ _ _ => trivial) h
      trivial schedule
    exact ⟨later, hlater⟩
  choose parties hparties using hstays
  have hturn : ∀ n, moves n = .resume i →
      parties (n + 1) = (parties n).resumed (traffic.after moves n).pool.world := by
    intro n hn
    have hnext := hparties (n + 1)
    rw [after_succ, hn] at hnext
    exact Option.some.inj (hnext.symm.trans (Pool.getElem?_resume (hparties n)))
  have hstep : ∀ n, parties (n + 1) = parties n ∨ ∃ w, parties (n + 1) = (parties n).resumed w := by
    intro n
    by_cases hn : moves n = .resume i
    · exact .inr ⟨_, hturn n hn⟩
    · have hnext := hparties (n + 1)
      rw [after_succ, getElem?_step_of_ne hn, hparties n] at hnext
      exact .inl (Option.some.inj hnext).symm
  obtain ⟨n, outcome, hends⟩ := Party.eventually_ends hstep fun n => by
    obtain ⟨m, hnm, hm⟩ := hfair n
    exact ⟨m, hnm, _, hturn m hm⟩
  refine ⟨n, fun m hm => ⟨parties m, outcome, hparties m, ?_⟩⟩
  induction hm with
  | refl => exact hends
  | @step m _ ih =>
    rcases hstep m with hsame | ⟨w, hresumed⟩
    · rw [hsame]
      exact ih
    · rw [hresumed]
      exact ih.resumed w

/-- If every call has its turn again and again, all of them come to their ends. -/
theorem eventually_ended
    (hfair : ∀ i < traffic.pool.parties.length, ∀ n, ∃ m, n ≤ m ∧ moves m = .resume i) :
    ∃ n, ∀ m, n ≤ m → (traffic.after moves m).Ended := by
  have hlength : ∀ m,
      (traffic.after moves m).pool.parties.length = traffic.pool.parties.length := by
    intro m
    obtain ⟨schedule, hschedule⟩ := traffic.exists_schedule ((List.range m).map moves)
    rw [after, hschedule, Pool.length_run]
  -- The calls up to some place have ended from some time on.
  have hall : ∀ k ≤ traffic.pool.parties.length, ∃ n, ∀ m, n ≤ m → ∀ i < k, ∃ later outcome,
      (traffic.after moves m).pool.parties[i]? = some later ∧ later.Ends outcome := by
    intro k hk
    induction k with
    | zero => exact ⟨0, fun _ _ i hi => absurd hi (Nat.not_lt_zero i)⟩
    | succ k ih =>
      obtain ⟨n, hn⟩ := ih (Nat.le_of_succ_le hk)
      obtain ⟨n', hn'⟩ := eventually_ends (List.getElem?_eq_getElem hk) (hfair k hk)
      refine ⟨max n n', fun m hm i hi => ?_⟩
      rcases Nat.lt_succ_iff_lt_or_eq.mp hi with hlt | rfl
      · exact hn m (Nat.le_trans (Nat.le_max_left n n') hm) i hlt
      · exact hn' m (Nat.le_trans (Nat.le_max_right n n') hm)
  obtain ⟨n, hn⟩ := hall _ (Nat.le_refl _)
  refine ⟨n, fun m hm party hparty => ?_⟩
  obtain ⟨i, hi, rfl⟩ := List.getElem_of_mem hparty
  obtain ⟨later, outcome, hlater, hends⟩ := hn m hm i (hlength m ▸ hi)
  rw [List.getElem?_eq_getElem hi] at hlater
  exact ⟨outcome, Option.some.inj hlater ▸ hends⟩

end Ends

/-! ### What holds at any time -/

/-- What holds of the traffic at any time. -/
structure Accounts (limit : CallLimit) (start : World L) (traffic : Traffic X L) : Prop where
  /-- The permits in use are those of the calls that hold one and those held outside. -/
  inFlight_eq : limit.inFlight traffic.pool.world = traffic.holders + traffic.outside
  holders_le : traffic.holders + traffic.outside ≤ limit.max
  /-- At no moment so far were more permits free than there are. -/
  always : traffic.pool.Always (fun w => w.permits ≤ limit.max) start
  /-- When every call has ended, in whatever way, only permits held outside are in use. -/
  ended : traffic.Ended → limit.inFlight traffic.pool.world = traffic.outside
  /-- A call that was refused a permit fails with the reason; its tool is not run, and it never had
  a permit. -/
  refused : ∀ party ∈ traffic.pool.parties, ∀ firing, .fired firing ∈ party.record →
    firing.hook.handler.acquires = true → ¬ firing.Passes → Refused party.record ∧
      ∀ outcome, party.Ends outcome → outcome = .ok (.failed (some Admission.refusal))
  turns : ∀ i party, traffic.pool.parties[i]? = some party →
    Turn limit traffic (traffic.step (.resume i)) party.record
      (party.resumed traffic.pool.world).record

theorem accounts_run {K : Type} {V : K → Type} {behave : X → ToolM X L Unit}
    {inst : Instance K V (World L) (Handler X L)} (h : inst.Admitting behave) (place : Nat)
    {calls : List (Json × CallState X L)} (hcalls : Unladen calls) {limit : CallLimit} {w : World L}
    (hw : w.permits = limit.max) (moves : List (Move L)) :
    ((start behave inst place calls w).run moves).Accounts limit w := by
  have hsound : ((start behave inst place calls w).run moves).Sound limit w :=
    (sound_start h.toLimited hcalls hw).run moves
  have htotal := hsound.total
  constructor
  case inFlight_eq =>
    rw [CallLimit.inFlight]
    omega
  case holders_le => omega
  case always => exact hsound.always
  case ended =>
    intro hended
    have hnone : ((start behave inst place calls w).run moves).holders = 0 := by
      refine List.countP_eq_zero.mpr fun party hparty => ?_
      obtain ⟨outcome, hends⟩ := hended party hparty
      rw [(hsound.parties party hparty).of_ends hends w]
      exact Bool.false_ne_true
    rw [CallLimit.inFlight]
    omega
  case refused =>
    intro party hparty firing hfiring hacquires hrefused
    obtain ⟨i, hi, rfl⟩ := List.getElem_of_mem hparty
    exact refused_of_fired h hcalls moves (List.getElem?_eq_getElem hi) hfiring hacquires hrefused
  case turns => exact fun i party hparty => turn_resume h hcalls hw moves hparty

end Traffic

end StagedFlow
