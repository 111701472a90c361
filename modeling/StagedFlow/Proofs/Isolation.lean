import StagedFlow.Proofs.Access
import StagedFlow.Proofs.Dispatching
import StagedFlow.Proofs.Interleaving
import StagedFlow.Proofs.Sharing

/-!
# Calls side by side keep apart

Hooks may be secluded: they read nothing of the world, though they may write to it. What such hooks
do in one turn is the same in every world, except that a call learns its identity when it starts. So
a call in a pool of calls goes, turn by turn, as it does alone: it is in the same state, it leaves
the same record, and it does the same to the world.
-/

namespace StagedFlow

variable {K : Type} {V : K → Type} {S W G H α : Type}

namespace Task

def Manner.secluded : Manner W := ⟨fun _ => True, False⟩

def Manner.blind : Manner (W × G) :=
  ⟨fun change => ∃ onWorld onRecord, change = Prod.map onWorld onRecord, False⟩

/-- What a blind task does in a turn is the same in every world. -/
theorem Keeps.turn_eq {Q : α → Prop} {t : Task (W × G) α} (h : t.Keeps .blind Q) (g : G)
    (w w' : W) :
    (t.poll (w, g)).1 = (t.poll (w', g)).1 ∧ (t.poll (w, g)).2.2 = (t.poll (w', g)).2.2 ∧
      t.made (w, g) = t.made (w', g) := by
  induction h generalizing g w w' with
  | done _ => exact ⟨rfl, rfl, rfl⟩
  | @act change next hchange hlooks _ ih =>
    obtain ⟨onWorld, onRecord, rfl⟩ := hchange
    have hnext : next (w, g) = next (w', g) := hlooks.resolve_left not_false _ _
    obtain ⟨htask, hrecord, hmade⟩ := ih (w', g) (onRecord g) (onWorld w) (onWorld w')
    simp only [Task.poll, made, Prod.map_apply, hnext]
    exact ⟨htask, hrecord, congrArg _ hmade⟩
  | pause _ => exact ⟨rfl, rfl, rfl⟩

end Task

namespace Pool

variable {pool : Pool W G α} {i j : Nat} {party : Party W G α}

/-- The world in which a party goes on first, or the last one if it does not go on. -/
def first (pool : Pool W G α) (i : Nat) (schedule : List (Step W)) : W :=
  (pool.run (schedule.takeWhile fun step => !step.resumes i)).world

def turns (pool : Pool W G α) (n : Nat) : Pool W G α := pool.run (List.replicate n (.resume 0))

theorem turns_succ (pool : Pool W G α) (n : Nat) :
    pool.turns (n + 1) = (pool.step (.resume 0)).turns n :=
  rfl

theorem resumed_eq_of_blind (party : Party W G α) (hblind : party.task.Keeps .blind fun _ => True)
    (w w' : W) :
    party.resumed w = party.resumed w' ∧
      party.task.made (w, party.record) = party.task.made (w', party.record) := by
  obtain ⟨htask, hrecord, hmade⟩ := hblind.turn_eq party.record w w'
  exact ⟨by rw [Party.resumed, Party.resumed, htask, hrecord], hmade⟩

/-- A party that is blind once it has been given a name has the same first turn in all worlds that
give it the same name. -/
theorem resumed_eq_of_named {κ : Type} {name : W → κ} {body : κ → Task (W × G) α} {record : G}
    (hblind : ∀ k, (body k).Keeps .blind fun _ => True) :
    let party : Party W G α := ⟨Task.look.bind fun w => body (name w.1), record⟩
    (∀ w, (party.resumed w).task.Keeps .blind fun _ => True) ∧
      ∀ w w', name w = name w' → party.resumed w = party.resumed w' ∧
        party.task.made (w, record) = party.task.made (w', record) := by
  intro party
  refine ⟨fun w => (hblind (name w)).poll (w, record), fun w w' hname => ?_⟩
  have hbody : ∀ v, party.resumed v = (⟨body (name v), record⟩ : Party W G α).resumed v ∧
      party.task.made (v, record) = id :: (body (name v)).made (v, record) := fun _ => ⟨rfl, rfl⟩
  obtain ⟨hresumed, hmade⟩ := resumed_eq_of_blind ⟨body (name w), record⟩ (hblind (name w)) w w'
  rw [(hbody w).1, (hbody w).2, (hbody w').1, (hbody w').2, ← hname]
  exact ⟨hresumed, congrArg _ hmade⟩

/-- A party that is blind after its first turn goes in any pool as it goes alone, turn by turn, if
its first turn is the same there. -/
theorem exists_share_eq {lone : Pool W G α}
    (hblind : ∀ w, (party.resumed w).task.Keeps .blind fun _ => True)
    (hparty : pool.parties[i]? = some party) (hlone : lone.parties[0]? = some party)
    (schedule : List (Step W))
    (hfirst : party.resumed (pool.first i schedule) = party.resumed lone.world ∧
      party.task.made (pool.first i schedule, party.record) =
        party.task.made (lone.world, party.record)) :
    (pool.run schedule).parties[i]? = (lone.turns (schedule.countP (·.resumes i))).parties[0]? ∧
      ∃ made, (pool.run schedule).share i = pool.share i ++ made ∧
        (lone.turns (schedule.countP (·.resumes i))).share 0 = lone.share 0 ++ made := by
  induction schedule generalizing pool lone party with
  | nil => exact ⟨hparty.trans hlone.symm, [], by simp [run, turns]⟩
  | cons step rest ih =>
    cases hresumes : step.resumes i with
    | false =>
      have hlater : pool.first i (step :: rest) = (pool.step step).first i rest := by
        rw [first, List.takeWhile_cons_of_pos (by simp [hresumes])]
        rfl
      obtain ⟨hsame, hshare⟩ := pool.step_of_not_resumes hresumes
      rw [hlater] at hfirst
      rw [List.countP_cons_of_neg (by simp [hresumes])]
      obtain ⟨heq, made, hmade, hrest⟩ := ih hblind (hsame.trans hparty) hlone hfirst
      exact ⟨heq, made, hmade.trans (by rw [hshare]), hrest⟩
    | true =>
      obtain rfl := eq_of_resumes hresumes
      have hnow : pool.first i (.resume i :: rest) = pool.world := by
        rw [first, List.takeWhile_cons_of_neg (by simp [hresumes])]
        rfl
      rw [hnow] at hfirst
      rw [List.countP_cons_of_pos hresumes, turns_succ]
      -- After this turn the party is blind, so that its next one is the same in every world.
      have hrest := hblind pool.world
      obtain ⟨heq, later, hlater, hlaterLone⟩ := ih (fun w => hrest.poll _)
        (getElem?_resume hparty) (hfirst.1 ▸ getElem?_resume hlone)
        (resumed_eq_of_blind _ hrest _ _)
      refine ⟨heq, party.task.made (pool.world, party.record) ++ later, ?_, ?_⟩
      · rw [← List.append_assoc, ← share_resume hparty]
        exact hlater
      · rw [hfirst.2, ← List.append_assoc, ← share_resume hlone]
        exact hlaterLone

theorem run_turns (pool : Pool W G α) {party : Party W G α} (h : pool.parties[0]? = some party)
    (n : Nat) :
    ∃ later, (pool.turns n).parties[0]? = some later ∧
      later.task.run ((pool.turns n).world, later.record) =
        party.task.run (pool.world, party.record) := by
  induction n generalizing pool party with
  | zero => exact ⟨party, h, rfl⟩
  | succ n ih =>
    rw [turns_succ]
    obtain ⟨later, hlater, hrun⟩ := ih _ (getElem?_resume h)
    refine ⟨later, hlater, hrun.trans ?_⟩
    have hpoll := party.task.run_poll (pool.world, party.record)
    rw [step_resume h]
    exact hpoll

end Pool

namespace Task

def pauses : Task W α → W → Nat
  | done _, _ => 0
  | act change next, w => (next w).pauses (change w)
  | pause next, w => next.pauses w + 1

/-- A turn ends the task or uses up one of its pauses. -/
theorem poll_eq_done_or_pauses_lt (t : Task W α) (w : W) :
    (∃ a, (t.poll w).1 = .done a) ∨ (t.poll w).1.pauses (t.poll w).2 < t.pauses w := by
  induction t generalizing w with
  | done a => exact .inl ⟨a, rfl⟩
  | act change next ih => exact ih w (change w)
  | pause next ih => exact .inr (Nat.lt_succ_self _)

end Task

namespace Pool

theorem ends_of_pauses_lt {pool : Pool W G α} {party : Party W G α}
    (h : pool.parties[0]? = some party) {n : Nat}
    (hn : party.task.pauses (pool.world, party.record) < n) :
    ∃ later a, (pool.turns n).parties[0]? = some later ∧ later.Ends a := by
  induction n generalizing pool party with
  | zero => exact absurd hn (Nat.not_lt_zero _)
  | succ n ih =>
    rw [turns_succ]
    have hresumed := getElem?_resume h
    rcases party.task.poll_eq_done_or_pauses_lt (pool.world, party.record) with ⟨a, ha⟩ | hlt
    · obtain ⟨later, hlater, hends⟩ := exists_run (P := fun party => party.Ends a)
        (fun _ _ hends => hends.resumed _) hresumed ha (List.replicate n (.resume 0))
      exact ⟨later, a, hlater, hends⟩
    · refine ih hresumed ?_
      rw [step_resume h]
      exact Nat.lt_of_lt_of_le hlt (Nat.le_of_lt_succ hn)

end Pool

def Terms.secluded (good : HookBinding H → Prop) (fits : S → Prop) : Terms S W H :=
  .ofStates .secluded good fits fun _ => True

section Secluded

variable {p : Platform S W H} {good : HookBinding H → Prop} {fits : S → Prop}

/-- Recording a secluded hook makes it look at nothing. -/
theorem Platform.Upholds.recorded (h : p.Upholds (.secluded good fits)) :
    p.recorded.Upholds (.ofStates .blind good fits fun _ => True) := by
  refine Platform.upholds_ofStates fun hook hhook ctx hctx => ?_
  have hbeside : ∀ f : W → W,
      (Task.Manner.blind : Task.Manner (W × List (Mark S H))).allows (Prod.map f id) :=
    fun f => ⟨f, id, rfl⟩
  have hinvoke := (h.invoke hook hhook ctx hctx).beside (fun f _ => hbeside f) False.elim
  refine hinvoke.bind fun answer hanswer => ?_
  have hwrite : (Task.change (Mark.fired ⟨hook, ctx, answer.1, answer.2⟩).write :
      Task (W × List (Mark S H)) Unit).Keeps .blind fun _ => True := by
    refine .change ?_ trivial
    exact ⟨id, _, rfl⟩
  exact hwrite.bind fun _ _ => .done hanswer

/-- A call of a flow with secluded hooks is blind once it knows its identity. -/
theorem Platform.Upholds.blind_runAs (h : p.Upholds (.secluded good fits))
    {inst : Instance K V W H} (hgood : ∀ hook ∈ inst.hooks.bindings, good hook) (place : Nat)
    (call : String) (input : Json) {deps : S} (hdeps : fits deps) :
    ((inst.recorded place).runAs p.recorded call input deps).Keeps .blind fun _ => True := by
  have hsuits : (inst.recorded place).Suits
      (.ofStates .blind good fits fun _ => True : Terms S (W × List (Mark S H)) H) := by
    refine ⟨hgood, fun event => ?_⟩
    refine ⟨Observer.emit inst.observers event, (· ++ [.event event]), funext fun w => ?_⟩
    exact Observer.emit_recorded place inst.observers event w.1 w.2
  exact h.recorded.runAs hsuits ⟨p.countCall, id, rfl⟩ (fun ctx _ => ⟨p.retire ctx.state, id, rfl⟩)
    ⟨List.forall_mem_nil _, hdeps⟩

end Secluded

/-! ### Calls on a registry -/

structure Invocation (S : Type) where
  flow : String
  input : Json
  deps : S

namespace FlowRegistry

def recorded (registry : FlowRegistry K V W H) (place : Nat) :
    FlowRegistry K V (W × List (Mark S H)) H :=
  ⟨registry.order, ⟨registry.table.entries.map fun entry => ⟨entry.1, entry.2.recorded place⟩⟩⟩

theorem get?_recorded (registry : FlowRegistry K V W H) (place : Nat) (name : String) :
    (registry.recorded place : FlowRegistry K V (W × List (Mark S H)) H).get? name =
      (registry.get? name).map (·.recorded place) := by
  have hfind : ∀ entries : List ((_ : String) × Instance K V W H),
      Bag.find? name (entries.map fun entry =>
          (⟨entry.1, entry.2.recorded place⟩ :
            (_ : String) × Instance K V (W × List (Mark S H)) H)) =
        (Bag.find? name entries).map (·.recorded place) := by
    intro entries
    induction entries with
    | nil => rfl
    | cons entry rest ih =>
      obtain ⟨other, inst⟩ := entry
      rw [List.map_cons, Bag.find?, Bag.find?]
      by_cases heq : other = name
      · subst heq
        rw [dif_pos rfl, dif_pos rfl]
        rfl
      · rw [dif_neg heq, dif_neg heq, ih]
  exact hfind registry.table.entries

def task (p : Platform S W H) (registry : FlowRegistry K V W H) (place : Nat)
    (call : Invocation S) : Task (W × List (Mark S H)) (Except FlowFault Outcome) :=
  (registry.recorded place).run p.recorded call.flow call.input call.deps

def launch (p : Platform S W H) (registry : FlowRegistry K V W H) (place : Nat)
    (calls : List (Invocation S)) (w : W) : Pool W (List (Mark S H)) (Except FlowFault Outcome) :=
  .launch (calls.map (registry.task p place)) [] w

/-- A recorded call ends as it does unrecorded. -/
theorem run_task (p : Platform S W H) (registry : FlowRegistry K V W H) (place : Nat)
    (call : Invocation S) (w : W) :
    ((registry.task p place call).run (w, [])).1 =
      ((registry.run p call.flow call.input call.deps).run w).1 := by
  rw [task, run, run, get?_recorded]
  cases registry.get? call.flow with
  | none => rfl
  | some inst =>
    have hrun := inst.amid_run_recorded p place ⟨call.input, call.deps, w, []⟩ []
    have hvalue := congrArg Task.Ending.value hrun
    rw [List.map_nil, Task.amid_nil, Task.amid_nil] at hvalue
    exact hvalue

def alone (p : Platform S W H) (registry : FlowRegistry K V W H) (place : Nat)
    (call : Invocation S) (w : W) (turns : Nat) :
    Pool W (List (Mark S H)) (Except FlowFault Outcome) :=
  (registry.launch p place [call] w).turns turns

/-- In a pool, after a number of turns, a call has gone as it goes alone. -/
structure AsAlone (p : Platform S W H) (registry : FlowRegistry K V W H) (place : Nat)
    (call : Invocation S) (w : W) (needed : Nat)
    (pool : Pool W (List (Mark S H)) (Except FlowFault Outcome)) (i turns : Nat) : Prop where
  /-- It has left the same record of events and of hooks with their contexts, and it will go on in
  the same way. -/
  party_eq : pool.parties[i]? = (registry.alone p place call w turns).parties[0]?
  /-- It has done the same to the world. -/
  share_eq : pool.share i = (registry.alone p place call w turns).share 0
  ends : needed ≤ turns → ∃ party outcome, pool.parties[i]? = some party ∧ party.Ends outcome
  outcome_eq : ∀ party outcome, pool.parties[i]? = some party → party.Ends outcome →
    outcome = ((registry.run p call.flow call.input call.deps).run w).1 ∧
      party.record = ((registry.task p place call).run (w, [])).2.2

structure Secludes (registry : FlowRegistry K V W H) (good : HookBinding H → Prop)
    (fits : S → Prop) (call : Invocation S) : Prop where
  hooks : ∀ inst, registry.get? call.flow = some inst → ∀ hook ∈ inst.hooks.bindings, good hook
  deps : fits call.deps

section Calls

variable {p : Platform S W H} {registry : FlowRegistry K V W H} {good : HookBinding H → Prop}
  {fits : S → Prop} {call : Invocation S}

/-- A call is blind after its first turn, and two worlds differ for it by the identity that they
give it. -/
theorem Secludes.turn (h : registry.Secludes good fits call) (hp : p.Upholds (.secluded good fits))
    (place : Nat) :
    let party : Party W _ _ := ⟨registry.task p place call, []⟩
    (∀ w, (party.resumed w).task.Keeps .blind fun _ => True) ∧
      ∀ w w', p.nextId w = p.nextId w' → party.resumed w = party.resumed w' ∧
        party.task.made (w, []) = party.task.made (w', []) := by
  rw [task, run, get?_recorded]
  cases hflow : registry.get? call.flow with
  | none => exact ⟨fun _ => .done trivial, fun _ _ _ => ⟨rfl, rfl⟩⟩
  | some inst =>
    exact Pool.resumed_eq_of_named fun id =>
      hp.blind_runAs (h.hooks inst hflow) place id call.input h.deps

theorem alone_eq (p : Platform S W H) (registry : FlowRegistry K V W H) (place : Nat)
    (call : Invocation S) (w : W) (turns : Nat) {party : Party W (List (Mark S H)) _}
    (hparty : (registry.alone p place call w turns).parties[0]? = some party)
    {outcome : Except FlowFault Outcome} (hends : party.Ends outcome) :
    outcome = ((registry.run p call.flow call.input call.deps).run w).1 ∧
      party.record = ((registry.task p place call).run (w, [])).2.2 := by
  obtain ⟨later, hlater, hrun⟩ := (registry.launch p place [call] w).run_turns rfl turns
  have hsame := Option.some.inj (hparty.symm.trans hlater)
  rw [← hsame, show party.task = .done outcome from hends] at hrun
  rw [← registry.run_task p place call w]
  exact ⟨congrArg Prod.fst hrun, congrArg (fun ending => ending.2.2) hrun⟩

theorem Secludes.asAlone (h : registry.Secludes good fits call)
    (hp : p.Upholds (.secluded good fits)) (place : Nat) {calls : List (Invocation S)} {i : Nat}
    (hcall : calls[i]? = some call) (start w : W) (schedule : List (Pool.Step W))
    (hid : p.nextId ((registry.launch p place calls start).first i schedule) = p.nextId w) :
    registry.AsAlone p place call w ((registry.task p place call).pauses (w, []) + 1)
      ((registry.launch p place calls start).run schedule) i
      (schedule.countP (·.resumes i)) := by
  obtain ⟨hblind, hfirst⟩ := h.turn hp place
  have hparty : (registry.launch p place calls start).parties[i]? =
      some ⟨registry.task p place call, []⟩ :=
    Pool.getElem?_launch (by rw [List.getElem?_map, hcall, Option.map_some])
  have halone : (registry.launch p place [call] w).parties[0]? =
      some ⟨registry.task p place call, []⟩ := rfl
  obtain ⟨heq, made, hpool, hlone⟩ :=
    Pool.exists_share_eq hblind hparty halone schedule (hfirst _ _ hid)
  constructor
  case party_eq => exact heq
  case share_eq => exact hpool.trans hlone.symm
  case ends =>
    intro hturns
    obtain ⟨later, outcome, hlater, hends⟩ :=
      Pool.ends_of_pauses_lt halone (Nat.lt_of_succ_le hturns)
    exact ⟨later, outcome, heq.trans hlater, hends⟩
  case outcome_eq =>
    intro party outcome hlater hends
    exact registry.alone_eq p place call w _ (heq.symm.trans hlater) hends

end Calls

/-- **Calls side by side keep apart.** Whatever else goes on, a call with secluded hooks goes in a
pool as it goes alone in any world that gives it the same identity: it has the same outcome, it
leaves the same record of events and contexts, and what the journal says that it did to the world is
the same. The states of calls may be forks of one bag: each bag has what its own call makes of
it. -/
theorem exists_asAlone {Key : Type} {Val : Key → Type} [DecidableEq Key]
    {p : Platform (Bag Key Val) W H} (registry : FlowRegistry K V W H)
    {good : HookBinding H → Prop} {fits : Bag Key Val → Prop}
    (hp : p.Upholds (.secluded good fits)) (place : Nat) (calls : List (Invocation (Bag Key Val)))
    (start : W) :
    (∀ i call, calls[i]? = some call → registry.Secludes good fits call → ∀ w, ∃ needed,
      ∀ schedule, p.nextId ((registry.launch p place calls start).first i schedule) = p.nextId w →
        registry.AsAlone p place call w needed
          ((registry.launch p place calls start).run schedule) i
          (schedule.countP (·.resumes i))) ∧
    (∀ schedule, let pool := (registry.launch p place calls start).run schedule
      pool.world = (pool.journal.map Prod.snd).foldl (fun w change => change w) start) ∧
    ∀ (before during : List (ForkStep Key Val)) (b : Nat) (key : Key),
      let forks := before.foldl ForkStep.shared .start
      b < forks.bags.length →
        ((during.foldl ForkStep.shared forks).view b).get? key =
          (((during.filter fun step => step.bag == b).foldl ForkStep.shared forks).view b).get?
            key := by
  refine ⟨fun i call hcall hsecludes w => ?_, fun schedule => ?_, ?_⟩
  · exact ⟨_, fun schedule hid => hsecludes.asAlone hp place hcall start w schedule hid⟩
  · exact Pool.world_run _ start rfl schedule
  · intro before during b key forks hb
    exact Forks.get?_view_own before during hb key

end FlowRegistry

/-! ### Tool servers -/

section Tools

variable {X L : Type}

def Tool.Secluded (tool : Tool X (World L)) : Prop :=
  ∀ arguments call, (tool.execute arguments call).Keeps .secluded fun _ => True

/-- The handler reads nothing of the world, if the server's own hooks do not. -/
def Handler.Secluded : Handler X L → Prop
  | .custom _ => True
  | .call flow _ => (∀ tool ∈ flow.tools.tools, tool.Secluded) ∧
      ∀ renderer, flow.renderer = some renderer → ∀ request,
        (renderer.render request).Keeps .secluded fun _ => True
  | .list _ _ => True
  | .acquire => False
  | .release => False

def CallState.Secluded (state : CallState X L) : Prop :=
  CallFlow.Carries .secluded (fun hook => hook.handler.Secluded) state ∧ True

/-- A tool server is secluded if the server's own hooks are. -/
theorem upholds_secluded {behave : X → ToolM X L Unit}
    (h : ∀ hook, (behave hook).Keeps
      (.secluded (fun hook => hook.handler.Secluded) CallState.Secluded) fun _ => True) :
    (toolPlatform behave).Upholds
      (.secluded (fun hook => hook.handler.Secluded) CallState.Secluded) := by
  refine Platform.upholds_ofStates fun hook hhook => ?_
  obtain ⟨name, stage, priority, owner, handler⟩ := hook
  cases handler with
  | custom hook => exact h hook
  | call flow step =>
    obtain ⟨htools, hrenderer⟩ : Handler.Secluded (.call flow step) := hhook
    refine CallFlow.keeps_step (CallFlow.accepts_of_behaves step ?_ hrenderer ?_ ?_)
    · exact fun tool htool => ⟨htools tool htool, fun _ _ => trivial⟩
    · exact fun _ _ _ _ h => h
    · exact fun _ h => h
  | list flow step =>
    refine ListFlow.keeps_step step (fun state hstate listing => ?_) fun _ => trivial
    have hsame : (Bag.insert state .listing listing).get? .tool = state.get? .tool :=
      Bag.get?_insert_of_ne state _ (show Slot.tool ≠ .listing by decide)
    exact ⟨fun tool htool => hstate.1 tool (hsame.symm.trans htool), trivial⟩
  | acquire => exact hhook.elim
  | release => exact hhook.elim

end Tools

def Handler.announce (_ : Unit) : ToolM Unit (List String) Unit := do
  HookM.lift Task.giveWay
  HookM.lift (Task.change (World.mapOwn (· ++ ["announced"])))
  ToolM.put (.value 0) (.str "announced")

def Tool.diary : Tool Unit (World (List String)) where
  definition := .start "diary" "Takes notes."
  execute arguments _ :=
    .act (World.mapOwn (· ++ ["noted"])) fun _ => .pause (.done (.ok arguments))
  hooks := [⟨"announce", "execute", 0, none, ()⟩]

def ServedFlows.diary : ServedFlows Unit (List String) :=
  (FlowRegistry.empty.put (.calling ⟨⟨[.diary]⟩, .default, none⟩ [])).put
    (.listing ⟨⟨[.diary]⟩, .default⟩ [])

theorem Handler.keeps_announce (hook : Unit) :
    (announce hook).Keeps (.secluded (fun hook => hook.handler.Secluded) CallState.Secluded)
      fun _ => True := by
  have hpause : (Task.giveWay : Task (World (List String)) Unit).Keeps .secluded fun _ => True :=
    .pause (.done trivial)
  refine (HookM.Keeps.lift hpause).bind fun _ _ => ?_
  have hwrite : (Task.change (World.mapOwn (· ++ ["announced"])) :
      Task (World (List String)) Unit).Keeps .secluded fun _ => True := .change trivial trivial
  refine (HookM.Keeps.lift hwrite).bind fun _ _ => ?_
  refine ToolM.keeps_put fun state hstate => ⟨fun tool htool => hstate.1 tool ?_, trivial⟩
  have hne : Slot.tool ≠ .value 0 := by decide
  exact (Bag.get?_insert_of_ne state _ hne).symm.trans htool

def Invocation.note : Invocation (CallState Unit (List String)) where
  flow := callToken.name
  input := .obj [("method", .str "tools/call"), ("params", .obj [("name", .str "diary")])]
  deps := .empty

theorem secludes_note :
    ServedFlows.diary.Secludes (fun hook => hook.handler.Secluded) CallState.Secluded .note where
  hooks inst hinst hook hhook := by
    cases (show some (Instance.calling _ _) = some inst from hinst)
    obtain ⟨entry, -, rfl⟩ := List.mem_map.mp hhook
    refine ⟨fun tool htool => ?_, nofun⟩
    rw [List.mem_singleton.mp htool]
    exact fun _ _ => .act trivial (.inr fun _ _ => rfl) fun _ => .pause (.done trivial)
  deps := ⟨nofun, trivial⟩

theorem exists_asAlone_note :
    (toolPlatform Handler.announce).Upholds
        (.secluded (fun hook => hook.handler.Secluded) CallState.Secluded) ∧
      ∃ needed, ServedFlows.diary.AsAlone (toolPlatform Handler.announce) 0 .note ⟨1, 0, []⟩ needed
        ((ServedFlows.diary.launch (toolPlatform Handler.announce) 0 [.note, .note] ⟨0, 0, []⟩).run
          [.outside World.countCall, .resume 0, .resume 1, .resume 0]) 0 2 := by
  have hupholds := upholds_secluded Handler.keeps_announce
  refine ⟨hupholds, ?_⟩
  obtain ⟨needed, hneeded⟩ := ServedFlows.diary.exists_asAlone hupholds 0
    [.note, .note] ⟨0, 0, []⟩ |>.1 0 .note rfl secludes_note ⟨1, 0, []⟩
  exact ⟨needed, hneeded [.outside World.countCall, .resume 0, .resume 1, .resume 0] rfl⟩

end StagedFlow
