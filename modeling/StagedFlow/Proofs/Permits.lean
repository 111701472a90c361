import Mathlib.Data.List.Induction
import StagedFlow.Proofs.CallSteps
import StagedFlow.Proofs.Recording
import StagedFlow.Proofs.Turns

/-!
# The permits of a server

Whether a call holds a permit can be read off its record: it holds one from the hook that took it
until the hook that gives it back, or its end.

That the free permits and the one that a call holds stay the same in number is not true at every
moment: a permit is taken before the record says so, and a state is given up after the record says
that the call has ended. It is true where a hook begins and where it ends, and at every pause. What
is true in between is that there are never more permits than that.
-/

namespace StagedFlow

variable {X L : Type}

namespace Handler

@[simp]
def acquires : Handler X L → Bool
  | .acquire => true
  | _ => false

@[simp]
def releases : Handler X L → Bool
  | .release => true
  | _ => false

end Handler

namespace Mark

def asks : Mark (CallState X L) (Handler X L) → Bool
  | .fired firing => firing.hook.handler.acquires
  | .event _ => false

def takes : Mark (CallState X L) (Handler X L) → Bool
  | .fired firing => firing.hook.handler.acquires && firing.result.isOk
  | .event _ => false

/-- A call has given back what it held: by its hook, or because it has ended. -/
def gives : Mark (CallState X L) (Handler X L) → Bool
  | .fired firing => firing.hook.handler.releases
  | .event (.completed _ _ _) => true
  | .event (.failed _ _ _) => true
  | .event _ => false

def matters (mark : Mark (CallState X L) (Handler X L)) : Bool := mark.asks || mark.gives

end Mark

abbrev Marks (X L : Type) := List (Mark (CallState X L) (Handler X L))

def holding (marks : Marks X L) : Bool :=
  marks.foldl (fun held mark => mark.takes || held && !mark.gives) false

variable {marks : Marks X L} {mark : Mark (CallState X L) (Handler X L)}

theorem holding_append (marks : Marks X L) (mark : Mark (CallState X L) (Handler X L)) :
    holding (marks ++ [mark]) = (mark.takes || holding marks && !mark.gives) := by
  rw [holding, List.foldl_append]
  rfl

theorem Mark.takes_eq_false_of_asks (h : mark.asks = false) : mark.takes = false := by
  cases mark with
  | event event => rfl
  | fired firing =>
    have hhandler : firing.hook.handler.acquires = false := h
    rw [takes, hhandler, Bool.false_and]

theorem holding_append_of_not_matters (h : mark.matters = false) :
    holding (marks ++ [mark]) = holding marks := by
  obtain ⟨hasks, hgives⟩ := Bool.or_eq_false_iff.mp h
  rw [holding_append, Mark.takes_eq_false_of_asks hasks, hgives]
  simp

theorem holding_append_of_gives (hasks : mark.asks = false) (hgives : mark.gives = true) :
    holding (marks ++ [mark]) = false := by
  rw [holding_append, Mark.takes_eq_false_of_asks hasks, hgives]
  simp

theorem Mark.asks_of_takes (h : mark.takes = true) : mark.asks = true := by
  by_contra hasks
  rw [takes_eq_false_of_asks (eq_false_of_ne_true hasks)] at h
  cases h

theorem exists_takes_of_holding (h : holding marks = true) :
    ∃ mark ∈ marks, mark.takes = true := by
  induction marks using List.reverseRecOn with
  | nil => cases h
  | append_singleton marks mark ih =>
    rw [holding_append] at h
    cases htakes : mark.takes with
    | true => exact ⟨mark, List.mem_append_right _ (List.mem_singleton_self mark), htakes⟩
    | false =>
      rw [htakes, Bool.false_or] at h
      obtain ⟨taken, htaken, htakes⟩ := ih ((Bool.and_eq_true _ _).mp h).1
      exact ⟨taken, List.mem_append_left _ htaken, htakes⟩

/-- Of the marks that were made since some permits were free: if none is about permits, just as many
are free now; if the first one is a request, it was granted just if one was free. -/
def Fair (free now : Nat) (made : Marks X L) : Prop :=
  match made.find? Mark.matters with
  | none => now = free
  | some mark => mark.asks = true → (mark.takes = true ↔ free ≠ 0)

theorem Fair.append {free now later : Nat} {made : Marks X L} (h : Fair free now made)
    (hneutral : mark.matters = false → later = now)
    (hasks : mark.asks = true → (mark.takes = true ↔ now ≠ 0)) :
    Fair free later (made ++ [mark]) := by
  rw [Fair, List.find?_append]
  rw [Fair] at h
  cases hfirst : made.find? Mark.matters with
  | some first =>
    rw [hfirst] at h
    exact h
  | none =>
    rw [hfirst] at h
    subst h
    cases hmatters : mark.matters with
    | false => simpa [hmatters] using hneutral hmatters
    | true => simpa [hmatters] using hasks

structure Balanced (since now : World L × Marks X L) : Prop where
  total : now.1.permits + (holding now.2).toNat = since.1.permits + (holding since.2).toNat
  fair : ∃ made, now.2 = since.2 ++ made ∧ Fair since.1.permits now.1.permits made

namespace Balanced

variable {since now : World L × Marks X L} {w later : World L}

theorem refl (now : World L × Marks X L) : Balanced now now :=
  ⟨rfl, [], (List.append_nil _).symm, rfl⟩

theorem spare (h : Balanced since (w, marks)) (hsame : later.permits = w.permits) :
    Balanced since (later, marks) := by
  refine ⟨?_, ?_⟩
  · rw [← h.total, hsame]
  · rw [hsame]
    exact h.fair

theorem append (h : Balanced since (w, marks))
    (htotal : later.permits + (holding (marks ++ [mark])).toNat =
      w.permits + (holding marks).toNat)
    (hneutral : mark.matters = false → later.permits = w.permits)
    (hasks : mark.asks = true → (mark.takes = true ↔ w.permits ≠ 0)) :
    Balanced since (later, marks ++ [mark]) := by
  obtain ⟨made, hmade, hfair⟩ := h.fair
  refine ⟨htotal.trans h.total, made ++ [mark], ?_, hfair.append hneutral hasks⟩
  rw [← List.append_assoc, ← hmade]

theorem append_of_not_matters (h : Balanced since (w, marks)) (hmark : mark.matters = false)
    (hsame : later.permits = w.permits) : Balanced since (later, marks ++ [mark]) := by
  refine h.append ?_ (fun _ => hsame) fun hasks => ?_
  · rw [holding_append_of_not_matters hmark, hsame]
  · rw [Mark.matters, hasks] at hmark
    cases hmark

theorem append_of_asks (h : Balanced since (w, marks)) (hmark : mark.asks = true)
    (htotal : later.permits + (holding (marks ++ [mark])).toNat =
      w.permits + (holding marks).toNat)
    (hfree : mark.takes = true ↔ w.permits ≠ 0) : Balanced since (later, marks ++ [mark]) := by
  refine h.append htotal (fun hneutral => ?_) fun _ => hfree
  rw [Mark.matters, hmark, Bool.true_or] at hneutral
  cases hneutral

theorem append_of_gives (h : Balanced since (w, marks)) (hasks : mark.asks = false)
    (hgives : mark.gives = true) (hgiven : later.permits = w.permits + (holding marks).toNat) :
    Balanced since (later, marks ++ [mark]) := by
  refine h.append ?_ (fun hneutral => ?_) fun hasked => ?_
  · rw [holding_append_of_gives hasks hgives, hgiven]
    rfl
  · rw [Mark.matters, hgives, Bool.or_true] at hneutral
    cases hneutral
  · rw [hasks] at hasked
    cases hasked

/-- At no moment are there more permits than there were, with the one that the call held. -/
theorem within (h : Balanced since now) :
    now.1.permits ≤ since.1.permits + (holding since.2).toNat :=
  h.total ▸ Nat.le_add_right _ _

end Balanced

/-- A call accounts for every permit in its turns, and never makes one up. -/
def Task.Duty.balance : Duty (World L) (Marks X L) where
  turn := Balanced
  moment since w := w.permits ≤ since.1.permits + (holding since.2).toNat
  refl := .refl
  moment_of_turn _ _ h := h.within

/-! ### Handlers -/

def HookBinding.Custom (hook : HookBinding (Handler X L)) : Prop :=
  ∃ own, hook.handler = .custom own

def Task.Manner.sparing : Manner (World L) :=
  ⟨fun change => ∀ w, (change w).permits = w.permits, True⟩

def Terms.sparing (held : Bool) : Terms (CallState X L) (World L) (Handler X L) :=
  .ofStates .sparing HookBinding.Custom
    (fun state => CallFlow.Carries .sparing HookBinding.Custom state ∧
      state.contains .permit = held) fun _ => True

/-- The state of the call holds a permit just if its record says so. -/
def Tracks (ctx : Context (CallState X L) (Handler X L)) (marks : Marks X L) : Prop :=
  (Terms.sparing (holding marks)).fine ctx

namespace Admission

theorem acquire_eq (ctx : Context (CallState X L) (Handler X L)) :
    (acquire : ToolM X L Unit) ctx = .act id fun w =>
      if w.permits = 0 then .done (.error (.signal (.fail (some refusal))), .none)
      else .act World.takePermit fun _ =>
        if ctx.state.contains .permit then .act World.givePermit fun _ =>
          .done (.ok (), { state := some (ctx.state.insert .permit ()) })
        else .done (.ok (), { state := some (ctx.state.insert .permit ()) }) := by
  rw [acquire, HookM.bind_lift]
  refine congrArg (Task.act id) (funext fun w => ?_)
  simp only [Task.bind]
  split
  · rfl
  rw [HookM.bind_lift]
  refine congrArg (Task.act World.takePermit) (funext fun _ => ?_)
  simp only [Task.bind]
  rw [HookM.bind_state]
  split
  · rw [HookM.bind_lift]
    exact congrArg (Task.act World.givePermit) (funext fun _ => ToolM.put_eq .permit () ctx)
  · exact ToolM.put_eq .permit () ctx

theorem release_eq (ctx : Context (CallState X L) (Handler X L)) :
    (release : ToolM X L Unit) ctx =
      if ctx.state.contains .permit then .act World.givePermit fun _ =>
        .done (.ok (), { state := some (ctx.state.erase .permit) })
      else .done (.ok (), { state := some (ctx.state.erase .permit) }) := by
  rw [release, HookM.bind_state]
  split
  · rw [HookM.bind_lift]
    rfl
  · rfl

end Admission

section Invoke

variable {behave : X → ToolM X L Unit} {hook : HookBinding (Handler X L)}
  {ctx : Context (CallState X L) (Handler X L)}

theorem guards_write {α : Type} {Q : α → Marks X L → Prop} {a : α} {since : World L × Marks X L}
    {w : World L} (hbalanced : Balanced since (w, marks ++ [mark])) (ha : Q a (marks ++ [mark])) :
    ((Task.change mark.write).bind fun _ => .done a).Guards .balance Q since (w, marks) :=
  ⟨hbalanced.within, hbalanced, ha⟩

/-- A hook that spares the permits does so when it is recorded. -/
theorem holds_of_sparing (hmark : ∀ result changes,
      (Mark.fired ⟨hook, ctx, result, changes⟩ : Mark _ (Handler X L)).matters = false)
    (hkeeps : ∀ held, ((toolPlatform behave).invoke hook).Keeps (.sparing held) fun _ => True)
    (hctx : Tracks ctx marks) :
    (Task.guarding .balance).Holds marks ((toolPlatform behave).recorded.invoke hook ctx)
      fun answer => Tracks (ctx.apply answer.2) := by
  have hinvoke := (hkeeps (holding marks) ctx hctx).guarding (J := .balance) (g := marks)
    fun change hchange since w hJ => Balanced.spare hJ (hchange w)
  refine (Task.guarding .balance).bind hinvoke fun answer later hanswer => ?_
  obtain ⟨⟨hfine, -⟩, rfl⟩ := hanswer
  intro since w hJ
  have hneutral := hmark answer.1 answer.2
  refine guards_write (hJ.append_of_not_matters hneutral rfl) ?_
  rw [Tracks, holding_append_of_not_matters hneutral]
  exact hfine

theorem Tracks.exchange (hctx : Tracks ctx marks) {state : CallState X L} {later : Marks X L}
    (htool : state.get? .tool = ctx.state.get? .tool)
    (hholds : state.contains .permit = holding later) :
    Tracks (ctx.apply { state := some state }) later := by
  refine ⟨?_, fun tool hfound => hctx.2.1 tool (htool.symm.trans hfound), hholds⟩
  simpa [Context.apply] using hctx.1

theorem Tracks.contains_eq (hctx : Tracks ctx marks) :
    ctx.state.contains .permit = holding marks :=
  hctx.2.2

/-- A permit is taken if one is free. If the call holds one already, that one is given back. -/
theorem holds_acquire (hhook : hook.handler = .acquire) (hctx : Tracks ctx marks) :
    (Task.guarding .balance).Holds marks ((toolPlatform behave).recorded.invoke hook ctx)
      fun answer => Tracks (ctx.apply answer.2) := by
  obtain ⟨name, stage, priority, owner, handler⟩ := hook
  subst hhook
  intro since w hJ
  have hput : (ctx.state.insert Slot.permit ()).contains .permit = true :=
    (Bag.contains_eq_isSome _ _).trans
      (congrArg Option.isSome (Bag.get?_insert_self ctx.state Slot.permit ()))
  have htool : (ctx.state.insert Slot.permit ()).get? .tool = ctx.state.get? .tool :=
    Bag.get?_insert_of_ne _ _ (by decide)
  change Task.Guards .balance _ (((Admission.acquire ctx).beside).bind _) since (w, marks)
  rw [Admission.acquire_eq]
  by_cases hfree : w.permits = 0
  · -- The record goes on with a request that was refused.
    have hheld : holding (marks ++ [.fired ⟨⟨name, stage, priority, owner, .acquire⟩, ctx,
        .error (.signal (.fail (some Admission.refusal))), .none⟩]) = holding marks := by
      rw [holding_append]
      simp [Mark.takes, Mark.gives, Except.isOk, Except.toBool]
    have hsame : Tracks (ctx.apply .none) (marks ++
        [.fired ⟨⟨name, stage, priority, owner, .acquire⟩, ctx,
          .error (.signal (.fail (some Admission.refusal))), .none⟩]) := by
      rw [Context.apply_none, Tracks, hheld]
      exact hctx
    simp only [Task.beside, Task.bind, Task.Guards, hfree, if_true]
    refine ⟨Balanced.within hJ, guards_write (Balanced.append_of_asks hJ rfl ?_ ?_) hsame⟩
    · exact congrArg (fun held : Bool => w.permits + held.toNat) hheld
    · simp [Mark.takes, Except.isOk, Except.toBool, hfree]
  · have hheld : ∀ changes, holding (marks ++ [.fired ⟨⟨name, stage, priority, owner, .acquire⟩,
        ctx, .ok (), changes⟩]) = true := by
      intro changes
      rw [holding_append]
      rfl
    have hcontains := hctx.contains_eq
    have hwithin : w.permits ≤ since.1.permits + (holding since.2).toNat := Balanced.within hJ
    have htaken : w.permits - 1 ≤ since.1.permits + (holding since.2).toNat :=
      Nat.le_trans (Nat.sub_le _ _) hwithin
    simp only [Task.beside, Task.bind, Task.Guards, hfree, if_false]
    refine ⟨hwithin, htaken, ?_⟩
    cases hpermit : ctx.state.contains .permit with
    | false =>
      rw [hpermit] at hcontains
      refine guards_write (Balanced.append_of_asks hJ rfl ?_ ?_) ?_
      · simp [hheld, ← hcontains, World.takePermit]
        omega
      · simp [Mark.takes, Except.isOk, Except.toBool, hfree]
      · exact hctx.exchange htool (hput.trans (hheld _).symm)
    | true =>
      -- Two permits are out for a moment, until the one that the state held is given back.
      rw [hpermit] at hcontains
      have hback : w.permits - 1 + 1 ≤ since.1.permits + (holding since.2).toNat := by omega
      refine ⟨hback, guards_write (Balanced.append_of_asks hJ rfl ?_ ?_) ?_⟩
      · simp [hheld, ← hcontains, World.takePermit, World.givePermit]
        omega
      · simp [Mark.takes, Except.isOk, Except.toBool, hfree]
      · exact hctx.exchange htool (hput.trans (hheld _).symm)

theorem holds_release (hhook : hook.handler = .release) (hctx : Tracks ctx marks) :
    (Task.guarding .balance).Holds marks ((toolPlatform behave).recorded.invoke hook ctx)
      fun answer => Tracks (ctx.apply answer.2) := by
  obtain ⟨name, stage, priority, owner, handler⟩ := hook
  subst hhook
  intro since w hJ
  have hgone : (ctx.state.erase Slot.permit).contains .permit = false := by
    rw [Bag.contains_eq_isSome, Bag.get?_erase_self]
    rfl
  have htool : (ctx.state.erase Slot.permit).get? .tool = ctx.state.get? .tool :=
    Bag.get?_erase_of_ne _ (by decide)
  have hheld : ∀ changes, holding (marks ++ [.fired ⟨⟨name, stage, priority, owner, .release⟩,
      ctx, .ok (), changes⟩]) = false := fun _ => holding_append_of_gives rfl rfl
  have hcontains := hctx.contains_eq
  change Task.Guards .balance _ (((Admission.release ctx).beside).bind _) since (w, marks)
  rw [Admission.release_eq]
  cases hpermit : ctx.state.contains .permit with
  | false =>
    rw [hpermit] at hcontains
    refine guards_write (Balanced.append_of_gives hJ rfl rfl ?_) ?_
    · simp [← hcontains]
    · exact hctx.exchange htool (hgone.trans (hheld _).symm)
  | true =>
    rw [hpermit] at hcontains
    have htotal := Balanced.total hJ
    have hgiven : w.permits + 1 ≤ since.1.permits + (holding since.2).toNat := by
      simp only [← hcontains] at htotal
      exact Nat.le_of_eq htotal
    refine ⟨hgiven, guards_write (Balanced.append_of_gives hJ rfl rfl ?_) ?_⟩
    · simp [← hcontains, World.givePermit]
    · exact hctx.exchange htool (hgone.trans (hheld _).symm)

end Invoke

end StagedFlow
