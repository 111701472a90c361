import StagedFlow.Proofs.Bags
import StagedFlow.Proofs.Interference
import StagedFlow.Tool.Handler

/-!
# What handlers do

Handlers are read off step by step: what a handler amounts to that first reads the context and then
goes on.
-/

namespace StagedFlow

theorem Bag.require_of_get? {K : Type} {V : K → Type} [DecidableEq K] [Named K] {bag : Bag K V}
    {key : K} {v : V key} (h : bag.get? key = some v) : bag.require key = .ok v := by
  rw [require, h]

theorem Context.apply_none {S H : Type} (ctx : Context S H) : ctx.apply .none = ctx := by
  simp [apply, Changes.none]

@[simp]
theorem Changes.none_andThen {S H : Type} (later : Changes S H) :
    Changes.none.andThen later = later := by
  simp [Changes.andThen, Changes.none]

theorem Task.map_id {W α : Type} (t : Task W α) : (t.map fun a => a) = t := by
  induction t with
  | done a => rfl
  | act change next ih => exact congrArg (Task.act change) (funext ih)
  | pause next ih => exact congrArg Task.pause ih

theorem Task.map_map {W α β γ : Type} (t : Task W α) (f : α → β) (g : β → γ) :
    (t.map f).map g = t.map fun a => g (f a) := by
  induction t with
  | done a => rfl
  | act change next ih => exact congrArg (Task.act change) (funext ih)
  | pause next ih => exact congrArg Task.pause ih

theorem Task.bind_map {W α β γ : Type} (t : Task W α) (f : α → β) (k : β → Task W γ) :
    (t.map f).bind k = t.bind fun a => k (f a) := by
  induction t with
  | done a => rfl
  | act change next ih => exact congrArg (Task.act change) (funext ih)
  | pause next ih => exact congrArg Task.pause ih

theorem Task.bind_done {W α β : Type} (t : Task W α) (f : α → β) :
    (t.bind fun a => .done (f a)) = t.map f := by
  induction t with
  | done a => rfl
  | act change next ih => exact congrArg (Task.act change) (funext ih)
  | pause next ih => exact congrArg Task.pause ih

namespace HookM

variable {S W H : Type} {α β : Type}

/-- A handler that starts by reading goes on with what it has read. -/
theorem bind_of_read {m : HookM S W H α} {k : α → HookM S W H β} {ctx : Context S H} {a : α}
    (h : m ctx = .done (.ok a, .none)) : (m >>= k) ctx = k a ctx := by
  change bind m k ctx = _
  rw [bind, h]
  simp only [Task.bind, Context.apply_none, Changes.none_andThen]
  exact Task.map_id _

theorem bind_context (k : Context S H → HookM S W H β) (ctx : Context S H) :
    (context >>= k) ctx = k ctx ctx :=
  bind_of_read rfl

theorem bind_state (k : S → HookM S W H β) (ctx : Context S H) :
    (state >>= k) ctx = k ctx.state ctx :=
  bind_of_read rfl

/-- A handler that starts with a task goes on with its value. -/
theorem bind_lift (t : Task W α) (k : α → HookM S W H β) (ctx : Context S H) :
    (lift t >>= k) ctx = t.bind fun a => k a ctx := by
  change bind (lift t) k ctx = _
  rw [bind, lift, Task.bind_map]
  refine congrArg t.bind (funext fun a => ?_)
  simp only [Context.apply_none, Changes.none_andThen]
  exact Task.map_id _

end HookM

namespace ToolM

variable {X L : Type}

theorem require_eq {slot : Slot} {v : slot.Val X L}
    {ctx : Context (CallState X L) (Handler X L)} (h : ctx.state.get? slot = some v) :
    (require slot : ToolM X L _) ctx = .done (.ok v, .none) := by
  rw [require, HookM.bind_state, Bag.require_of_get? h]
  rfl

/-- A handler that starts by taking a value out of the state goes on with it. -/
theorem bind_require {β : Type} {slot : Slot} {v : slot.Val X L}
    {ctx : Context (CallState X L) (Handler X L)} (h : ctx.state.get? slot = some v)
    (k : slot.Val X L → ToolM X L β) : (require slot >>= k) ctx = k v ctx :=
  HookM.bind_of_read (require_eq h)

/-- A handler that starts by taking a value out of the state fails where there is none. -/
theorem bind_require_of_none {β : Type} {slot : Slot}
    {ctx : Context (CallState X L) (Handler X L)} (h : ctx.state.get? slot = none)
    (k : slot.Val X L → ToolM X L β) :
    ∃ fault, (require slot >>= k) ctx = .done (.error (.fault fault), .none) := by
  have hrequire : (require slot : ToolM X L _) ctx = .done (.error (.fault (.internal
      ("call state is missing " ++ Named.typeName slot))), .none) := by
    rw [require, HookM.bind_state, Bag.require, h]
    rfl
  refine ⟨.internal ("call state is missing " ++ Named.typeName slot), ?_⟩
  change HookM.bind (require slot) k ctx = _
  rw [HookM.bind, hrequire]
  rfl

theorem put_eq (slot : Slot) (v : slot.Val X L) (ctx : Context (CallState X L) (Handler X L)) :
    (put slot v : ToolM X L Unit) ctx =
      .done (.ok (), { state := some (ctx.state.insert slot v) }) := by
  rw [put, HookM.bind_state]
  rfl

end ToolM

end StagedFlow
