import StagedFlow.Flow.Instance
import StagedFlow.Proofs.Interference

/-!
# Recorded calls

What a call shows to the outside are the events that it delivers to observers and the hooks that it
invokes. To speak of them, the call is run in a world with a second part, a record: one more
observer writes down every event that reaches it, and every hook is written down with the context it
saw, its result and its changes. Nothing else touches the record, and nobody reads it, so that the
call goes on as it does without one.
-/

namespace StagedFlow

variable {K : Type} {V : K → Type} {S W H : Type}

structure Firing (S H : Type) where
  hook : HookBinding H
  /-- The context in which the hook was invoked. -/
  seen : Context S H
  result : Except Interrupt Unit
  changes : Changes S H

inductive Mark (S H : Type) where
  | event (event : FlowEvent)
  | fired (firing : Firing S H)

namespace Mark

def event? : Mark S H → Option FlowEvent
  | event e => some e
  | fired _ => none

def write (mark : Mark S H) : W × List (Mark S H) → W × List (Mark S H) :=
  Prod.map id (· ++ [mark])

end Mark

def Observer.beside {G : Type} (observer : Observer W) : Observer (W × G) :=
  ⟨observer.name, fun event => Prod.map (observer.notify event) id⟩

def Observer.recorder : Observer (W × List (Mark S H)) :=
  ⟨"recorder", fun event => (Mark.event event).write⟩

def Observer.recorded (place : Nat) (observers : List (Observer W)) :
    List (Observer (W × List (Mark S H))) :=
  (observers.take place).map beside ++ recorder :: (observers.drop place).map beside

def Definition.beside {G : Type} (definition : Definition K V W H) : Definition K V (W × G) H where
  token := definition.token
  plan := definition.plan
  access := definition.access
  inputSchema := definition.inputSchema
  outputSchema := definition.outputSchema
  route := definition.route
  guard := definition.guard
  dependencies := definition.dependencies
  prepare providers :=
    (definition.prepare providers).map fun flow => ⟨flow.table, flow.ready.beside⟩

/-- The flow with the recorder at a place among its observers. -/
def Instance.recorded (inst : Instance K V W H) (place : Nat) :
    Instance K V (W × List (Mark S H)) H :=
  ⟨inst.definition.beside, inst.hooks, Observer.recorded place inst.observers⟩

/-- The platform on which every hook is recorded when it is done. -/
def Platform.recorded (p : Platform S W H) : Platform S (W × List (Mark S H)) H where
  scope := p.scope
  invoke hook := fun ctx => do
    let answer ← (p.invoke hook ctx).beside
    Task.change (Mark.fired ⟨hook, ctx, answer.1, answer.2⟩).write
    pure answer
  nextId w := p.nextId w.1
  countCall := Prod.map p.countCall id
  retire s := Prod.map (p.retire s) id

/-- All that a call is given: its input, the state of the caller, the world in which it starts, and
what others do to the world at its pauses. -/
structure Setting (S W : Type) where
  input : Json
  deps : S
  world : W
  others : List (W → W)

def Setting.recorded (setting : Setting S W) : Setting S (W × List (Mark S H)) :=
  ⟨setting.input, setting.deps, (setting.world, []), setting.others.map (Prod.map · id)⟩

namespace Instance

def outcome (p : Platform S W H) (inst : Instance K V W H) (setting : Setting S W) :
    Except FlowFault Outcome :=
  ((inst.run p setting.input setting.deps).amid setting.others setting.world).value

def record (p : Platform S W H) (inst : Instance K V W H) (place : Nat) (setting : Setting S W) :
    List (Mark S H) :=
  let recorded : Setting S (W × List (Mark S H)) := setting.recorded
  (((inst.recorded place).run p.recorded recorded.input recorded.deps).amid recorded.others
    recorded.world).world.2

def delivered (p : Platform S W H) (inst : Instance K V W H) (place : Nat)
    (setting : Setting S W) : List FlowEvent :=
  (inst.record p place setting).filterMap Mark.event?

end Instance

theorem Observer.emit_beside {G : Type} (observers : List (Observer W)) (event : FlowEvent)
    (w : W) (g : G) :
    Observer.emit (observers.map beside) event (w, g) = (Observer.emit observers event w, g) := by
  induction observers generalizing w with
  | nil => rfl
  | cons observer rest ih => exact ih (observer.notify event w)

/-- An event reaches every observer and is recorded once. -/
theorem Observer.emit_recorded (place : Nat) (observers : List (Observer W)) (event : FlowEvent)
    (w : W) (marks : List (Mark S H)) :
    Observer.emit (Observer.recorded place observers) event (w, marks) =
      (Observer.emit observers event w, marks ++ [.event event]) := by
  have hfront := emit_beside (observers.take place) event w marks
  have hback := emit_beside (observers.drop place) event
    (Observer.emit (observers.take place) event w) (marks ++ [.event event])
  have hwhole : Observer.emit (observers.drop place) event
      (Observer.emit (observers.take place) event w) = Observer.emit observers event w := by
    rw [Observer.emit, Observer.emit, Observer.emit, ← List.foldl_append, List.take_append_drop]
  rw [Observer.recorded, Observer.emit, List.foldl_append, List.foldl_cons]
  rw [← Observer.emit, ← Observer.emit, hfront]
  exact hback.trans (by rw [hwhole])

@[simp]
theorem Instance.amid_emit_recorded (inst : Instance K V W H) (place : Nat) (event : FlowEvent)
    (others : List (W → W)) (w : W) (marks : List (Mark S H)) :
    ((inst.recorded place).emit event).amid (others.map (Prod.map · id)) (w, marks) =
      ((inst.emit event).amid others w).beside (marks ++ [.event event]) := by
  simp only [Instance.emit, Task.amid_change, Task.Ending.beside, Instance.recorded,
    Observer.emit_recorded]

/-- A hook does on the recording platform what it does elsewhere, and is recorded once. -/
@[simp]
theorem Platform.amid_invoke_recorded (p : Platform S W H) (hook : HookBinding H)
    (ctx : Context S H) (others : List (W → W)) (w : W) (marks : List (Mark S H)) :
    (p.recorded.invoke hook ctx).amid (others.map (Prod.map · id)) (w, marks) =
      ((p.invoke hook ctx).amid others w).beside
        (marks ++ [.fired ⟨hook, ctx, ((p.invoke hook ctx).amid others w).value.1,
          ((p.invoke hook ctx).amid others w).value.2⟩]) := by
  simp only [Platform.recorded, Task.bind_eq, Task.amid_bind, Task.amid_beside, Task.pure_eq,
    Task.amid_done, Task.amid_change, Task.Ending.beside, Mark.write, Prod.map_apply, id_eq]

end StagedFlow
