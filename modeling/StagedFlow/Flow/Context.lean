import StagedFlow.Flow.Signal
import StagedFlow.Hook.Binding
import StagedFlow.Task

/-!
# The context of a call

A context belongs to one call. It holds the input, the state that the caller seeded, the hooks
attached to this call only, the checkpoints reached, and the output set so far. The scope is taken
from the caller's state when the call starts.
-/

namespace StagedFlow

/-- The context of a call with state `S` and handler codes `H`. -/
structure Context (S H : Type) where
  callId : String
  token : FlowToken
  input : Json
  scope : Option String
  state : S
  attached : List (HookBinding H)
  checkpoints : List Stage
  stage : Option Stage
  output : Option Json

namespace Context

variable {S H : Type}

/-- The context in which a call starts. -/
def start (callId : String) (token : FlowToken) (input : Json) (scope : Option String)
    (state : S) : Context S H :=
  ⟨callId, token, input, scope, state, [], [], none, none⟩

def enter (ctx : Context S H) (stage : Stage) : Context S H := { ctx with stage := some stage }

end Context

/-- What a handler has done to the context of its call: it can put another state in place, attach
hooks, record checkpoints, and put another output in place or none. All else of a context stays as
it is. -/
structure Changes (S H : Type) where
  state : Option S := none
  attached : List (HookBinding H) := []
  checkpoints : List Stage := []
  output : Option (Option Json) := none

namespace Changes

variable {S H : Type}

def none : Changes S H := {}

def andThen (first later : Changes S H) : Changes S H where
  state := later.state.or first.state
  attached := first.attached ++ later.attached
  checkpoints := first.checkpoints ++ later.checkpoints
  output := later.output.or first.output

end Changes

def Context.apply {S H : Type} (ctx : Context S H) (changes : Changes S H) : Context S H where
  callId := ctx.callId
  token := ctx.token
  input := ctx.input
  scope := ctx.scope
  state := changes.state.getD ctx.state
  attached := ctx.attached ++ changes.attached
  checkpoints := ctx.checkpoints ++ changes.checkpoints
  stage := ctx.stage
  output := changes.output.getD ctx.output

/-- What a handler does: it reads the context of its call and works on the world, and it returns or
interrupts the call. Its changes of the context count either way. -/
def HookM (S W H α : Type) : Type := Context S H → Task W (Except Interrupt α × Changes S H)

namespace HookM

variable {S W H : Type} {α β : Type}

def ret (a : α) : HookM S W H α := fun _ => .done (.ok a, .none)

/-- One handler after another, which sees what the first one has changed. -/
def bind (m : HookM S W H α) (k : α → HookM S W H β) : HookM S W H β := fun ctx =>
  (m ctx).bind fun
    | (.ok a, changes) =>
      (k a (ctx.apply changes)).map fun (result, later) => (result, changes.andThen later)
    | (.error interrupt, changes) => .done (.error interrupt, changes)

instance : Monad (HookM S W H) where
  pure := ret
  bind := bind

def context : HookM S W H (Context S H) := fun ctx => .done (.ok ctx, .none)

def change (changes : Changes S H) : HookM S W H Unit := fun _ => .done (.ok (), changes)

def interrupt (i : Interrupt) : HookM S W H α := fun _ => .done (.error i, .none)

def fault (f : FlowFault) : HookM S W H α := interrupt (.fault f)

def signal (s : Signal) : HookM S W H α := interrupt (.signal s)

def ofExcept (e : Except FlowFault α) : HookM S W H α :=
  match e with
  | .ok a => pure a
  | .error f => fault f

/-- A task as a handler that leaves the context alone. -/
def lift (task : Task W α) : HookM S W H α := fun _ => task.map fun a => (.ok a, .none)

def state : HookM S W H S := return (← context).state

def setState (s : S) : HookM S W H Unit := change { state := some s }

def checkpoint (stage : Stage) : HookM S W H Unit := change { checkpoints := [stage] }

def setOutput (v : Json) : HookM S W H Unit := change { output := some (some v) }

/-- Attaches a hook for the remainder of the call, unless the kind of the flow refuses it. -/
def attach (hook : HookBinding H) : HookM S W H (Except RegistrationFault Unit) := do
  let ctx ← context
  if ctx.token.kind.allows hook.stage then do
    change { attached := [hook] }
    pure (.ok ())
  else pure (.error (.notAllowed ctx.token hook.stage))

end HookM

end StagedFlow
