import StagedFlow.Tool.Handler

/-!
# Admission of calls

Calls may be limited in number by permits. A call takes a permit when it enters its semaphore stage,
and fails if none is free; it gives the permit back at the closing stage, or else when it ends.
-/

namespace StagedFlow.Admission

variable {X L : Type}

def refusal : String := "too many concurrent tool calls"

/-- Takes a permit into the state of the call. A permit that the state held before is given back. -/
def acquire : ToolM X L Unit := do
  let w ← HookM.lift Task.look
  if w.permits = 0 then HookM.signal (.fail (some refusal))
  else
    HookM.lift (Task.change World.takePermit)
    if (← HookM.state).contains .permit then HookM.lift (Task.change World.givePermit)
    ToolM.put .permit ()

/-- Gives the permit of the call back, if it holds one. -/
def release : ToolM X L Unit := do
  let state ← HookM.state
  if state.contains .permit then HookM.lift (Task.change World.givePermit)
  HookM.setState (state.erase .permit)

/-- A state that is given up gives back its permit. -/
def retire (state : CallState X L) (w : World L) : World L :=
  if state.contains .permit then w.givePermit else w

/-- The hooks that admit tool calls. -/
def hooks : List (HookBinding (Handler X L)) :=
  [⟨"concurrency:acquire", "acquireSemaphore", 0, none, .acquire⟩,
   ⟨"concurrency:release", "releaseSemaphore", 0, none, .release⟩]

end StagedFlow.Admission
