import StagedFlow.Flow.Platform
import StagedFlow.Tool.State

/-!
# Handlers of a tool server

The handler codes of a tool server: those of the two tool flows, those that admit calls to a limited
number of permits, and those of the server's own hooks, of a type `X` that the server chooses.
-/

namespace StagedFlow

/-- What calling a tool works with. -/
structure CallFlow (X L : Type) where
  tools : ToolRegistry X (World L)
  auth : AuthConfig
  renderer : Option (Renderer (World L))

/-- What listing tools works with. -/
structure ListFlow (X L : Type) where
  tools : ToolRegistry X (World L)
  auth : AuthConfig

inductive CallStep where
  | parseInput
  | findTool
  | checkAuthorization
  | createContext
  | validateInput
  | execute
  | validateOutput
  | finalize
  | checkpoint

inductive ListStep where
  | parseInput
  | findTools
  | finalize

inductive Handler (X L : Type) where
  | custom (hook : X)
  | call (flow : CallFlow X L) (step : CallStep)
  | list (flow : ListFlow X L) (step : ListStep)
  | acquire
  | release

/-- What a handler of a tool server does. -/
abbrev ToolM (X L : Type) := HookM (CallState X L) (World L) (Handler X L)

namespace ToolM

variable {X L : Type}

/-- The value of a slot that the call cannot do without. -/
def require (slot : Slot) : ToolM X L (slot.Val X L) := do
  HookM.ofExcept ((← HookM.state).require slot)

def get? (slot : Slot) : ToolM X L (Option (slot.Val X L)) := return (← HookM.state).get? slot

def put (slot : Slot) (v : slot.Val X L) : ToolM X L Unit := do
  HookM.setState ((← HookM.state).insert slot v)

end ToolM

end StagedFlow
