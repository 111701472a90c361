import StagedFlow.Flow.Event
import StagedFlow.Flow.Fault
import StagedFlow.Hook.Binding

/-!
# The registry of hooks and observers

Hooks on flows of others are kept by the name of the flow. Within a flow a hook is known by its
stage and its name; observers are known by their name.
-/

namespace StagedFlow

structure HookRegistry (W H : Type) where
  hooks : List (String × HookBinding H)
  observers : List (Observer W)

namespace HookRegistry

variable {W H : Type}

def empty : HookRegistry W H := ⟨[], []⟩

/-- The hooks registered for a flow name, in registration order. -/
def hooksFor (registry : HookRegistry W H) (flow : String) : List (HookBinding H) :=
  (registry.hooks.filter fun entry => entry.1 == flow).map Prod.snd

def countFor (registry : HookRegistry W H) (flow : String) : Nat := (registry.hooksFor flow).length

/-- A hook of that name is registered for the flow, at whatever stage. -/
def containsHook (registry : HookRegistry W H) (flow name : String) : Bool :=
  (registry.hooksFor flow).any fun hook => hook.name == name

/-- Refused if the kind does not allow the stage, or if stage and name are taken. -/
def register (registry : HookRegistry W H) (token : FlowToken) (hook : HookBinding H) :
    Except RegistrationFault (HookRegistry W H) :=
  if !token.kind.allows hook.stage then .error (.notAllowed token hook.stage)
  else if (registry.hooksFor token.name).any fun h => h.stage == hook.stage && h.name == hook.name
  then .error (.duplicateHook token.name hook.stage hook.name)
  else .ok { registry with hooks := registry.hooks ++ [(token.name, hook)] }

/-- Refused if the name is taken. -/
def observe (registry : HookRegistry W H) (observer : Observer W) :
    Except RegistrationFault (HookRegistry W H) :=
  if registry.observers.any fun o => o.name == observer.name then
    .error (.duplicateObserver observer.name)
  else .ok { registry with observers := registry.observers ++ [observer] }

end HookRegistry

end StagedFlow
