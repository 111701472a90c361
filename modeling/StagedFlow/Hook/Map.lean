import StagedFlow.Flow.Fault
import StagedFlow.Hook.Binding

/-!
# Hook maps

The hooks of one flow: its own bindings in declaration order, then those of others in registration
order. The hooks of a stage run in ascending priority, and in this order where priorities are equal.
-/

namespace StagedFlow

structure HookMap (H : Type) where
  token : FlowToken
  bindings : List (HookBinding H)

namespace HookMap

variable {H : Type}

/-- Refuses the first binding whose stage the kind does not allow. -/
def build (token : FlowToken) (own others : List (HookBinding H)) :
    Except RegistrationFault (HookMap H) :=
  match (own ++ others).find? fun hook => !token.kind.allows hook.stage with
  | some hook => .error (.notAllowed token hook.stage)
  | none => .ok ⟨token, own ++ others⟩

/-- The hooks of a stage in the order in which they run. -/
def hooksAt (map : HookMap H) (stage : Stage) : List (HookBinding H) :=
  (map.bindings.filter fun hook => hook.stage == stage).mergeSort HookBinding.before

/-- The hooks that fire on entering a stage: those of the map, and behind them at equal priority
those attached to the call. -/
def resolve (map : HookMap H) (stage : Stage) (scope : Option String)
    (attached : List (HookBinding H)) : List (HookBinding H) :=
  let fires (hook : HookBinding H) : Bool := hook.appliesTo scope
  let here := attached.filter fun hook => hook.stage == stage
  ((map.hooksAt stage).filter fires ++ here.filter fires).mergeSort HookBinding.before

def size (map : HookMap H) : Nat := map.bindings.length

end HookMap

end StagedFlow
