import StagedFlow.Flow.Kind

/-!
# Hook bindings

A hook is bound to a stage under a name. Its behaviour is a *handler code*: what a code does is said
by the platform that runs it, so that a call's context can hold the hooks attached to the call.
-/

namespace StagedFlow

structure HookBinding (H : Type) where
  name : String
  stage : Stage
  priority : Int
  owner : Option String
  handler : H

namespace HookBinding

variable {H H' : Type}

/-- A flow's own handler of a stage is named after the stage. -/
def own (stage : Stage) (handler : H) : HookBinding H := ⟨stage, stage, 0, none, handler⟩

/-- A hook without an owner fires for every call, an owned hook for the calls under its owner. -/
def appliesTo (hook : HookBinding H) (scope : Option String) : Bool :=
  match hook.owner with
  | none => true
  | some owner => scope == some owner

/-- Lower priorities run first. -/
def before (a b : HookBinding H) : Bool := decide (a.priority ≤ b.priority)

def mapHandler (f : H → H') (hook : HookBinding H) : HookBinding H' :=
  { hook with handler := f hook.handler }

end HookBinding

end StagedFlow
