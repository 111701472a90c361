import StagedFlow.Bag
import StagedFlow.Flow.Context
import StagedFlow.Request

/-!
# Flow definitions

A definition describes a flow: its plan, who may reach it and how, the providers it depends on, and
how its own handlers come from the providers.
-/

namespace StagedFlow

/-- Types of values that show under a name in messages. -/
class Named (K : Type) where
  typeName : K → String

/-- A flow made from its providers: its own handlers, and a check to pass before it is used. -/
structure PreparedFlow (W H : Type) where
  table : List (HookBinding H)
  ready : Task W (Except FlowFault Unit)

/-- A flow over providers `V`, a world `W` and handler codes `H`. -/
structure Definition (K : Type) (V : K → Type) (W H : Type) where
  token : FlowToken
  plan : Plan
  access : Access
  inputSchema : Option Json
  outputSchema : Option Json
  route : Option Route
  guard : Request → Bool
  dependencies : List K
  prepare : Bag K V → Except FlowFault (PreparedFlow W H)

def Definition.name {K : Type} {V : K → Type} {W H : Type} (definition : Definition K V W H) :
    String :=
  definition.token.name

end StagedFlow
