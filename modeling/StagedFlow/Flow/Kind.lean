import StagedFlow.Flow.Plan

/-!
# Kinds and tokens of flows

A kind is a category of flows with an allow-list of stages. A token names one flow of a kind.
-/

namespace StagedFlow

structure FlowKind where
  name : String
  stages : List Stage
deriving DecidableEq

namespace FlowKind

/-- Hooks and plans of this kind may use the stage. -/
def allows (kind : FlowKind) (stage : Stage) : Bool := kind.stages.contains stage

/-- The first stage of a plan outside of the allow-list. -/
def firstDisallowed? (kind : FlowKind) (plan : Plan) : Option Stage :=
  plan.stages.find? fun stage => !kind.allows stage

end FlowKind

structure FlowToken where
  name : String
  kind : FlowKind
deriving DecidableEq

/-- Who may reach a flow through a transport. -/
inductive Access where
  | everyone
  | authorized
deriving DecidableEq

def Access.name : Access → String
  | everyone => "public"
  | authorized => "authorized"

end StagedFlow
