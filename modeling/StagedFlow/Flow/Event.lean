import StagedFlow.Flow.Plan

/-!
# Events of a call

Every call reports its start, each stage it enters, and its end. Observers see all events of all
calls and cannot change a call.
-/

namespace StagedFlow

inductive FlowEvent where
  | started (flow call : String)
  | entered (flow call : String) (phase : Phase) (stage : Stage)
  | completed (flow call outcome : String)
  | failed (flow call reason : String)
deriving DecidableEq

namespace FlowEvent

def flow : FlowEvent → String
  | started flow _ => flow
  | entered flow _ _ _ => flow
  | completed flow _ _ => flow
  | failed flow _ _ => flow

def call : FlowEvent → String
  | started _ call => call
  | entered _ call _ _ => call
  | completed _ call _ => call
  | failed _ call _ => call

/-- What the event says, without flow and call. -/
def describe : FlowEvent → String
  | started _ _ => "start"
  | entered _ _ phase stage => "stage " ++ phase.name ++ "/" ++ stage
  | completed _ _ outcome => "complete " ++ outcome
  | failed _ _ reason => "failed " ++ reason

end FlowEvent

/-- A named listener; `notify` says what an event does to the world. -/
structure Observer (W : Type) where
  name : String
  notify : FlowEvent → W → W

def Observer.emit {W : Type} (observers : List (Observer W)) (event : FlowEvent) (w : W) : W :=
  observers.foldl (fun w observer => observer.notify event w) w

end StagedFlow
