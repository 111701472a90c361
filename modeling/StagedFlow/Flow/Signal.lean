import StagedFlow.Flow.Fault
import StagedFlow.Json.Basic

/-!
# Signals, interrupts and outcomes

A hook that does not return normally interrupts its call: by a signal, a deliberate early end, or by
a fault. A call that no fault ended has an outcome.
-/

namespace StagedFlow

inductive Signal where
  | respond (value : Json)
  | next
  | abort (reason : Option String)
  | fail (reason : Option String)
  | handled

inductive Interrupt where
  | signal (signal : Signal)
  | fault (fault : FlowFault)

inductive Outcome where
  | responded (value : Json)
  | completed (output : Option Json)
  | noMatch
  | aborted (reason : Option String)
  | failed (reason : Option String)
  | handled

namespace Outcome

def ofSignal : Signal → Outcome
  | .respond value => responded value
  | .next => noMatch
  | .abort reason => aborted reason
  | .fail reason => failed reason
  | .handled => handled

def label : Outcome → String
  | responded _ => "respond"
  | completed _ => "completed"
  | noMatch => "next"
  | aborted _ => "abort"
  | failed _ => "fail"
  | handled => "handled"

/-- The value that a direct caller receives. -/
def output? : Outcome → Option Json
  | responded value => some value
  | completed output => output
  | _ => none

end Outcome

end StagedFlow
