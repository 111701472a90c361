import StagedFlow.Flow.Registry

/-!
# Dispatching requests

A request goes along a chain of flows bound to routes. The first flow that accepts it decides the
answer, unless its call ends without a match; then the request goes on to the next flow.
-/

namespace StagedFlow

variable {K : Type} {V : K → Type} {S W H : Type}

/-- The answer for the end of a call; none if the request goes on. -/
def Response.ofCall? : Except FlowFault Outcome → Option Response
  | .ok (.responded body) => some (.json 200 body)
  | .ok (.completed (some body)) => some (.json 200 body)
  | .ok (.completed none) => some (.reply 204 none)
  | .ok (.aborted _) => some .internalError
  | .ok (.failed _) => some .internalError
  | .ok .handled => some .handled
  | .ok .noMatch => none
  | .error fault =>
    some (.json fault.status
      (.obj [("error", .str fault.publicMessage), ("code", .int fault.code)]))

/-- The flow demands credentials and the request carries none. -/
def Instance.refuses (inst : Instance K V W H) (request : Request) : Bool :=
  inst.definition.access == .authorized && (request.header? "authorization").isNone

/-- Sends a request along a chain. Each flow starts from the caller's own state. -/
def dispatch (p : Platform S W H) (request : Request) (deps : S) :
    List (Instance K V W H) → Task W Response
  | [] => .done .unmatched
  | inst :: rest =>
    if !inst.canActivate request then dispatch p request deps rest
    else if inst.refuses request then .done .unauthorized
    else do
      match Response.ofCall? (← inst.run p request.body deps) with
      | some response => pure response
      | none => dispatch p request deps rest

end StagedFlow
