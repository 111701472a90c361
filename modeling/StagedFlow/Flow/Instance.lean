import StagedFlow.Flow.Definition
import StagedFlow.Flow.Event
import StagedFlow.Flow.Platform
import StagedFlow.Hook.Map

/-!
# Running a call

A call walks the stages of its plan and stops at the first interrupt. Brackets that the walk opened
and did not close are then closed, newest first; what interrupts a closing stage there is dropped.
-/

namespace StagedFlow

structure Instance (K : Type) (V : K → Type) (W H : Type) where
  definition : Definition K V W H
  hooks : HookMap H
  observers : List (Observer W)

namespace Instance

variable {K : Type} {V : K → Type} {S W H : Type}

def name (inst : Instance K V W H) : String := inst.definition.token.name

def plan (inst : Instance K V W H) : Plan := inst.definition.plan

/-- The route, if there is one, and the guard of the flow accept the request. -/
def canActivate (inst : Instance K V W H) (request : Request) : Bool :=
  (match inst.definition.route with
   | none => true
   | some route => route.accepts request)
    && inst.definition.guard request

def emit (inst : Instance K V W H) (event : FlowEvent) : Task W Unit :=
  Task.change (Observer.emit inst.observers event)

/-- Runs hooks in their order up to the first one that interrupts. -/
def runHooks (p : Platform S W H) :
    List (HookBinding H) → Context S H → Task W (Except Interrupt Unit × Context S H)
  | [], ctx => .done (.ok (), ctx)
  | hook :: rest, ctx => do
    match ← p.invoke hook ctx with
    | (.ok (), changes) => runHooks p rest (ctx.apply changes)
    | (.error interrupt, changes) => .done (.error interrupt, ctx.apply changes)

/-- Enters a stage and runs the hooks that fire there. -/
def runStage (p : Platform S W H) (inst : Instance K V W H) (phase : Phase) (stage : Stage)
    (ctx : Context S H) : Task W (Except Interrupt Unit × Context S H) := do
  let ctx := ctx.enter stage
  inst.emit (.entered inst.name ctx.callId phase stage)
  runHooks p (inst.hooks.resolve stage ctx.scope ctx.attached) ctx

/-- The open brackets, newest first, after a stage is entered. -/
def enterBrackets (plan : Plan) (stage : Stage) (opened : List Bracket) : List Bracket :=
  let opened := match plan.openedBy? stage with
    | some bracket => bracket :: opened
    | none => opened
  match plan.closedBy? stage with
  | some bracket => opened.filter (· != bracket)
  | none => opened

/-- Where a walk through the stages has ended. -/
structure Walked (S H : Type) where
  result : Except Interrupt Unit
  opened : List Bracket
  context : Context S H

def walk (p : Platform S W H) (inst : Instance K V W H) :
    List (Phase × Stage) → List Bracket → Context S H → Task W (Walked S H)
  | [], opened, ctx => .done ⟨.ok (), opened, ctx⟩
  | (phase, stage) :: rest, opened, ctx => do
    let opened := enterBrackets inst.plan stage opened
    match ← runStage p inst phase stage ctx with
    | (.ok (), ctx) => walk p inst rest opened ctx
    | (.error interrupt, ctx) => .done ⟨.error interrupt, opened, ctx⟩

/-- Closes brackets in their order; interrupts are dropped. -/
def closeAll (p : Platform S W H) (inst : Instance K V W H) :
    List Bracket → Context S H → Task W (Context S H)
  | [], ctx => .done ctx
  | bracket :: rest, ctx => do
    let phase := (inst.plan.phaseOf? bracket.release).getD .finalize
    let (_, ctx) ← runStage p inst phase bracket.release ctx
    closeAll p inst rest ctx

/-- How a call ends, given the result of its walk and the output set when it ends. -/
def conclude (result : Except Interrupt Unit) (output : Option Json) : Except FlowFault Outcome :=
  match result with
  | .ok () => .ok (.completed output)
  | .error (.signal signal) => .ok (.ofSignal signal)
  | .error (.fault fault) => .error fault

def finalEvent (flow call : String) : Except FlowFault Outcome → FlowEvent
  | .ok outcome => .completed flow call outcome.label
  | .error fault => .failed flow call fault.message

def run (p : Platform S W H) (inst : Instance K V W H) (input : Json) (deps : S) :
    Task W (Except FlowFault Outcome) := do
  let callId := p.nextId (← Task.look)
  Task.change p.countCall
  inst.emit (.started inst.name callId)
  let ctx := Context.start callId inst.definition.token input (p.scope deps) deps
  let walked ← walk p inst inst.plan.steps [] ctx
  let ctx ← closeAll p inst walked.opened walked.context
  let outcome := conclude walked.result ctx.output
  inst.emit (finalEvent inst.name callId outcome)
  Task.change (p.retire ctx.state)
  pure outcome

end Instance

end StagedFlow
