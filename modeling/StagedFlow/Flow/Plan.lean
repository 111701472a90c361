/-!
# Stage plans

A plan lists the stages of a flow in four phases and declares which stages form a bracket: once the
opening stage of a bracket was entered, its closing stage runs, whatever way the call ends.
-/

namespace StagedFlow

abbrev Stage := String

inductive Phase where
  | pre
  | execute
  | post
  | finalize
deriving DecidableEq

def Phase.name : Phase → String
  | pre => "pre"
  | execute => "execute"
  | post => "post"
  | finalize => "finalize"

/-- A stage that acquires something and the stage that releases it. -/
structure Bracket where
  acquire : Stage
  release : Stage
deriving DecidableEq

structure Plan where
  pre : List Stage
  execute : List Stage
  post : List Stage
  finalize : List Stage
  brackets : List Bracket
deriving DecidableEq

inductive PlanFault where
  | duplicateStage (stage : Stage)
  | unknownStage (stage : Stage)
  | releaseBeforeAcquire (bracket : Bracket)
  | overlappingBracket (stage : Stage)
deriving DecidableEq

def PlanFault.message : PlanFault → String
  | duplicateStage stage => "stage '" ++ stage ++ "' appears more than once"
  | unknownStage stage => "scoped stage '" ++ stage ++ "' is not part of the plan"
  | releaseBeforeAcquire bracket =>
    "release stage '" ++ bracket.release ++ "' runs before its acquire stage '" ++ bracket.acquire
      ++ "'"
  | overlappingBracket stage => "stage '" ++ stage ++ "' belongs to more than one scope"

namespace Plan

def empty : Plan := ⟨[], [], [], [], []⟩

def append (plan : Plan) (phase : Phase) (stages : List Stage) : Plan :=
  match phase with
  | .pre => { plan with pre := plan.pre ++ stages }
  | .execute => { plan with execute := plan.execute ++ stages }
  | .post => { plan with post := plan.post ++ stages }
  | .finalize => { plan with finalize := plan.finalize ++ stages }

def bracket (plan : Plan) (acquire release : Stage) : Plan :=
  { plan with brackets := plan.brackets ++ [⟨acquire, release⟩] }

/-- Every stage with its phase, in execution order. -/
def steps (plan : Plan) : List (Phase × Stage) :=
  plan.pre.map (Phase.pre, ·) ++ plan.execute.map (Phase.execute, ·)
    ++ plan.post.map (Phase.post, ·) ++ plan.finalize.map (Phase.finalize, ·)

def stages (plan : Plan) : List Stage :=
  plan.pre ++ plan.execute ++ plan.post ++ plan.finalize

def phaseOf? (plan : Plan) (stage : Stage) : Option Phase :=
  (plan.steps.find? fun step => step.2 == stage).map Prod.fst

def contains (plan : Plan) (stage : Stage) : Bool := (plan.phaseOf? stage).isSome

def openedBy? (plan : Plan) (stage : Stage) : Option Bracket :=
  plan.brackets.find? fun bracket => bracket.acquire == stage

def closedBy? (plan : Plan) (stage : Stage) : Option Bracket :=
  plan.brackets.find? fun bracket => bracket.release == stage

/-- The first stage that repeats one of `seen` or an earlier one. -/
def firstRepeat? (seen : List Stage) : List Stage → Option Stage
  | [] => none
  | stage :: rest =>
    if seen.contains stage then some stage else firstRepeat? (seen ++ [stage]) rest

def position? (stages : List Stage) (stage : Stage) : Except PlanFault Nat :=
  match stages.idxOf? stage with
  | some i => .ok i
  | none => .error (.unknownStage stage)

/-- Checks a bracket against the stages of the brackets before it. -/
def checkBracket (stages used : List Stage) (bracket : Bracket) : Except PlanFault Unit := do
  if used.contains bracket.acquire || bracket.acquire == bracket.release then
    throw (.overlappingBracket bracket.acquire)
  if used.contains bracket.release then
    throw (.overlappingBracket bracket.release)
  let release ← position? stages bracket.release
  let acquire ← position? stages bracket.acquire
  if release < acquire then throw (.releaseBeforeAcquire bracket)

/-- Checks brackets in their order; `used` holds the stages of the brackets before them. -/
def checkBrackets (stages : List Stage) : List Stage → List Bracket → Except PlanFault Unit
  | _, [] => .ok ()
  | used, bracket :: rest => do
    checkBracket stages used bracket
    checkBrackets stages (used ++ [bracket.acquire, bracket.release]) rest

/-- Stages must be distinct, and brackets well-formed and disjoint. -/
def validate (plan : Plan) : Except PlanFault Unit :=
  match firstRepeat? [] plan.stages with
  | some stage => .error (.duplicateStage stage)
  | none => checkBrackets plan.stages [] plan.brackets

end Plan

end StagedFlow
