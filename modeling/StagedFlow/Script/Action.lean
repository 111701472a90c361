import StagedFlow.Json.Pointer
import StagedFlow.Script.Written
import StagedFlow.Tool.Platform

/-!
# Scripted hooks

A scripted hook is a list of actions on its call. It writes to a log that all calls of a server
share.
-/

namespace StagedFlow.Script

/-- A log, newest line first. -/
abbrev Log := List Json

/-- What an action can be made to depend on. -/
inductive Test where
  /-- What a pointer finds in the input is this value, or nothing. -/
  | input (pointer : String) (expected : Option Json)
  | has (pointer : String)
  | scope (scope : Option String)
  | state (i : Nat)
  | checkpoint (stage : Stage)

/-- A change of what a tool call has gathered. -/
inductive ToolEdit where
  | arguments (v : Json)
  | name (name : String)
  | validated (v : Json)
  | execution (v : Json)
  | raw (v : Json)
  | auth (info : AuthInfo)

inductive Action where
  | log (v : Json)
  | giveWay
  | showContext
  | showToolState
  | checkpoint (stage : Stage)
  | output (v : Json)
  | outputInput (pointer : String)
  | outputState (i : Nat)
  | interrupt (interrupt : Interrupt)
  /-- Attaches a hook to the call; a refusal fails the call if `strict` holds, else it is logged. -/
  | attach (strict : Bool) (name : String) (stage : Stage) (priority : Int)
      (owner : Option String) (quiet : Bool) (actions : List Action)
  | put (i : Nat) (v : Json)
  | edit (i : Nat) (v : Json)
  | take (i : Nat)
  | drop (i : Nat)
  | require (i : Nat)
  | branch (test : Test) (yes no : List Action)
  | editTool (edit : ToolEdit)
  | dropTool (slot : Slot)

/-- A scripted hook: it logs where it runs unless it is quiet, then acts. -/
structure Hook where
  name : String
  quiet : Bool
  actions : List Action

/-- What scripted hooks do, on a server with scripted hooks. -/
abbrev HookScript := ToolM Hook Log

def write (v : Json) : HookScript Unit := HookM.lift (Task.change (World.mapOwn (v :: ·)))

def Test.holds (test : Test) (ctx : Context (CallState Hook Log) (Handler Hook Log)) : Bool :=
  match test with
  | input pointer (some expected) =>
    match ctx.input.pointer? pointer with
    | some v => v.same expected
    | none => false
  | input pointer none => (ctx.input.pointer? pointer).isNone
  | has pointer => (ctx.input.pointer? pointer).isSome
  | scope s => ctx.scope == s
  | state i => ctx.state.contains (.value i)
  | checkpoint stage => ctx.checkpoints.contains stage

/-- The numbered slots that a context is shown with. -/
def shownSlots : List Nat := [0, 1, 2, 3]

/-- A context as it is logged. -/
def contextToJson (ctx : Context (CallState Hook Log) (Handler Hook Log)) : Json :=
  let slot? (i : Nat) : Option (String × Json) :=
    (ctx.state.get? (.value i)).map fun v => (toString i, v)
  .obj
    [("call", .str ctx.callId), ("flow", .str ctx.token.name), ("kind", .str ctx.token.kind.name),
     ("stage", .ofString? ctx.stage), ("scope", .ofString? ctx.scope), ("input", ctx.input),
     ("output", ctx.output.getD .null), ("checkpoints", .arr (ctx.checkpoints.map .str)),
     ("state", .obj (shownSlots.filterMap slot?)), ("size", .nat ctx.state.size)]

/-- What a tool call has gathered, as it is logged. -/
def toolStateToJson (state : CallState Hook Log) : Json :=
  let shown {α : Type} (f : α → Json) (v : Option α) : Json := (v.map f).getD .null
  .obj
    [("params", shown CallParams.toJson (state.get? .params)),
     ("entry", shown (fun tool => .str (Tool.name tool)) (state.get? .tool)),
     ("context", shown ToolCall.toJson (state.get? .call)),
     ("anonymous",
      shown (fun access => .arr [.str (AnonymousAccess.app access), .str access.tool])
        (state.get? .anonymous)),
     ("validated", shown id (state.get? .validated)),
     ("execution", shown id (state.get? .execution)),
     ("raw", shown id (state.get? .raw))]

/-- Changes the parameters of a tool call, if there are any. -/
def editParams (f : CallParams → CallParams) : HookScript Unit := do
  let params : Option CallParams ← ToolM.get? .params
  match params with
  | some params => ToolM.put .params (f params)
  | none => pure ()

def ToolEdit.run : ToolEdit → HookScript Unit
  | .arguments v => editParams fun params => { params with arguments := some v }
  | .name s => editParams fun params => { params with name := s }
  | .validated v => ToolM.put .validated v
  | .execution v => ToolM.put .execution v
  | .raw v => ToolM.put .raw v
  | .auth info => ToolM.put .auth info

/-- Removes a slot from the state; true if it was there. -/
def dropSlot (slot : Slot) : HookScript Bool := do
  let state ← HookM.state
  HookM.setState (state.erase slot)
  pure (state.contains slot)

/-- Attaches a hook, and logs or raises a refusal. -/
def attach (strict : Bool) (hook : HookBinding Hook) : HookScript Unit := do
  match ← HookM.attach (hook.mapHandler .custom), strict with
  | .ok (), true => pure ()
  | .ok (), false => write (.str "attached")
  | .error fault, true => HookM.fault (.setupFailed fault.message)
  | .error fault, false => write fault.toJson

mutual

def Action.run : Action → HookScript Unit
  | .log v => write v
  | .giveWay => HookM.lift Task.giveWay
  | .showContext => do write (contextToJson (← HookM.context))
  | .showToolState => do write (toolStateToJson (← HookM.state))
  | .checkpoint stage => HookM.checkpoint stage
  | .output v => HookM.setOutput v
  | .outputInput pointer => do
    HookM.setOutput (((← HookM.context).input.pointer? pointer).getD .null)
  | .outputState i => do
    let v : Json ← ToolM.require (.value i)
    HookM.setOutput v
  | .interrupt interrupt => HookM.interrupt interrupt
  | .attach strict name stage priority owner quiet actions =>
    attach strict ⟨name, stage, priority, owner, ⟨name, quiet, actions⟩⟩
  | .put i v => ToolM.put (.value i) v
  | .edit i v => do
    let found := (← HookM.state).contains (.value i)
    if found then ToolM.put (.value i) v
    write (.bool found)
  | .take i => do
    let v : Option Json ← ToolM.get? (.value i)
    let _ ← dropSlot (.value i)
    write (.obj [("took", v.getD .null)])
  | .drop i => do write (.bool (← dropSlot (.value i)))
  | .require i => do
    let _ ← ToolM.require (.value i)
  | .branch test yes no => do
    if test.holds (← HookM.context) then runAll yes else runAll no
  | .editTool edit => edit.run
  | .dropTool slot => do write (.bool (← dropSlot slot))

def runAll : List Action → HookScript Unit
  | [] => pure ()
  | action :: rest => do
    action.run
    runAll rest

end

def Hook.run (hook : Hook) : HookScript Unit := do
  let ctx ← HookM.context
  if !hook.quiet then
    write (.str (ctx.token.name ++ "/" ++ ctx.stage.getD "" ++ "/" ++ hook.name))
  runAll hook.actions

/-- The platform of a server with scripted hooks. -/
def platform : Platform (CallState Hook Log) (World Log) (Handler Hook Log) :=
  toolPlatform Hook.run

end StagedFlow.Script
