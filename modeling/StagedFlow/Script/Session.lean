import StagedFlow.Script.Fixture

/-!
# Calls on running flows

The steps that work on the running flows of a server: calls, alone and side by side, requests, and
questions about the flows. Each step gives an answer and the world after it.
-/

namespace StagedFlow.Script

abbrev ScriptFlows := ServedFlows Hook Log

abbrev ScriptInstance :=
  Instance ProviderKey (ProviderKey.Val Hook Log) (World Log) (Handler Hook Log)

def pair (a b : String) : Json := .arr [.str a, .str b]

/-- All about a running flow. -/
def instanceToJson (inst : ScriptInstance) : Json :=
  let definition := inst.definition
  let kind := definition.token.kind
  .obj
    [("name", .str inst.name), ("kind", .str kind.name), ("token", .str inst.hooks.token.name),
     ("plan", .arr (inst.plan.steps.map fun (phase, stage) => pair phase.name stage)),
     ("scopes", .arr (inst.plan.brackets.map fun bracket => pair bracket.acquire bracket.release)),
     ("access", .str definition.access.name),
     ("route", .ofString? (definition.route.map Route.path)),
     ("deps", .arr (definition.dependencies.map fun key => .str (Named.typeName key))),
     ("schemas",
      .arr [.bool definition.inputSchema.isSome, .bool definition.outputSchema.isSome]),
     ("hooks",
      .arr (kind.stages.flatMap fun stage =>
        (inst.hooks.hooksAt stage).map HookBinding.toJson)),
     ("hook_count", .nat inst.hooks.size), ("unhooked", .bool (inst.hooks.size == 0))]

/-- Runs a call that a step describes. -/
def callOf (flows : ScriptFlows) (v : Json) : Task (World Log) (Except FlowFault Outcome) :=
  flows.run platform ((v.textField? "flow").getD "") (v.valueField "input")
    (readState (v.valueField "deps"))

/-- Runs a task that answers a step. -/
def answering {α : Type} (task : Task (World Log) α) (shown : α → Json) (w : World Log) :
    Json × World Log :=
  let (a, w) := task.run w
  (shown a, w)

/-- Calls side by side; what they log is thrown away. -/
def joined (flows : ScriptFlows) (calls : List Json) (w : World Log) : Json × World Log :=
  let (outcomes, after) := (Task.all (calls.map (callOf flows))).run w
  (.arr (outcomes.map Outcome.resultToJson), { after with own := w.own })

/-- A step on running flows, if it is one. -/
def flowStep? (flows : ScriptFlows) (v : Json) (w : World Log) : Option (Json × World Log) :=
  let name := (v.textField? "flow").getD ""
  match v.textField? "do" with
  | some "run" => some (answering (callOf flows v) Outcome.resultToJson w)
  | some "flow" => some (answering (callOf flows v) Outcome.outputToJson w)
  | some "join" => some (joined flows (v.itemsField "calls") w)
  | some "dispatch" =>
    some (answering
      (dispatch platform (readRequest (v.valueField "request")) (readState (v.valueField "deps"))
        flows.routed)
      Response.toJson w)
  | some "activate" =>
    let accepts (inst : ScriptInstance) : Json :=
      .bool (inst.canActivate (readRequest (v.valueField "request")))
    some (((flows.get? name).map accepts).getD .null, w)
  | some "names" =>
    some (.obj
      [("names", .arr (flows.names.map .str)), ("len", .nat flows.names.length),
       ("empty", .bool flows.names.isEmpty), ("routed", .nat flows.routed.length),
       ("unrouted", .bool flows.routed.isEmpty)], w)
  | some "has" =>
    some (.arr [.bool (flows.contains name), .bool (flows.get? name).isSome], w)
  | some "info" => some (((flows.get? name).map instanceToJson).getD .null, w)
  | _ => none

end StagedFlow.Script
