import StagedFlow.Json.Field
import StagedFlow.Script.Action

/-!
# Reading scripts

Scripted hooks and the states that calls start from, read from JSON. What is not a script reads as
none.
-/

namespace StagedFlow.Script

/-- A reason, if one is given. -/
def reason? : List Json → Option String
  | .str s :: _ => some s
  | _ => none

def readSession (v : Json) : SessionInfo :=
  ⟨v.textField? "client_name", v.textField? "user_agent"⟩

def readAuth (v : Json) : AuthInfo :=
  ⟨Json.strings (v.itemsField "granted"), (v.field? "session").map readSession⟩

def readFault? : Json → Option FlowFault
  | .arr [.str "NotRegistered", .str s] => some (.notRegistered s)
  | .arr [.str "InvalidInput", .str s] => some (.invalidInput s)
  | .arr [.str "NotFound", .str kind, .str name] => some (.notFound kind name)
  | .arr [.str "AuthorizationRequired", .str operation, .str app, .str url] =>
    some (.authorizationRequired operation app url)
  | .arr [.str "ExecutionSetupFailed", .str s] => some (.setupFailed s)
  | .arr [.str "OperationExecution", .str operation, .str reason] =>
    some (.operationFailed operation reason)
  | .arr [.str "InvalidOutput", .str operation] => some (.invalidOutput operation)
  | .arr [.str "Internal", .str s] => some (.internal s)
  | _ => none

def readTest? : Json → Option Test
  | .arr [.str "input", .str pointer] => some (.input pointer none)
  | .arr [.str "input", .str pointer, v] => some (.input pointer (some v))
  | .arr [.str "has", .str pointer] => some (.has pointer)
  | .arr [.str "scope", .str s] => some (.scope (some s))
  | .arr [.str "scope", .null] => some (.scope none)
  | .arr [.str "state", i] => i.asNat?.map .state
  | .arr [.str "checkpoint", .str stage] => some (.checkpoint stage)
  | _ => none

def readToolEdit? (what : String) (v : Json) : Option ToolEdit :=
  match what with
  | "arguments" => some (.arguments v)
  | "name" => v.asString?.map .name
  | "validated" => some (.validated v)
  | "execution" => some (.execution v)
  | "raw" => some (.raw v)
  | "auth" => some (.auth (readAuth v))
  | _ => none

def toolSlot? : String → Option Slot
  | "params" => some .params
  | "entry" => some .tool
  | "context" => some .call
  | "validated" => some .validated
  | "execution" => some .execution
  | "raw" => some .raw
  | "auth" => some .auth
  | "listed" => some .listing
  | _ => none

/-- An action without parts that are actions. -/
def readPlain? (kind : String) (args : List Json) : Option Action :=
  match kind, args with
  | "log", [v] => some (.log v)
  | "yield", [] => some .giveWay
  | "ctx", [] => some .showContext
  | "tool_state", [] => some .showToolState
  | "checkpoint", [.str stage] => some (.checkpoint stage)
  | "output", [v] => some (.output v)
  | "output_input", [.str pointer] => some (.outputInput pointer)
  | "output_state", [i] => i.asNat?.map .outputState
  | "respond", [v] => some (.interrupt (.signal (.respond v)))
  | "next", [] => some (.interrupt (.signal .next))
  | "handled", [] => some (.interrupt (.signal .handled))
  | "abort", reason => some (.interrupt (.signal (.abort (reason? reason))))
  | "fail", reason => some (.interrupt (.signal (.fail (reason? reason))))
  | "error", [fault] => (readFault? fault).map fun fault => .interrupt (.fault fault)
  | "put", [i, v] => i.asNat?.map fun i => .put i v
  | "edit", [i, v] => i.asNat?.map fun i => .edit i v
  | "take", [i] => i.asNat?.map .take
  | "drop", [i] => i.asNat?.map .drop
  | "require", [i] => i.asNat?.map .require
  | "tool_put", [.str what, v] => (readToolEdit? what v).map .editTool
  | "tool_drop", [.str what] => (toolSlot? what).map .dropTool
  | _, _ => none

/-- The parts of a hook other than its actions. -/
structure HookHead where
  name : Option String
  stage : Stage
  priority : Int
  owner : Option String
  quiet : Bool

def readHead (v : Json) : HookHead where
  name := v.textField? "name"
  stage := (v.textField? "stage").getD ""
  priority := (v.intField? "priority").getD 0
  owner := v.textField? "owner"
  quiet := v.flagField "quiet"

mutual

def readAction? : Json → Option Action
  | .arr [.str "if", test, .arr yes] => do
    pure (.branch (← readTest? test) (← readActions? yes) [])
  | .arr [.str "if", test, .arr yes, .arr no] => do
    pure (.branch (← readTest? test) (← readActions? yes) (← readActions? no))
  | .arr [.str "attach", .obj fields] => readAttach? true fields
  | .arr [.str "try_attach", .obj fields] => readAttach? false fields
  | .arr (.str kind :: args) => readPlain? kind args
  | _ => none

def readActions? : List Json → Option (List Action)
  | [] => some []
  | v :: rest => do pure ((← readAction? v) :: (← readActions? rest))

/-- The action that attaches the hook with these fields. -/
def readAttach? (strict : Bool) (fields : List (String × Json)) : Option Action := do
  let head := readHead (.obj fields)
  let actions ← readDo? fields
  let name := head.name.getD head.stage
  pure (.attach strict name head.stage head.priority head.owner head.quiet actions)

/-- The actions of a hook with these fields. -/
def readDo? : List (String × Json) → Option (List Action)
  | [] => some []
  | (key, .arr items) :: rest => if key == "do" then readActions? items else readDo? rest
  | _ :: rest => readDo? rest

end

/-- A hook with its name, priority and owner; without a name it is a flow's own handler. -/
def readHook? (v : Json) : Option (HookBinding Hook) := do
  let head := readHead v
  let actions ← match v with
    | .obj fields => readDo? fields
    | _ => none
  match head.name with
  | some name =>
    pure ⟨name, head.stage, head.priority, head.owner, ⟨name, head.quiet, actions⟩⟩
  | none => pure (.own head.stage ⟨head.stage, head.quiet, actions⟩)

/-- Hooks as handlers of a server. -/
def readHooks? (items : List Json) : Option (List (HookBinding (Handler Hook Log))) :=
  items.mapM fun v => (readHook? v).map fun hook => hook.mapHandler .custom

/-- The state that a call starts from. -/
def readState (v : Json) : CallState Hook Log :=
  let put (key : Slot) (value : Option (key.Val Hook Log)) (state : CallState Hook Log) :
      CallState Hook Log :=
    match value with
    | some value => state.insert key value
    | none => state
  let putNumbered (state : CallState Hook Log) (entry : Json) : CallState Hook Log :=
    match entry with
    | .arr [i, v] =>
      match i.asNat? with
      | some i => state.insert (.value i) v
      | none => state
    | _ => state
  let state := put .scope (v.textField? "scope") .empty
  let state := put .auth ((v.field? "auth").map readAuth) state
  let state := put .session ((v.field? "session").map readSession) state
  (v.itemsField "state").foldl putNumbered state

def readRequest (v : Json) : Request :=
  let start := Request.start ((v.textField? "method").getD "") ((v.textField? "path").getD "")
  let withHeader (request : Request) (header : Json) : Request :=
    match header with
    | .arr [.str name, .str value] => request.withHeader name value
    | _ => request
  ((v.itemsField "headers").foldl withHeader start).withBody (v.valueField "body")

end StagedFlow.Script
