import StagedFlow.Script.Read
import StagedFlow.Server.Store

/-!
# Scripted flows

A scripted flow has one of four kinds. Its own handlers are scripted hooks, and it may refuse to be
made or to become ready. What it does when it is made is looked up at that time.
-/

namespace StagedFlow.Script

/-- What a request is tested for. -/
inductive RequestTest where
  | header (name : String) (value : Option String)
  /-- A pointer finds something in the body. -/
  | body (pointer : String)
  | not (test : RequestTest)
  | always (answer : Bool)

def RequestTest.holds (request : Request) : RequestTest → Bool
  | header name (some value) => request.header? name == some value
  | header name none => (request.header? name).isSome
  | body pointer => (request.body.pointer? pointer).isSome
  | .not test => !test.holds request
  | always answer => answer

def readRequestTest? : Json → Option RequestTest
  | .bool b => some (.always b)
  | .arr [.str "header", .str name] => some (.header name none)
  | .arr [.str "header", .str name, .str value] => some (.header name (some value))
  | .arr [.str "body", .str pointer] => some (.body pointer)
  | .arr [.str "not", test] => (readRequestTest? test).map .not
  | _ => none

def readRoute? (v : Json) : Option Route := do
  let path ← v.textField? "path"
  let guards ← (v.itemsField "guards").mapM readRequestTest?
  pure ⟨v.textField? "method", path, guards.map fun test request => test.holds request⟩

/-- A part of a plan. -/
def readPlanPart? (plan : Plan) : Json → Option Plan
  | .arr (.str "pre" :: stages) => some (plan.append .pre (Json.strings stages))
  | .arr (.str "execute" :: stages) => some (plan.append .execute (Json.strings stages))
  | .arr (.str "post" :: stages) => some (plan.append .post (Json.strings stages))
  | .arr (.str "finalize" :: stages) => some (plan.append .finalize (Json.strings stages))
  | .arr [.str "scoped", .str acquire, .str release] => some (plan.bracket acquire release)
  | _ => none

def readPlan? (items : List Json) : Option Plan := items.foldlM readPlanPart? .empty

/-- The kinds of scripted flows. -/
def kinds : List FlowKind :=
  [⟨"wide", ["a", "b", "c", "d", "e", "f", "g", "h"]⟩,
   ⟨"admission",
    ["parse", "acquireQuota", "acquireSlot", "work", "releaseSlot", "releaseQuota", "finish"]⟩,
   ⟨"narrow", ["a"]⟩, ⟨"empty", []⟩]

def kind? (name : String) : Option FlowKind := kinds.find? fun kind => kind.name == name

/-- The names that scripted flows can have. -/
def flowNames : List String :=
  ["alpha", "beta", "gamma", "delta", "tools:call-tool", "flöw ☃"]

structure FlowScript where
  token : FlowToken
  plan : Plan
  access : Access
  inputSchema : Option Json
  outputSchema : Option Json
  route : Option Route
  guard : Option RequestTest
  /-- The numbered providers that the flow depends on. -/
  dependencies : List Nat
  createFault : Option FlowFault
  readyFault : Option FlowFault
  table : List (HookBinding (Handler Hook Log))

namespace FlowScript

/-- Makes the flow: its own handlers, and a check that gives way once. -/
def prepare (script : FlowScript) :
    Except FlowFault (PreparedFlow (World Log) (Handler Hook Log)) :=
  match script.createFault with
  | some fault => .error fault
  | none =>
    .ok ⟨script.table, do
      Task.giveWay
      pure (match script.readyFault with
        | some fault => .error fault
        | none => .ok ())⟩

/-- The flow as `script` describes it, made as `current` says. -/
def definition (script current : FlowScript) : ServedFlow Hook Log where
  token := script.token
  plan := script.plan
  access := script.access
  inputSchema := script.inputSchema
  outputSchema := script.outputSchema
  route := script.route
  guard request := match script.guard with
    | some test => test.holds request
    | none => true
  dependencies := script.dependencies.map .value
  prepare _ := current.prepare

end FlowScript

def readFlow? (v : Json) : Option FlowScript := do
  let name ← v.textField? "name"
  let kind ← (v.textField? "kind").bind kind?
  let plan ← readPlan? (v.itemsField "plan")
  let table ← readHooks? (v.itemsField "stages")
  pure
    { token := ⟨name, kind⟩
      plan
      access := if v.textField? "access" == some "authorized" then .authorized else .everyone
      inputSchema := v.field? "input_schema"
      outputSchema := v.field? "output_schema"
      route := (v.field? "route").bind readRoute?
      guard := (v.field? "guard").bind readRequestTest?
      dependencies := (v.itemsField "deps").filterMap Json.asNat?
      createFault := (v.field? "create_error").bind readFault?
      readyFault := (v.field? "ready_error").bind readFault?
      table }

/-- The scripts in force, by name and kind of their flow. -/
abbrev ScriptTable := List FlowScript

namespace ScriptTable

def inForce? (scripts : ScriptTable) (token : FlowToken) : Option FlowScript :=
  List.find? (fun script => script.token == token) scripts

/-- Puts a script in force in the place of an earlier one of its flow. -/
def put (scripts : ScriptTable) (script : FlowScript) : ScriptTable :=
  script :: scripts.filter fun other => other.token != script.token

/-- The script in force for the flow of a script. -/
def current (scripts : ScriptTable) (script : FlowScript) : FlowScript :=
  (scripts.inForce? script.token).getD script

/-- The flows of declared scripts, each made as its script in force says. -/
def definitions (scripts : ScriptTable) (declared : List FlowScript) :
    List (ServedFlow Hook Log) :=
  declared.map fun script => script.definition (scripts.current script)

end ScriptTable

end StagedFlow.Script
