import StagedFlow.Demo.Plugin
import StagedFlow.Json.Reader
import StagedFlow.Plugins.ToolFlows
import StagedFlow.Plugins.Trace
import StagedFlow.Server.Basic
import StagedFlow.Tool.Platform

/-!
# The demo server

A tool server with the demo's tools and no hooks of its own, and the commands that it understands:
without words it lists its tools; else the first word names a tool, the second one holds its
arguments, and further words name the apps that the caller has granted.
-/

namespace StagedFlow.Demo

abbrev PlainStore := Store Empty Unit

def callsAtATime : Nat := 4

def plugins (auth : AuthConfig) (format : TraceFormat) : List (Plugin PlainStore) :=
  [infoPlugin (some "meridian-demo"), tracePlugin { TraceConfig.start with format }, flowsPlugin,
   toolsPlugin, toolFlowsPlugin (some auth) (some .template), plugin callsAtATime]

/-- What plugins make of a store: they are added to a server, which is finished. -/
def furnish {S : Type} (plugins : List (Plugin S)) (store : S) : Except ServerFault S :=
  let action : ServerM S Unit := do
    plugins.forM Server.add
    Server.finish
  match Id.run (action.run.run (.start store)) with
  | (.ok (), server) => .ok server.store
  | (.error fault, _) => .error fault

def assemble (auth : AuthConfig) (format : TraceFormat) : Except ServerFault PlainStore :=
  furnish (plugins auth format) (.start ())

/-- No hook has a code of its own. -/
def platform : Platform (CallState Empty Unit) (World Unit) (Handler Empty Unit) :=
  toolPlatform fun hook => nomatch hook

structure Command where
  flow : String
  input : Json
  state : CallState Empty Unit

namespace Command

def list : Command := ⟨listToken.name, .obj [("method", .str "tools/list")], .empty⟩

/-- A call of a tool by a caller who has granted some apps, or who is not known. -/
def call (tool : String) (arguments : Json) (granted : List String) : Command where
  flow := callToken.name
  input :=
    .obj
      [("method", .str "tools/call"),
       ("params", .obj [("name", .str tool), ("arguments", arguments)])]
  state :=
    if granted.isEmpty then .empty else Bag.empty.insert .auth (⟨granted, none⟩ : AuthInfo)

def ofWords : List String → Except Json.ReadError Command
  | [] => .ok list
  | [tool] => .ok (call tool (.obj []) [])
  | tool :: arguments :: granted => do pure (call tool (← Json.read arguments) granted)

end Command

/-- What a command ends with. -/
inductive Answer where
  | output (v : Json)
  | nothing
  | refused (message : String)

def run (store : PlainStore) (command : Command) : Answer :=
  match store.boot.run store.world with
  | (.error fault, _) => .refused fault.message
  | (.ok flows, world) =>
    match ((flows.run platform command.flow command.input command.state).run world).1 with
    | .error fault => .refused fault.publicMessage
    | .ok outcome =>
      match outcome.output? with
      | some v => .output v
      | none => .nothing

end StagedFlow.Demo
