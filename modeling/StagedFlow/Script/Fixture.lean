import StagedFlow.Plugins.ToolFlows
import StagedFlow.Script.Flow
import StagedFlow.Script.Server
import StagedFlow.Script.Tool

/-!
# The fixture

A plugin that puts scripted parts into a server: providers, tools, flows, hooks and observers.
-/

namespace StagedFlow.Script

/-- An observer that logs every event under its name. -/
def logger (name : String) : Observer (World Log) where
  name := name
  notify event :=
    World.mapOwn
      (.str (name ++ ": " ++ event.flow ++ " " ++ event.call ++ " " ++ event.describe) :: ·)

/-- A silent observer that stands before all others. -/
def numbering : Observer (World Log) := ⟨"\x00numbering", fun _ w => w⟩

/-- The token of a flow: one of the tool flows unless a kind is given. -/
def readFlowToken? (v : Json) : Option FlowToken := do
  let name ← v.textField? "flow"
  match v.textField? "kind" with
  | some kind => pure ⟨name, ← kind? kind⟩
  | none =>
    if name == callToken.name then pure callToken
    else if name == listToken.name then pure listToken
    else none

structure Fixture where
  /-- The fixture depends on no plugin. -/
  loose : Bool
  providers : List Nat
  tools : List (Tool Hook (World Log))
  flows : List FlowScript
  hooks : List (FlowToken × HookBinding (Handler Hook Log))
  observers : List String

namespace Fixture

def provideAll (fixture : Fixture) (store : ScriptStore) : ScriptStore :=
  fixture.providers.foldl (fun store i => store.provide (.value i) Json.null) store

/-- Registers a tool and logs the verdict. -/
def addTool (store : ScriptStore) (tool : Tool Hook (World Log)) : ScriptStore :=
  match store.resources.get? .tools with
  | none => store
  | some (registry : ToolRegistry Hook (World Log)) =>
    match registry.register tool with
    | .ok registry => logLine (.str "ok") (store.putResource .tools registry)
    | .error fault => logLine fault.toJson store

/-- Declares the flows, each made as the last script of its flow says. -/
def addFlows (fixture : Fixture) (store : ScriptStore) : ScriptStore :=
  let scripts := fixture.flows.foldl ScriptTable.put []
  match store.apis.get? .flows with
  | none => store
  | some (declared : List (ServedFlow Hook Log)) =>
    store.putApi .flows (declared ++ ScriptTable.definitions scripts fixture.flows)

/-- Changes the registry of hooks and logs the verdict. -/
def addTo (change : HookRegistry (World Log) (Handler Hook Log) →
      Except RegistrationFault (HookRegistry (World Log) (Handler Hook Log)))
    (store : ScriptStore) : ScriptStore :=
  match store.apis.get? .hooks with
  | none => store
  | some (registry : HookRegistry (World Log) (Handler Hook Log)) =>
    match change registry with
    | .ok registry => logLine (.str "ok") (store.putApi .hooks registry)
    | .error fault => logLine fault.toJson store

/-- Registers an observer that no one is to notice. -/
def addNumbering (store : ScriptStore) : ScriptStore :=
  match store.apis.get? .hooks with
  | none => store
  | some (registry : HookRegistry (World Log) (Handler Hook Log)) =>
    match registry.observe numbering with
    | .ok registry => store.putApi .hooks registry
    | .error _ => store

def build (fixture : Fixture) (store : ScriptStore) : ScriptStore :=
  let store := fixture.tools.foldl addTool (fixture.provideAll store)
  let store := addNumbering (fixture.addFlows store)
  let store := fixture.hooks.foldl
    (fun store (token, hook) => addTo (fun registry => registry.register token hook) store) store
  fixture.observers.foldl
    (fun store name => addTo (fun registry => registry.observe (logger name)) store) store

def plugin (fixture : Fixture) : Plugin ScriptStore where
  info :=
    .ofType "Fixture" (if fixture.loose then [] else [flowsPluginType, toolsPluginType])
  build := .change fixture.build .done
  ready := .done
  cleanup := .done

end Fixture

def readFixture? (v : Json) : Option Fixture := do
  let tools ← (v.itemsField "tools").mapM readTool?
  let flows ← (v.itemsField "flows").mapM readFlow?
  let hooks ← (v.itemsField "hooks").mapM fun v => do
    pure (← readFlowToken? v, (← readHook? v).mapHandler .custom)
  pure
    { loose := v.flagField "loose"
      providers := (v.itemsField "providers").filterMap Json.asNat?
      tools, flows, hooks
      observers := Json.strings (v.itemsField "observers") }

end StagedFlow.Script
