import StagedFlow.Json.Field
import StagedFlow.Script.Action
import StagedFlow.Server.Basic
import StagedFlow.Server.Group
import StagedFlow.Server.Store

/-!
# Scripted plugins

The callbacks of a scripted plugin log their name, then perform actions on the server; each action
logs its answer.
-/

namespace StagedFlow.Script

/-- The store of a server with scripted hooks. -/
abbrev ScriptStore := Store Hook Log

/-- A program on such a server, given what comes after it. -/
abbrev Segment := Program ScriptStore → Program ScriptStore

def logLine (v : Json) (store : ScriptStore) : ScriptStore := store.mapOwn (v :: ·)

namespace Segment

def log (v : Json) : Segment := .change (logLine v)

/-- Changes the store and logs an answer, given the store. -/
def answer (f : ScriptStore → ScriptStore × Json) : Segment :=
  .change fun store => logLine (f store).2 (f store).1

/-- Logs what the server answers to a question. -/
def ask (question : Question) : Segment := fun next =>
  .ask question (fun b => logLine (.bool b)) next

def provide (i : Nat) (v : Json) : Segment := answer fun store =>
  (store.provide (.value i) v, .obj [("replaced", .bool (store.providers.contains (.value i)))])

def provider (i : Nat) : Segment := answer fun store =>
  (store,
    .obj
      [("value", (store.providers.get? (.value i)).getD Json.null),
       ("has", .bool (store.providers.contains (.value i))),
       ("count", .nat store.providers.size)])

def oldOf (v : Option Json) : Json := .obj [("old", v.getD .null)]

def putResource (i : Nat) (v : Json) : Segment := answer fun store =>
  (store.putResource (.value i) v, oldOf (store.resources.get? (.value i)))

def readResource (i : Nat) : Segment := answer fun store =>
  (store,
    .obj
      [("value", (store.resources.get? (.value i)).getD Json.null),
       ("has", .bool (store.resources.contains (.value i)))])

def writeResource (i : Nat) (v : Json) : Segment := answer fun store =>
  match store.resources.get? (.value i) with
  | some (old : Json) => (store.putResource (.value i) v, oldOf (some old))
  | none => (store, .str "missing")

def takeResource (i : Nat) : Segment := answer fun store =>
  ({ store with resources := store.resources.erase (.value i) },
    .obj [("took", (store.resources.get? (.value i)).getD Json.null)])

/-- A shared list, as it is logged. -/
def listToJson (items : Option (List Json)) : Json := (items.map .arr).getD .null

def openList (i : Nat) : Segment := answer fun store =>
  (store.putApi (.list i) [], .obj [("old", listToJson (store.apis.get? (.list i)))])

def pushList (i : Nat) (v : Json) : Segment := answer fun store =>
  match store.apis.get? (.list i) with
  | some (items : List Json) => (store.putApi (.list i) (items ++ [v]), .str "pushed")
  | none => (store, .str "missing")

def showList (i : Nat) : Segment := answer fun store =>
  (store,
    .obj
      [("value", listToJson (store.apis.get? (.list i))),
       ("has", .bool (store.apis.contains (.list i)))])

end Segment

/-- The type of a scripted plugin. -/
def pluginType (id : Nat) : String := markerModule ++ "Plug<" ++ toString id ++ ">"

/-- An action that adds no plugin. -/
def readSimple? (kind : String) (args : List Json) : Option Segment :=
  match kind, args with
  | "finish", [] => some fun next => .finish (Segment.log (.str "finished") next)
  | "run", [] => some fun next => .finish (Segment.log (.str "finished") next)
  | "cleanup", [] => some fun next => .cleanup (Segment.log (.str "cleaned") next)
  | "built", [] => some (Segment.ask .built)
  | "has", [id] => id.asNat?.map fun id => Segment.ask (.added (pluginType id))
  | "panic", [.str text] => some (.act fun _ => .error (.failed text))
  | "provide", [i, v] => i.asNat?.map fun i => Segment.provide i v
  | "provider", [i] => i.asNat?.map Segment.provider
  | "resource", [i, v] => i.asNat?.map fun i => Segment.putResource i v
  | "read", [i] => i.asNat?.map Segment.readResource
  | "write", [i, v] => i.asNat?.map fun i => Segment.writeResource i v
  | "take", [i] => i.asNat?.map Segment.takeResource
  | "api", [i] => i.asNat?.map Segment.openList
  | "push", [i, v] => i.asNat?.map fun i => Segment.pushList i v
  | "list", [i] => i.asNat?.map Segment.showList
  | _, _ => none

def readPluginInfo? (v : Json) : Option PluginInfo := do
  let type := pluginType (← (v.field? "id").bind Json.asNat?)
  let dependencies := (v.itemsField "deps").filterMap fun id => id.asNat?.map pluginType
  pure
    ⟨type, v.textField? "name",
      ((v.field? "unique").bind Json.asBool?).getD true, dependencies⟩

/-- An edit of a group of plugins. -/
abbrev GroupEdit := PluginGroup ScriptStore → PluginGroup ScriptStore

mutual

def readServerAction? : Json → Option Segment
  | .arr [.str "add", .obj fields] => do
    let plugin ← readPlugin? fields
    pure fun next => Program.addAll [plugin] (Segment.log (.str "added") next)
  | .arr [.str "group", .arr edits] => do
    let edits ← readEdits? edits
    let group := edits.foldl (fun group edit => edit group) PluginGroup.empty
    pure fun next => Program.addAll group.plugins (Segment.log (.str "added") next)
  | .arr (.str kind :: args) => readSimple? kind args
  | _ => none

def readServerActions? : List Json → Option Segment
  | [] => some id
  | v :: rest => do
    let first ← readServerAction? v
    let others ← readServerActions? rest
    pure fun next => first (others next)

/-- A callback: the actions under a name, behind a line that tells the name. -/
def readCallback? (name line : String) : List (String × Json) → Option (Program ScriptStore)
  | [] => some (Segment.log (.str line) .done)
  | (key, .arr items) :: rest =>
    if key == name then
      (readServerActions? items).map fun act => Segment.log (.str line) (act .done)
    else readCallback? name line rest
  | _ :: rest => readCallback? name line rest

def readPlugin? (fields : List (String × Json)) : Option (Plugin ScriptStore) := do
  let info ← readPluginInfo? (.obj fields)
  let id := toString (((Json.obj fields).intField? "id").getD 0)
  let build ← readCallback? "build" ("build " ++ id) fields
  let ready ← readCallback? "ready" ("ready " ++ id) fields
  let cleanup ← readCallback? "cleanup" ("cleanup " ++ id) fields
  pure ⟨info, build, ready, cleanup⟩

def readEdit? : Json → Option GroupEdit
  | .arr [.str "add", .obj fields] => do
    let plugin ← readPlugin? fields
    pure fun group => group.add plugin
  | .arr [.str "before", .obj fields, id] => do
    let plugin ← readPlugin? fields
    let type := pluginType (← id.asNat?)
    pure fun group => group.addBefore plugin type
  | .arr [.str "after", .obj fields, id] => do
    let plugin ← readPlugin? fields
    let type := pluginType (← id.asNat?)
    pure fun group => group.addAfter plugin type
  | .arr [.str "disable", id] => do
    let type := pluginType (← id.asNat?)
    pure fun group => group.disable type
  | .arr [.str "contains", _] => some id
  | _ => none

def readEdits? : List Json → Option (List GroupEdit)
  | [] => some []
  | v :: rest => do pure ((← readEdit? v) :: (← readEdits? rest))

end

end StagedFlow.Script
