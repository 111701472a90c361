import StagedFlow.Json.Reader
import StagedFlow.Script.Read
import StagedFlow.Script.Sample

/-!
# Scripted tools and renderers

A scripted tool logs that it runs and does one thing with its arguments. A scripted renderer logs
whose result it renders and answers with fixed metadata.
-/

namespace StagedFlow.Script

/-- What a scripted tool does. -/
inductive ToolAction where
  | answer (v : Json)
  | arguments
  /-- Answers with the arguments and what the tool learns about the call. -/
  | context
  | field (name : String)
  | fail (fault : ToolFault)
  /-- Reads a text as a flag. -/
  | readFlag (text : String)

def ToolAction.result (action : ToolAction) (arguments : Json) (call : ToolCall) :
    Except ToolFault Json :=
  match action with
  | answer v => .ok v
  | .arguments => .ok arguments
  | context => .ok (.obj [("args", arguments), ("ctx", call.toJson)])
  | field name => .ok (arguments.valueField name)
  | fail fault => .error fault
  | readFlag text =>
    match Json.readBool text with
    | .ok b => .ok (.bool b)
    | .error e => .error (.serialization e.message)

/-- Logs that the tool runs, then gives its result. -/
def ToolAction.run (action : ToolAction) (arguments : Json) (call : ToolCall) :
    Task (World Log) (Except ToolFault Json) := do
  Task.change (World.mapOwn (.str ("tool " ++ call.tool) :: ·))
  pure (action.result arguments call)

def readToolAction? : Json → Option ToolAction
  | .arr [.str "return", v] => some (.answer v)
  | .arr [.str "args"] => some .arguments
  | .arr [.str "context"] => some .context
  | .arr [.str "field", .str name] => some (.field name)
  | .arr [.str "parameter", .str s] => some (.fail (.parameter s))
  | .arr [.str "execution", .str s] => some (.fail (.execution s))
  | .arr [.str "read", .str s] => some (.readFlag s)
  | _ => none

/-- The tool before its definition is changed. -/
def readBareTool? (v : Json) : Option (Tool Hook (World Log)) :=
  match v.textField? "typed" with
  | some name => Sample.tool? name
  | none => do
    let name ← v.textField? "name"
    let action ← readToolAction? (v.valueField "action")
    pure
      { definition := .start name ((v.textField? "description").getD "")
        execute := action.run
        hooks := [] }

def readRender? : Json → Option RenderConfig
  | .str template => some (.html template)
  | .arr [.str template, .str mimeType] => some ⟨template, mimeType⟩
  | _ => none

/-- Changes what is given of a definition. -/
def editDefinition (v : Json) (definition : ToolDefinition) : ToolDefinition :=
  { definition with
    inputSchema := (v.field? "input").getD definition.inputSchema
    outputSchema := (v.field? "output") <|> definition.outputSchema
    owner := v.textField? "owner" <|> definition.owner
    hidden := v.flagField "hidden" || definition.hidden
    render := ((v.field? "render").bind readRender?) <|> definition.render }

def readTool? (v : Json) : Option (Tool Hook (World Log)) := do
  let tool ← readBareTool? v
  let hooks ← (v.itemsField "hooks").mapM readHook?
  pure
    { tool with definition := editDefinition v tool.definition, hooks := tool.hooks ++ hooks }

/-- A scripted renderer. -/
structure RenderScript where
  fault : Option String
  metadata : List (String × Json)
  /-- The metadata also tells what the renderer was asked. -/
  echo : Bool

namespace RenderScript

/-- What a renderer was asked, as metadata. -/
def echoed (request : RenderRequest) : List (String × Json) :=
  [("input", request.input), ("output", request.output),
   ("template", .str request.config.template), ("mime", .str request.config.mimeType),
   ("platform", .str request.hint.name)]

def result (script : RenderScript) (request : RenderRequest) :
    Except RenderFault (List (String × Json)) :=
  match script.fault with
  | some reason => .error (.failed reason)
  | none =>
    let pairs := script.metadata ++ if script.echo then echoed request else []
    .ok (pairs.foldl (fun fields (name, v) => Json.put name v fields) [])

def renderer (script : RenderScript) : Renderer (World Log) where
  render request := do
    Task.change (World.mapOwn (.obj [("rendering", .str request.tool)] :: ·))
    pure (script.result request)

end RenderScript

/-- Pairs of a name and a value. -/
def readPairs (items : List Json) : List (String × Json) :=
  items.filterMap fun
    | .arr [.str name, v] => some (name, v)
    | _ => none

/-- A renderer: by the templates of tools, or scripted. -/
def readRenderer : Json → Option (Renderer (World Log))
  | .str _ => some .template
  | .obj fields =>
    let v := Json.obj fields
    some (RenderScript.renderer
      ⟨v.textField? "fail", readPairs (v.itemsField "meta"), v.flagField "echo"⟩)
  | _ => none

end StagedFlow.Script
