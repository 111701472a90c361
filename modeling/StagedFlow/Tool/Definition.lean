import StagedFlow.Render.Config
import StagedFlow.Schema.Check

/-!
# Tool definitions

What a tool says about itself, and what it learns about a call.
-/

namespace StagedFlow

structure ToolDefinition where
  name : String
  description : String
  inputSchema : Json
  outputSchema : Option Json
  owner : Option String
  hidden : Bool
  render : Option RenderConfig

/-- A field that is left out for none. -/
def Json.optionalField (name : String) : Option Json → List (String × Json)
  | some v => [(name, v)]
  | none => []

namespace ToolDefinition

/-- A tool that takes any object and promises nothing about its output. -/
def start (name description : String) : ToolDefinition :=
  ⟨name, description, Schema.anyObject, none, none, false, none⟩

def record : Record :=
  ⟨"ToolDefinition",
    [.required "name" .string, .required "description" .string,
     .required "inputSchema" .anything, .defaulted "outputSchema" .anything,
     .defaulted "owner" (Check.string.optional), .defaulted "hidden" .boolean,
     .defaulted "render" (RenderConfig.record.check.optional)], false⟩

def ofFields (fields : List (String × Json)) : ToolDefinition where
  name := Json.stringAt "name" fields
  description := Json.stringAt "description" fields
  inputSchema := (Json.lookup "inputSchema" fields).getD .null
  outputSchema := Json.valueAt? "outputSchema" fields
  owner := Json.stringAt? "owner" fields
  hidden := Json.boolAt "hidden" fields
  render := (Json.valueAt? "render" fields).bind fun v => (RenderConfig.read v).toOption

def read (v : Json) : Except ReadFault ToolDefinition := (record.read v).map ofFields

def toJson (definition : ToolDefinition) : Json :=
  .obj
    ([("name", .str definition.name), ("description", .str definition.description),
      ("inputSchema", definition.inputSchema)]
      ++ Json.optionalField "outputSchema" definition.outputSchema
      ++ Json.optionalField "owner" (definition.owner.map .str)
      ++ [("hidden", .bool definition.hidden)]
      ++ Json.optionalField "render" (definition.render.map RenderConfig.toJson))

end ToolDefinition

/-- What a tool learns about the call it runs in. -/
structure ToolCall where
  callId : String
  tool : String
  owner : Option String
  metadata : Option Json

def ToolCall.toJson (call : ToolCall) : Json :=
  .obj
    [("call_id", .str call.callId), ("tool", .str call.tool), ("owner", .ofString? call.owner),
     ("meta", call.metadata.getD .null)]

end StagedFlow
