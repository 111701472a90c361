import StagedFlow.Flow.Fault
import StagedFlow.Record.Basic
import StagedFlow.Tool.Definition

/-!
# Envelopes of tool calls

The requests of the two tool flows: a method and its parameters. Fields that an envelope does not
have are refused.
-/

namespace StagedFlow

structure CallParams where
  name : String
  arguments : Option Json
  metadata : Option Json

namespace CallParams

def record : Record :=
  ⟨"CallToolParams",
    [.required "name" .string, .defaulted "arguments" .anything, .defaulted "_meta" .anything],
    true⟩

def ofFields (fields : List (String × Json)) : CallParams :=
  ⟨Json.stringAt "name" fields, Json.valueAt? "arguments" fields, Json.valueAt? "_meta" fields⟩

def read (v : Json) : Except ReadFault CallParams := (record.read v).map ofFields

def toJson (params : CallParams) : Json :=
  .obj
    [("name", .str params.name), ("arguments", params.arguments.getD .null),
     ("_meta", params.metadata.getD .null)]

/-- The arguments of the call; none given are no arguments. -/
def argumentsOrNone (params : CallParams) : Json := params.arguments.getD (.obj [])

end CallParams

structure CallRequest where
  method : String
  params : CallParams

namespace CallRequest

def record : Record :=
  ⟨"CallToolRequest",
    [.required "method" .string, .required "params" CallParams.record.check], true⟩

def ofFields (fields : List (String × Json)) : CallRequest :=
  ⟨Json.stringAt "method" fields,
    match CallParams.read ((Json.lookup "params" fields).getD .null) with
    | .ok params => params
    | .error _ => ⟨"", none, none⟩⟩

def read (v : Json) : Except ReadFault CallRequest := (record.read v).map ofFields

end CallRequest

structure ListParams where
  cursor : Option String

namespace ListParams

def record : Record :=
  ⟨"ListToolsParams", [.defaulted "cursor" (Check.string.optional)], true⟩

def ofFields (fields : List (String × Json)) : ListParams := ⟨Json.stringAt? "cursor" fields⟩

def read (v : Json) : Except ReadFault ListParams := (record.read v).map ofFields

end ListParams

structure ListRequest where
  method : String
  params : Option ListParams

namespace ListRequest

def record : Record :=
  ⟨"ListToolsRequest",
    [.required "method" .string, .defaulted "params" (ListParams.record.check.optional)], true⟩

def ofFields (fields : List (String × Json)) : ListRequest :=
  ⟨Json.stringAt "method" fields,
    (Json.valueAt? "params" fields).bind fun v => (ListParams.read v).toOption⟩

def read (v : Json) : Except ReadFault ListRequest := (record.read v).map ofFields

end ListRequest

/-- The method that an envelope has to name. -/
def checkMethod (wanted got : String) : Except FlowFault Unit :=
  if got == wanted then .ok ()
  else .error (.invalidInput ("expected method '" ++ wanted ++ "', got '" ++ got ++ "'"))

/-- The parameters of a tool call, from its envelope. -/
def CallParams.ofEnvelope (input : Json) : Except FlowFault CallParams := do
  let request ← (CallRequest.read input).mapError fun fault => .invalidInput fault.message
  checkMethod "tools/call" request.method
  pure request.params

/-- The envelope of a listing is well-formed. -/
def ListRequest.checkEnvelope (input : Json) : Except FlowFault Unit := do
  let request ← (ListRequest.read input).mapError fun fault => .invalidInput fault.message
  checkMethod "tools/list" request.method

structure ListedTool where
  name : String
  description : String
  inputSchema : Json
  outputSchema : Option Json

namespace ListedTool

def ofDefinition (definition : ToolDefinition) : ListedTool :=
  ⟨definition.name, definition.description, definition.inputSchema, definition.outputSchema⟩

def record : Record :=
  ⟨"ListedTool",
    [.required "name" .string, .required "description" .string,
     .required "inputSchema" .anything, .defaulted "outputSchema" .anything], false⟩

def ofFields (fields : List (String × Json)) : ListedTool :=
  ⟨Json.stringAt "name" fields, Json.stringAt "description" fields,
    (Json.lookup "inputSchema" fields).getD .null, Json.valueAt? "outputSchema" fields⟩

def read (v : Json) : Except ReadFault ListedTool := (record.read v).map ofFields

def toJson (tool : ListedTool) : Json :=
  .obj
    ([("name", .str tool.name), ("description", .str tool.description),
      ("inputSchema", tool.inputSchema)]
      ++ Json.optionalField "outputSchema" tool.outputSchema)

end ListedTool

structure Listing where
  tools : List ListedTool

namespace Listing

def record : Record :=
  ⟨"ListToolsResult", [.required "tools" (.list ListedTool.record.check)], false⟩

def ofFields (fields : List (String × Json)) : Listing :=
  ⟨(((Json.lookup "tools" fields).bind Json.asArray?).getD []).filterMap fun v =>
    (ListedTool.read v).toOption⟩

def read (v : Json) : Except ReadFault Listing := (record.read v).map ofFields

def toJson (listing : Listing) : Json :=
  .obj [("tools", .arr (listing.tools.map ListedTool.toJson))]

end Listing

end StagedFlow
