import StagedFlow.Schema.Build

/-!
# The published schemas of the tool flows
-/

namespace StagedFlow.Published

open Schema

def callParams : Json :=
  .obj
    [("description", .str "Parameters of a tool call. Stored in call state after `parseInput`."),
     ("type", .str "object"),
     ("properties", .obj
       [("name", typed "string" "Tool name."),
        ("arguments", optional "Tool arguments. Missing arguments are `\x7b\x7d`."),
        ("_meta", optional "Caller metadata passed through to the tool.")]),
     ("additionalProperties", .bool false),
     ("required", names ["name"])]

/-- What the call flow takes. -/
def callInput : Json :=
  .obj
    [("$defs", .obj [("CallToolParams", callParams)]),
     ("title", .str "CallToolRequest"),
     ("description", .str "The call envelope."),
     ("type", .str "object"),
     ("properties", .obj
       [("method", typed "string" "Must be `tools/call`."),
        ("params", .obj
          [("description", .str "Call parameters."), ("$ref", .str "#/$defs/CallToolParams")])]),
     ("additionalProperties", .bool false),
     ("required", names ["method", "params"])]

def contentBlock : Json :=
  .obj
    [("description", .str "One content block of a result."),
     ("oneOf", .arr
       [.obj
         [("description", .str "Plain text."),
          ("type", .str "object"),
          ("properties", .obj
            [("type", .obj [("type", .str "string"), ("const", .str "text")]),
             ("text", typed "string" "The text.")]),
          ("required", names ["type", "text"])]])]

/-- What the call flow answers. -/
def callOutput : Json :=
  .obj
    [("$defs", .obj [("ContentBlock", contentBlock)]),
     ("title", .str "CallToolResult"),
     ("description", .str "The flow output."),
     ("type", .str "object"),
     ("properties", .obj
       [("content", listOf "Human-readable content." "#/$defs/ContentBlock"),
        ("structuredContent", described
          ("Machine-readable result: the validated value for tools with an output\n"
            ++ "schema, otherwise object outputs.")),
        ("_meta", .obj
          [("description", .str "Result metadata, including rendering output."),
           ("type", .str "object"), ("additionalProperties", .bool true)]),
        ("isError", typed "boolean" "True when the tool reported a domain error.")]),
     ("required", names ["content", "isError"])]

def listParams : Json :=
  .obj
    [("description", .str "List parameters."),
     ("type", .str "object"),
     ("properties", .obj
       [("cursor", .obj
          [("description", .str
             "Pagination cursor. Accepted and ignored; the whole list is returned."),
           ("type", names ["string", "null"]), ("default", .null)])]),
     ("additionalProperties", .bool false)]

/-- What the list flow takes. -/
def listInput : Json :=
  .obj
    [("$defs", .obj [("ListToolsParams", listParams)]),
     ("title", .str "ListToolsRequest"),
     ("description", .str "The list envelope."),
     ("type", .str "object"),
     ("properties", .obj
       [("method", typed "string" "Must be `tools/list`."),
        ("params", .obj
          [("description", .str "Optional parameters."),
           ("anyOf", .arr
             [.obj [("$ref", .str "#/$defs/ListToolsParams")], .obj [("type", .str "null")]])])]),
     ("additionalProperties", .bool false),
     ("required", names ["method"])]

def listedTool : Json :=
  .obj
    [("description", .str "One listed tool."),
     ("type", .str "object"),
     ("properties", .obj
       [("name", typed "string" "Tool name."),
        ("description", typed "string" "Description."),
        ("inputSchema", described "Argument schema."),
        ("outputSchema", described "Result schema.")]),
     ("required", names ["name", "description", "inputSchema"])]

/-- What the list flow answers. -/
def listOutput : Json :=
  .obj
    [("$defs", .obj [("ListedTool", listedTool)]),
     ("title", .str "ListToolsResult"),
     ("description", .str "The flow output."),
     ("type", .str "object"),
     ("properties", .obj
       [("tools", listOf "Tools the caller may see." "#/$defs/ListedTool")]),
     ("required", names ["tools"])]

end StagedFlow.Published
