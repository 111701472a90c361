import StagedFlow.Json.Text
import StagedFlow.Record.Basic

/-!
# Results of tool calls

What a caller gets for a tool's output: the output as text and, where the tool promises a schema or
the output is an object, as structured content. A rendering adds metadata and takes the place of the
text of structured results.
-/

namespace StagedFlow

structure TextBlock where
  text : String
deriving DecidableEq

namespace TextBlock

def toJson (block : TextBlock) : Json := .obj [("type", .str "text"), ("text", .str block.text)]

/-- The test of the field that tells the kind of a block. -/
def kind : Check
  | .str s => if s == "text" then none else some (.unknownVariant s ["text"])
  | v => some (.wrongType v.describe "variant identifier")

/-- The fault of the kinds among fields; the first one met counts. -/
def kindFault? (fields : List (String × Json)) : Option ReadFault :=
  match Json.lookup "type" fields with
  | some v => kind v
  | none => some (.missingField "type")

/-- Reads a block from an object with its kind and its text, or from a list of the two. -/
def read : Json → Except ReadFault TextBlock
  | .obj fields =>
    match kindFault? fields with
    | some fault => .error fault
    | none =>
      match Json.lookup "text" fields with
      | some (.str s) => .ok ⟨s⟩
      | some v => .error (.wrongType v.describe "a string")
      | none => .error (.missingField "text")
  | .arr [] => .error (.missingField "type")
  | .arr (tag :: rest) =>
    match kind tag with
    | some fault => .error fault
    | none =>
      match rest with
      | [] => .error (.wrongLength 0 "struct variant ContentBlock::Text with 1 element")
      | [.str s] => .ok ⟨s⟩
      | .str _ :: more => .error (.wrongLength (more.length + 1) "1 element in sequence")
      | v :: _ => .error (.wrongType v.describe "a string")
  | v => .error (.wrongType v.describe "internally tagged enum ContentBlock")

def check : Check := fun v =>
  match read v with
  | .ok _ => none
  | .error fault => some fault

end TextBlock

structure CallResult where
  content : List TextBlock
  structured : Option Json
  metadata : List (String × Json)
  isError : Bool

namespace CallResult

/-- The text of an output: a string itself, any other value as compact JSON. -/
def outputText : Json → String
  | .str s => s
  | v => v.compact

def wrap (output : Json) (structured : Bool) : CallResult :=
  ⟨[⟨outputText output⟩], if structured then some output else none, [], false⟩

/-- The result for an output without a schema: objects are structured. -/
def ofOutput (output : Json) : CallResult := wrap output output.isObject

/-- The result for an output that meets its schema: it is structured, whatever its type. -/
def ofValidated (output : Json) : CallResult := wrap output true

/-- Adds the metadata of a rendering. -/
def applyRender (result : CallResult) (metadata : List (String × Json)) : CallResult :=
  { result with
    metadata := metadata.foldl (fun fields (name, v) => Json.put name v fields) result.metadata
    content := if result.structured.isSome then [] else result.content }

/-- The written form: structured content and metadata are left out where there are none. -/
def toJson (result : CallResult) : Json :=
  .obj
    ([("content", .arr (result.content.map TextBlock.toJson))]
      ++ (match result.structured with
          | some v => [("structuredContent", v)]
          | none => [])
      ++ (if result.metadata.isEmpty then [] else [("_meta", .obj result.metadata)])
      ++ [("isError", .bool result.isError)])

def record : Record :=
  ⟨"CallToolResult",
    [.required "content" (.list TextBlock.check), .defaulted "structuredContent" .anything,
     .defaulted "_meta" .map, .required "isError" .boolean], false⟩

def ofFields (fields : List (String × Json)) : CallResult where
  content := (((Json.lookup "content" fields).bind Json.asArray?).getD []).filterMap fun v =>
    (TextBlock.read v).toOption
  structured := Json.valueAt? "structuredContent" fields
  metadata := ((Json.lookup "_meta" fields).bind Json.asFields?).getD []
  isError := Json.boolAt "isError" fields

/-- Reads a result; a structured `null` counts as none. -/
def read (v : Json) : Except ReadFault CallResult := (record.read v).map ofFields

end CallResult

end StagedFlow
