import StagedFlow.Demo.Tools
import StagedFlow.Text.Upper

/-!
# Sample tools

Two typed tools beside those of the demo: one adds, the other one greets.
-/

namespace StagedFlow.Sample

/-! ### Adding -/

structure AddInput where
  a : Int
  b : Int

namespace AddInput

def record : Record := ⟨"AddInput", [.required "a" .int64, .required "b" .int64], false⟩

def intAt (name : String) (fields : List (String × Json)) : Int :=
  ((Json.lookup name fields).bind Json.asInt?).getD 0

def read (v : Json) : Except ReadFault AddInput :=
  (record.read v).map fun fields => ⟨intAt "a" fields, intAt "b" fields⟩

end AddInput

def int64Schema : Json := .obj [("type", .str "integer"), ("format", .str "int64")]

def addDefinition : ToolDefinition :=
  { ToolDefinition.start "add" "Adds two numbers." with
    inputSchema :=
      Schema.ofRecord "AddInput" none ["a", "b"] [("a", int64Schema), ("b", int64Schema)]
    outputSchema := some (Schema.ofRecord "AddOutput" none ["sum"] [("sum", int64Schema)]) }

/-- The sum, if it fits the same 64 bits. -/
def addAnswer (input : AddInput) : Except ToolFault Int :=
  let sum := input.a + input.b
  if -Int.pow 2 63 ≤ sum ∧ sum < Int.pow 2 63 then .ok sum else .error (.execution "overflow")

def addTyping : Typing AddInput Int where
  read := AddInput.read
  answer input _ := addAnswer input
  write sum := .obj [("sum", .int sum)]

/-! ### Greeting -/

structure GreetInput where
  name : String
  times : Option Nat
  loud : Bool

namespace GreetInput

def record : Record :=
  ⟨"GreetInput",
    [.required "name" .string, .optionalIn "times" .byte, .defaulted "loud" .boolean], false⟩

def read (v : Json) : Except ReadFault GreetInput :=
  (record.read v).map fun fields =>
    ⟨Json.stringAt "name" fields, (Json.lookup "times" fields).bind Json.asNat?,
      Json.boolAt "loud" fields⟩

end GreetInput

structure GreetOutput where
  text : String
  times : Option Nat

def timesSchema : Json :=
  .obj
    [("type", .arr [.str "integer", .str "null"]), ("format", .str "uint8"), ("minimum", .int 0),
     ("maximum", .int 255)]

def greetDefinition : ToolDefinition :=
  { ToolDefinition.start "greet" "Greets." with
    inputSchema :=
      Schema.ofRecord "GreetInput" none ["name"]
        [("name", Schema.typed "string" "Who to greet."), ("times", timesSchema),
         ("loud", .obj [("type", .str "boolean"), ("default", .bool false)])]
    outputSchema := some
      (Schema.ofRecord "GreetOutput" none ["text"]
        [("text", .obj [("type", .str "string")]), ("times", timesSchema)]) }

/-- The name, in upper case if it is to be loud. -/
def greetAnswer (input : GreetInput) (call : ToolCall) : Except ToolFault GreetOutput :=
  if input.name = "" then .error (.parameter (call.tool ++ ": empty name"))
  else .ok ⟨if input.loud then Text.upper input.name else input.name, input.times⟩

def greetTyping : Typing GreetInput GreetOutput where
  read := GreetInput.read
  answer := greetAnswer
  write output :=
    .obj (("text", .str output.text) :: Json.optionalField "times" (output.times.map Json.nat))

/-- The typed tools by name. -/
def tool? {X W : Type} : String → Option (Tool X W)
  | "add" => some (.typed addDefinition addTyping)
  | "greet" => some (.typed greetDefinition greetTyping)
  | "word_count" => some (.typed Demo.wordCountDefinition Demo.wordCountTyping)
  | "create_note" => some (.typed Demo.createNoteDefinition Demo.createNoteTyping)
  | _ => none

end StagedFlow.Sample
