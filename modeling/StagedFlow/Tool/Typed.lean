import StagedFlow.Record.Basic
import StagedFlow.Tool.Registry

/-!
# Typed tools

A typed tool reads its arguments into a type of its own, answers with a value of another one, and
writes that value as JSON.
-/

namespace StagedFlow

/-- The schema of a record of a title: its required fields and its properties. -/
def Schema.ofRecord (title : String) (description : Option String) (required : List String)
    (properties : List (String × Json)) : Json :=
  .obj
    ([("required", .arr (required.map .str)), ("title", .str title)]
      ++ Json.optionalField "description" (description.map .str)
      ++ [("type", .str "object"), ("properties", .obj properties)])

/-- How a tool works on types of its own. -/
structure Typing (I O : Type) where
  read : Json → Except ReadFault I
  answer : I → ToolCall → Except ToolFault O
  write : O → Json

namespace Typing

variable {I O : Type}

/-- The output for arguments; arguments that cannot be read are a fault of the parameters. -/
def run (typing : Typing I O) (arguments : Json) (call : ToolCall) : Except ToolFault Json :=
  match typing.read arguments with
  | .error fault => .error (.parameter fault.message)
  | .ok input => (typing.answer input call).map typing.write

end Typing

/-- A typed tool without hooks. -/
def Tool.typed {X W I O : Type} (definition : ToolDefinition) (typing : Typing I O) : Tool X W where
  definition := definition
  execute arguments call := .done (typing.run arguments call)
  hooks := []

end StagedFlow
