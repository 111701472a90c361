import StagedFlow.Hook.Binding
import StagedFlow.Task
import StagedFlow.Tool.Definition
import StagedFlow.Tool.Fault

/-!
# The registry of tools

Tools are kept by name in the order of their registration. A tool is refused if one of its schemas
is not a schema, or if its name is taken.
-/

namespace StagedFlow

/-- How schemas are read: why a document is none, and in what a value violates one. -/
structure SchemaRules where
  fault? : Json → Option String
  violations : Json → Json → List Violation

def SchemaRules.drafts : SchemaRules := ⟨Schema.fault?, Schema.validate⟩

/-- A tool with hooks `X` over a world `W`. Its schemas are read by rules of its own. -/
structure Tool (X W : Type) where
  definition : ToolDefinition
  execute : Json → ToolCall → Task W (Except ToolFault Json)
  hooks : List (HookBinding X)
  rules : SchemaRules := .drafts

namespace Tool

variable {X W : Type}

def name (tool : Tool X W) : String := tool.definition.name

def owner (tool : Tool X W) : Option String := tool.definition.owner

/-- The violations of the input schema by arguments. -/
def inputViolations (tool : Tool X W) (arguments : Json) : List Violation :=
  tool.rules.violations tool.definition.inputSchema arguments

/-- The violations of the output schema by an output; without a schema there are none. -/
def outputViolations (tool : Tool X W) (output : Json) : List Violation :=
  match tool.definition.outputSchema with
  | some schema => tool.rules.violations schema output
  | none => []

/-- The first schema of the tool that is not one, with the reason. -/
def schemaFault? (tool : Tool X W) : Option ToolRegistrationFault :=
  match tool.rules.fault? tool.definition.inputSchema with
  | some reason => some (.invalidSchema tool.name .input reason)
  | none =>
    (tool.definition.outputSchema.bind tool.rules.fault?).map (.invalidSchema tool.name .output)

end Tool

structure ToolRegistry (X W : Type) where
  tools : List (Tool X W)

namespace ToolRegistry

variable {X W : Type}

def empty : ToolRegistry X W := ⟨[]⟩

/-- The tool of a name, hidden or not. -/
def find? (registry : ToolRegistry X W) (name : String) : Option (Tool X W) :=
  registry.tools.find? fun tool => tool.name == name

def has (registry : ToolRegistry X W) (name : String) : Bool := (registry.find? name).isSome

def names (registry : ToolRegistry X W) : List String := registry.tools.map Tool.name

/-- The tools that appear in listings. -/
def visible (registry : ToolRegistry X W) : List (Tool X W) :=
  registry.tools.filter fun tool => !tool.definition.hidden

def definitions (registry : ToolRegistry X W) : List ToolDefinition :=
  registry.visible.map Tool.definition

def size (registry : ToolRegistry X W) : Nat := registry.tools.length

def register (registry : ToolRegistry X W) (tool : Tool X W) :
    Except ToolRegistrationFault (ToolRegistry X W) :=
  match tool.schemaFault? with
  | some fault => .error fault
  | none =>
    if registry.has tool.name then .error (.duplicateTool tool.name)
    else .ok ⟨registry.tools ++ [tool]⟩

end ToolRegistry

end StagedFlow
