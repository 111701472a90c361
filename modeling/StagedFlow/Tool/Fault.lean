/-!
# Faults of tools
-/

namespace StagedFlow

inductive ToolFault where
  | parameter (reason : String)
  | execution (reason : String)
  | serialization (reason : String)
deriving DecidableEq

def ToolFault.message : ToolFault → String
  | parameter reason => "Parameter error: " ++ reason
  | execution reason => "Execution error: " ++ reason
  | serialization reason => "Serialization error: " ++ reason

/-- Which of its two schemas a tool declares wrongly. -/
inductive SchemaSide where
  | input
  | output
deriving DecidableEq

def SchemaSide.name : SchemaSide → String
  | input => "input"
  | output => "output"

/-- Why a tool is not registered. -/
inductive ToolRegistrationFault where
  | duplicateTool (name : String)
  | invalidSchema (tool : String) (side : SchemaSide) (reason : String)
deriving DecidableEq

def ToolRegistrationFault.message : ToolRegistrationFault → String
  | duplicateTool name => "Tool '" ++ name ++ "' is already registered"
  | invalidSchema tool side reason =>
    "Tool '" ++ tool ++ "' declares an invalid " ++ side.name ++ " schema: " ++ reason

end StagedFlow
