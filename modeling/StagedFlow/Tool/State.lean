import StagedFlow.Auth.Config
import StagedFlow.Bag
import StagedFlow.Flow.Definition
import StagedFlow.Render.Template
import StagedFlow.Tool.Envelope
import StagedFlow.Tool.Registry

/-!
# The world and the state of tool calls

Calls of a server share a world: a counter of calls, the permits that are free, and whatever the
server's own hooks and tools keep there. The state of one call is a bag whose slots fix the types of
their values.
-/

namespace StagedFlow

structure World (L : Type) where
  calls : Nat
  permits : Nat
  own : L

namespace World

variable {L : Type}

/-- The identity of the next call. -/
def nextId (w : World L) : String := "call#" ++ toString (w.calls + 1)

def countCall (w : World L) : World L := { w with calls := w.calls + 1 }

def takePermit (w : World L) : World L := { w with permits := w.permits - 1 }

def givePermit (w : World L) : World L := { w with permits := w.permits + 1 }

def mapOwn (f : L → L) (w : World L) : World L := { w with own := f w.own }

end World

/-- An app was skipped: the call of one of its tools goes on without authorization. -/
structure AnonymousAccess where
  app : String
  tool : String
deriving DecidableEq

/-- What the state of a call can hold. -/
inductive Slot where
  | value (i : Nat)
  | scope
  | auth
  | session
  | params
  | tool
  | call
  | anonymous
  | validated
  | execution
  | raw
  | listing
  | permit
deriving DecidableEq

/-- The type of the value in a slot. -/
def Slot.Val (X L : Type) : Slot → Type
  | .value _ => Json
  | .scope => String
  | .auth => AuthInfo
  | .session => SessionInfo
  | .params => CallParams
  | .tool => Tool X (World L)
  | .call => ToolCall
  | .anonymous => AnonymousAccess
  | .validated => Json
  | .execution => Json
  | .raw => Json
  | .listing => Listing
  | .permit => Unit

instance : Named Slot where
  typeName
    | .value i => "State<" ++ toString i ++ ">"
    | .scope => "meridian_flow::context::CallScope"
    | .auth => "meridian_tools::auth::AuthInfo"
    | .session => "meridian_tools::auth::SessionInfo"
    | .params => "meridian_tools::flows::call_tool::CallToolParams"
    | .tool => "alloc::sync::Arc<meridian_tools::registry::ToolEntry>"
    | .call => "meridian_tools::tool::ToolCallContext"
    | .anonymous => "meridian_tools::auth::AnonymousToolAccess"
    | .validated => "meridian_tools::flows::call_tool::ValidatedInput"
    | .execution => "meridian_tools::flows::call_tool::ExecutionOutput"
    | .raw => "meridian_tools::flows::call_tool::RawToolOutput"
    | .listing => "meridian_tools::flows::list_tools::ListToolsResult"
    | .permit => "Permit"

abbrev CallState (X L : Type) := Bag Slot (Slot.Val X L)

/-- The value under a key that a call cannot do without. -/
def Bag.require {K : Type} {V : K → Type} [DecidableEq K] [Named K] (bag : Bag K V) (key : K) :
    Except FlowFault (V key) :=
  match bag.get? key with
  | some v => .ok v
  | none => .error (.internal ("call state is missing " ++ Named.typeName key))

/-- Renders results over a world. -/
structure Renderer (W : Type) where
  render : RenderRequest → Task W (Except RenderFault (List (String × Json)))

/-- Fills the template of the tool. -/
def Renderer.template {W : Type} : Renderer W := ⟨fun request => .done (Template.render request)⟩

end StagedFlow
