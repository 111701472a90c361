import StagedFlow.Server.Store
import StagedFlow.Tool.Calling
import StagedFlow.Tool.Listing
import StagedFlow.Tool.Published

/-!
# The tool flows

The two flows of a tool server, made from its tools, its policy and its renderer.
-/

namespace StagedFlow

variable {X L : Type}

/-- The tools among providers, or a fault that names them. -/
def Providers.tools (providers : Providers X L) : Except FlowFault (ToolRegistry X (World L)) :=
  match providers.get? .tools with
  | some tools => .ok tools
  | none => .error (.internal (Providers.missing .tools))

/-- The policy among providers, or the default one. -/
def Providers.auth (providers : Providers X L) : AuthConfig :=
  (providers.get? .auth).getD AuthConfig.default

/-- A flow that passes its check at once. -/
def PreparedFlow.ofTable {W H : Type} (table : List (HookBinding H)) : PreparedFlow W H :=
  ⟨table, .done (.ok ())⟩

def callFlow : ServedFlow X L where
  token := callToken
  plan := callPlan
  access := .everyone
  inputSchema := some Published.callInput
  outputSchema := some Published.callOutput
  route := some ⟨some "POST", "/tools/call", []⟩
  guard _ := true
  dependencies := [.tools]
  prepare providers := do
    let tools ← Providers.tools providers
    let flow : CallFlow X L := ⟨tools, Providers.auth providers, providers.get? .renderer⟩
    pure (.ofTable flow.table)

def listFlow : ServedFlow X L where
  token := listToken
  plan := listPlan
  access := .everyone
  inputSchema := some Published.listInput
  outputSchema := some Published.listOutput
  route := some ⟨some "POST", "/tools/list", []⟩
  guard _ := true
  dependencies := [.tools]
  prepare providers := do
    let tools ← Providers.tools providers
    let flow : ListFlow X L := ⟨tools, Providers.auth providers⟩
    pure (.ofTable flow.table)

end StagedFlow
