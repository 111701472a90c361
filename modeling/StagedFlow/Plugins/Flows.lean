import StagedFlow.Server.Program
import StagedFlow.Server.Store

/-!
# The plugin for flows

It opens the registries through which other plugins declare flows and hook into them.
-/

namespace StagedFlow

variable {X L : Type}

namespace Store

/-- Opens empty registries of flows and hooks. -/
def openFlows (store : Store X L) : Store X L :=
  (store.putApi .flows []).putApi .hooks .empty

/-- Declares flows; `absent` is the complaint if there is no registry of flows. -/
def declare (absent : String) (flows : List (ServedFlow X L)) (store : Store X L) :
    Except ServerFault (Store X L) :=
  match store.apis.get? .flows with
  | some (declared : List (ServedFlow X L)) => .ok (store.putApi .flows (declared ++ flows))
  | none => .error (.failed absent)

end Store

def flowsPluginType : String := "meridian_flow::plugin::FlowsPlugin"

def flowsPlugin : Plugin (Store X L) where
  info := .ofType flowsPluginType []
  build := .change Store.openFlows .done
  ready := .done
  cleanup := .done

end StagedFlow
