import StagedFlow.Plugins.Flows
import StagedFlow.Plugins.Tools
import StagedFlow.Tool.Flows

/-!
# The plugin for the tool flows

It provides the policy and the renderer, as far as they are given, and declares the two tool flows.
-/

namespace StagedFlow

variable {X L : Type}

/-- Provides what is given. -/
def Store.provideTo (auth : Option AuthConfig) (renderer : Option (Renderer (World L)))
    (store : Store X L) : Store X L :=
  let store := match auth with
    | some auth => store.provide .auth auth
    | none => store
  match renderer with
  | some renderer => store.provide .renderer renderer
  | none => store

def toolFlowsPluginType : String := "meridian_tools::plugin::ToolFlowsPlugin"

def toolFlowsPlugin (auth : Option AuthConfig) (renderer : Option (Renderer (World L))) :
    Plugin (Store X L) where
  info := .ofType toolFlowsPluginType [flowsPluginType, toolsPluginType]
  build :=
    .change (Store.provideTo auth renderer)
      (.act
        (Store.declare "FlowsPlugin must be added before ToolFlowsPlugin" [callFlow, listFlow])
        .done)
  ready := .done
  cleanup := .done

end StagedFlow
