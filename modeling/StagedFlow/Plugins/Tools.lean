import StagedFlow.Server.Program
import StagedFlow.Server.Store

/-!
# The plugin for tools

While the server is built the registry of tools is a resource, to which other plugins add. When all
plugins are built it is frozen: it becomes a provider.
-/

namespace StagedFlow

variable {X L : Type}

namespace Store

/-- Turns the registry of tools from a resource into a provider. -/
def freezeTools (store : Store X L) : Except ServerFault (Store X L) :=
  match store.resources.get? .tools with
  | some (tools : ToolRegistry X (World L)) =>
    .ok ({ store with resources := store.resources.erase .tools }.provide .tools tools)
  | none => .error (.failed "ToolRegistry should exist from build phase")

end Store

def toolsPluginType : String := "meridian_tools::registry::ToolsPlugin"

def toolsPlugin : Plugin (Store X L) where
  info := .ofType toolsPluginType []
  build := .change (fun store => store.putResource .tools ToolRegistry.empty) .done
  ready := .act Store.freezeTools .done
  cleanup := .done

end StagedFlow
