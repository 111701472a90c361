import StagedFlow.Plugins.Info
import StagedFlow.Server.Group

/-!
# The plugin for the trace log

It provides the settings of the trace log. The default plugins are this one and the one for the
server's description.
-/

namespace StagedFlow

variable {X L : Type}

def tracePluginType : String := "meridian_core::tracing_plugin::TracingPlugin"

def tracePlugin (config : TraceConfig) : Plugin (Store X L) where
  info := .ofType tracePluginType [infoPluginType]
  build := .change (fun store => store.provide .trace config) .done
  ready := .done
  cleanup := .done

def defaultPlugins : PluginGroup (Store X L) := ⟨[infoPlugin none, tracePlugin .start]⟩

end StagedFlow
