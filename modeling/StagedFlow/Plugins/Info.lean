import StagedFlow.Server.Program
import StagedFlow.Server.Store

/-!
# The plugin for the server's own description
-/

namespace StagedFlow

variable {X L : Type}

def infoPluginType : String := "meridian_core::server_info::ServerInfoPlugin"

/-- Provides the description of the server, under a name of its own if one is given. -/
def infoPlugin (name : Option String) : Plugin (Store X L) where
  info := .ofType infoPluginType []
  build :=
    .change
      (fun store =>
        store.provide .info { ServerInfo.start with name := name.getD ServerInfo.start.name })
      .done
  ready := .done
  cleanup := .done

end StagedFlow
