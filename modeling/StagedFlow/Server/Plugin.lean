import StagedFlow.Text.Quoted

/-!
# What a server knows of a plugin

A plugin is known by its type and bears a name: the name of its type, unless it has one of its own.
Its dependencies are types of plugins; a dependency is met by a plugin that bears the name of the
type, whatever type that plugin has itself.
-/

namespace StagedFlow

structure PluginInfo where
  type : String
  ownName : Option String
  /-- A server takes one plugin of this type only. -/
  unique : Bool
  dependencies : List String
deriving DecidableEq

namespace PluginInfo

/-- A plugin that bears the name of its type. -/
def ofType (type : String) (dependencies : List String) : PluginInfo :=
  ⟨type, none, true, dependencies⟩

/-- The name that a plugin bears. -/
def name (info : PluginInfo) : String := info.ownName.getD info.type

end PluginInfo

/-- What brings a server down. -/
inductive ServerFault where
  | alreadyAdded (plugin : String)
  | alreadyFinished
  | notAdded (plugin dependency : String)
  | circular (plugins : List String)
  | failed (text : String)
deriving DecidableEq

def ServerFault.message : ServerFault → String
  | alreadyAdded plugin =>
    "Plugin '" ++ plugin ++ "' is unique and was already added.\n"
      ++ "If you intended to add this plugin multiple times, return `false` from `is_unique()`."
  | alreadyFinished => "Server::finish() was already called. Cannot build twice."
  | notAdded plugin dependency =>
    "Plugin '" ++ plugin ++ "' requires '" ++ dependency ++ "' which was not added.\n"
      ++ "Add " ++ dependency ++ " before " ++ plugin
      ++ ", or use a plugin group that includes it."
  | circular plugins =>
    "Circular dependency detected among plugins: " ++ Text.quotedList plugins
      ++ "\nBreak the cycle by extracting shared functionality into a separate plugin."
  | failed text => text

end StagedFlow
