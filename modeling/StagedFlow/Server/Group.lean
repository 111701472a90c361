import StagedFlow.Server.Program

/-!
# Plugin groups

A list of plugins that is edited before its plugins are added to a server together.
-/

namespace StagedFlow

structure PluginGroup (S : Type) where
  plugins : List (Plugin S)

namespace PluginGroup

variable {S : Type}

def empty : PluginGroup S := ⟨[]⟩

/-- The place of the first plugin of a type. -/
def position? (group : PluginGroup S) (type : String) : Option Nat :=
  group.plugins.findIdx? fun plugin => plugin.info.type == type

def contains (group : PluginGroup S) (type : String) : Bool := (group.position? type).isSome

def add (group : PluginGroup S) (plugin : Plugin S) : PluginGroup S :=
  ⟨group.plugins ++ [plugin]⟩

/-- Puts a plugin before the first one of a type, or in front if there is none. -/
def addBefore (group : PluginGroup S) (plugin : Plugin S) (type : String) : PluginGroup S :=
  ⟨group.plugins.insertIdx ((group.position? type).getD 0) plugin⟩

/-- Puts a plugin after the first one of a type, or at the end if there is none. -/
def addAfter (group : PluginGroup S) (plugin : Plugin S) (type : String) : PluginGroup S :=
  match group.position? type with
  | some i => ⟨group.plugins.insertIdx (i + 1) plugin⟩
  | none => group.add plugin

/-- Removes every plugin of a type. -/
def disable (group : PluginGroup S) (type : String) : PluginGroup S :=
  ⟨group.plugins.filter fun plugin => plugin.info.type != type⟩

end PluginGroup

end StagedFlow
