import StagedFlow.Server.Plugin

/-!
# The order in which plugins are built

A plugin waits for the first plugin that bears the name of each type that it depends on, once for
each time that it names the type. It is counted for every plugin how many of its waits are unmet.
Plugins that wait for none come first, in the order in which they were added; placing a plugin meets
the waits for it, one after the other, and lets those go on that have none left.
-/

namespace StagedFlow.PluginOrder

/-- The first plugins that bear the names of dependencies. A plugin that is built already need not
be waited for; `built` are the names of those. -/
def targets (built : List String) (infos : List PluginInfo) (plugin : PluginInfo) :
    List String → Except ServerFault (List Nat)
  | [] => .ok []
  | dependency :: rest =>
    match infos.findIdx? fun info => info.name == dependency with
    | some i => (targets built infos plugin rest).map (i :: ·)
    | none =>
      if built.contains dependency then targets built infos plugin rest
      else .error (.notAdded plugin.name dependency)

/-- For each plugin the plugins that it waits for. -/
def waits (built : List String) (infos : List PluginInfo) : Except ServerFault (List (List Nat)) :=
  infos.mapM fun plugin => targets built infos plugin plugin.dependencies

/-- The plugins that the plugin at a place waits for. -/
def waitsAt (waits : List (List Nat)) (i : Nat) : List Nat := waits.getD i []

/-- The plugins that wait for a plugin, each as often as it waits. -/
def dependents (waits : List (List Nat)) (target : Nat) : List Nat :=
  (List.range waits.length).flatMap fun i =>
    ((waitsAt waits i).filter fun j => j == target).map fun _ => i

/-- How far plugins are placed. -/
structure Placing where
  /-- For each plugin the number of its unmet waits. -/
  unmet : List Nat
  /-- Plugins without unmet waits that are yet to be placed. -/
  queue : List Nat
  placed : List Nat

namespace Placing

/-- Nothing is placed; the plugins that wait for none are in the queue. -/
def start (waits : List (List Nat)) : Placing where
  unmet := waits.map List.length
  queue := (List.range waits.length).filter fun i => (waitsAt waits i).isEmpty
  placed := []

/-- Meets a wait of a plugin. There is no such state if none of its waits is unmet. -/
def meet (s : Placing) (i : Nat) : Option Placing :=
  match s.unmet[i]? with
  | some (left + 1) =>
    some { s with
      unmet := s.unmet.set i left
      queue := if left = 0 then s.queue ++ [i] else s.queue }
  | _ => none

/-- Places the first plugin of the queue, and meets the waits for it. -/
def step (waits : List (List Nat)) (s : Placing) : Option Placing :=
  match s.queue with
  | [] => some s
  | next :: queue =>
    (dependents waits next).foldlM meet { s with queue, placed := s.placed ++ [next] }

/-- Places as many plugins. -/
def run (waits : List (List Nat)) : Nat → Placing → Option Placing
  | 0, s => some s
  | steps + 1, s => (s.step waits).bind (run waits steps)

end Placing

/-- The end of placing. As each plugin is placed at most once, as many steps as there are plugins
suffice. -/
def settle (waits : List (List Nat)) : Option Placing :=
  Placing.run waits waits.length (.start waits)

/-- The plugins that still wait. -/
def stuck (s : Placing) : List Nat :=
  (List.range s.unmet.length).filter fun i => 0 < s.unmet.getD i 0

/-- The order in which plugins are built. -/
def sort (built : List String) (infos : List PluginInfo) : Except ServerFault (List Nat) := do
  match settle (← waits built infos) with
  | none => throw (.failed "attempt to subtract with overflow")
  | some s =>
    if s.placed.length = infos.length then pure s.placed
    else throw (.circular ((stuck s).filterMap fun i => infos[i]?.map PluginInfo.name))

end StagedFlow.PluginOrder
