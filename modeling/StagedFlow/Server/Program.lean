import StagedFlow.Server.Order

/-!
# What plugins do

A callback of a plugin is a program on the server: it changes the store, asks about the server, adds
further plugins, and may ask the server to finish or to clean up.
-/

namespace StagedFlow

/-- What a program can ask a server. -/
inductive Question where
  /-- The server is built. -/
  | built
  /-- A plugin of a type was added. -/
  | added (type : String)

/-- A program on a server with a store `S`. -/
inductive Program (S : Type) where
  | done
  | act (change : S → Except ServerFault S) (next : Program S)
  /-- Notes in the store what the server answers. -/
  | ask (question : Question) (note : Bool → S → S) (next : Program S)
  /-- Does the body if the store passes a test. -/
  | guarded (test : S → Bool) (body : Program S) (next : Program S)
  | add (info : PluginInfo) (build ready cleanup : Program S) (next : Program S)
  | finish (next : Program S)
  | cleanup (next : Program S)

/-- A plugin: its callbacks run when the server builds it, when all plugins are built, and when the
server cleans up. -/
structure Plugin (S : Type) where
  info : PluginInfo
  build : Program S
  ready : Program S
  cleanup : Program S

namespace Program

variable {S : Type}

/-- How deep cleanups can nest below a cleanup that this program asks for: it cleans up plugins that
the program has added. -/
def depth : Program S → Nat
  | done => 0
  | act _ next => next.depth
  | ask _ _ next => next.depth
  | guarded _ body next => max body.depth next.depth
  | add _ build _ after next => max build.depth (max (after.depth + 1) next.depth)
  | finish next => next.depth
  | cleanup next => next.depth

/-- A change of the store that cannot fail. -/
def change (f : S → S) (next : Program S) : Program S := act (fun s => .ok (f s)) next

def addAll (plugins : List (Plugin S)) (next : Program S) : Program S :=
  plugins.foldr (fun plugin rest => add plugin.info plugin.build plugin.ready plugin.cleanup rest)
    next

end Program

end StagedFlow
