import StagedFlow.Server.Program

/-!
# Servers

A server takes plugins, builds them in the order of their dependencies, tells each of them when all
are built, and cleans up in reverse. While the server builds, a plugin that is added is built at
once. The list of built plugins is put aside while plugins are told that all are built, and while
the server cleans up: it comes back as it was, so that plugins added meanwhile are left out.
-/

namespace StagedFlow

/-- How far a server is built. -/
inductive Progress where
  | notStarted
  | building
  | built
deriving DecidableEq

structure Server (S : Type) where
  store : S
  progress : Progress
  /-- Plugins that wait to be built. -/
  pending : List (Plugin S)
  built : List (Plugin S)
  /-- The types of all plugins that were ever added. -/
  types : List String

/-- Actions on a server; a fault leaves the server as it is then. -/
abbrev ServerM (S : Type) := ExceptT ServerFault (StateM (Server S))

variable {S : Type}

namespace Question

def answer (server : Server S) : Question → Bool
  | built => server.progress == .built
  | added type => server.types.contains type

end Question

namespace Server

def start (store : S) : Server S := ⟨store, .notStarted, [], [], []⟩

/-- Notes that a plugin is added; refuses a unique one whose type was added before. -/
def enlist (info : PluginInfo) : ServerM S Unit := do
  let server ← get
  if info.unique && server.types.contains info.type then throw (.alreadyAdded info.name)
  set { server with types := server.types ++ [info.type] }

def act (change : S → Except ServerFault S) : ServerM S Unit := do
  let server ← get
  match change server.store with
  | .ok store => set { server with store }
  | .error fault => throw fault

def push (plugin : Plugin S) : ServerM S Unit :=
  modify fun server => { server with built := server.built ++ [plugin] }

def suspend (plugin : Plugin S) : ServerM S Unit :=
  modify fun server => { server with pending := server.pending ++ [plugin] }

/-- Puts the list of built plugins aside while something is done with them. -/
def withBuilt (use : List (Plugin S) → ServerM S Unit) : ServerM S Unit := do
  let built := (← get).built
  modify fun server => { server with built := [] }
  use built
  modify fun server => { server with built }

end Server

/-- Runs a program, given what finishing and cleaning up do. -/
def Program.run (finishing cleaning : ServerM S Unit) : Program S → ServerM S Unit
  | done => pure ()
  | act change next => do
    Server.act change
    next.run finishing cleaning
  | ask question note next => do
    modify fun server => { server with store := note (question.answer server) server.store }
    next.run finishing cleaning
  | guarded test body next => do
    if test (← get).store then body.run finishing cleaning
    next.run finishing cleaning
  | add info build ready after next => do
    Server.enlist info
    if (← get).progress = .building then
      build.run finishing cleaning
      Server.push ⟨info, build, ready, after⟩
    else Server.suspend ⟨info, build, ready, after⟩
    next.run finishing cleaning
  | finish next => do
    finishing
    next.run finishing cleaning
  | cleanup next => do
    cleaning
    next.run finishing cleaning

namespace Server

/-- A server that has begun to build cannot be finished again; plugins act on no other. -/
def refuse : ServerM S Unit := throw .alreadyFinished

/-- Cleans up, newest plugin first, where cleanups nest at most `depth` deep. -/
def cleanupWithin : Nat → ServerM S Unit
  | 0 => pure ()
  | depth + 1 =>
    withBuilt fun plugins =>
      plugins.reverse.forM fun plugin => plugin.cleanup.run refuse (cleanupWithin depth)

/-- How deep the cleanups of plugins nest. -/
def depthOf (plugins : List (Plugin S)) : Nat :=
  plugins.foldl (fun depth plugin => max depth (plugin.cleanup.depth + 1)) 0

/-- Cleans up every built plugin, newest first. -/
def cleanup : ServerM S Unit := do
  cleanupWithin (depthOf (← get).built)

/-- Runs a callback of a plugin. -/
def call (program : Program S) : ServerM S Unit := program.run refuse cleanup

/-- Plugins in the order in which they are built, some being built already. -/
def sorted (built plugins : List (Plugin S)) : Except ServerFault (List (Plugin S)) :=
  (PluginOrder.sort (built.map fun plugin => plugin.info.name) (plugins.map Plugin.info)).map
    fun order => order.filterMap fun i => plugins[i]?

/-- Builds every plugin, then tells each of them that all are built. -/
def finish : ServerM S Unit := do
  let server ← get
  if server.progress ≠ .notStarted then throw .alreadyFinished
  set { server with pending := [] }
  let plugins ← match sorted server.built server.pending with
    | .ok plugins => pure plugins
    | .error fault => throw fault
  modify fun server => { server with progress := .building }
  plugins.forM fun plugin => do
    call plugin.build
    push plugin
  withBuilt fun plugins => plugins.forM fun plugin => call plugin.ready
  modify fun server => { server with progress := .built }

/-- Runs a program from outside of the server's plugins. -/
def run (program : Program S) : ServerM S Unit := program.run finish cleanup

def add (plugin : Plugin S) : ServerM S Unit :=
  run (.add plugin.info plugin.build plugin.ready plugin.cleanup .done)

end Server

end StagedFlow
