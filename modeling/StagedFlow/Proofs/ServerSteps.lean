import StagedFlow.Server.Basic

/-!
# What actions on a server do

An action takes a server to a result and a server. Actions one after the other go on from where the
first one ends, unless it fails; what the parts of a program do follows from that.
-/

namespace StagedFlow

variable {S α β : Type}

def ServerM.exec (m : ServerM S α) (server : Server S) : Except ServerFault α × Server S :=
  m.run.run server

namespace ServerM

@[simp]
theorem exec_pure (a : α) (server : Server S) :
    exec (pure a : ServerM S α) server = (.ok a, server) := rfl

@[simp]
theorem exec_throw (fault : ServerFault) (server : Server S) :
    exec (throw fault : ServerM S α) server = (.error fault, server) := rfl

@[simp]
theorem exec_get (server : Server S) : exec (get : ServerM S _) server = (.ok server, server) := rfl

@[simp]
theorem exec_modify (f : Server S → Server S) (server : Server S) :
    exec (modify f : ServerM S _) server = (.ok ⟨⟩, f server) := rfl

theorem exec_bind (m : ServerM S α) (next : α → ServerM S β) (server : Server S) :
    exec (m >>= next) server =
      match exec m server with
      | (.ok a, server) => exec (next a) server
      | (.error fault, server) => (.error fault, server) := by
  show (m.run >>= ExceptT.bindCont next).run server = _
  rw [StateT.run_bind]
  show (match exec m server with
    | (result, server) => (ExceptT.bindCont next result).run server) = _
  rcases exec m server with ⟨result | a, server⟩ <;> rfl

variable {m : ServerM S α} {next : α → ServerM S β} {server server' : Server S}

theorem exec_bind_of_ok {a : α} (h : exec m server = (.ok a, server')) :
    exec (m >>= next) server = exec (next a) server' := by
  rw [exec_bind, h]

theorem exec_bind_of_error {fault : ServerFault} (h : exec m server = (.error fault, server')) :
    exec (m >>= next) server = (.error fault, server') := by
  rw [exec_bind, h]

end ServerM

open ServerM

namespace Server

theorem exec_enlist (info : PluginInfo) (server : Server S) :
    exec (enlist info) server =
      if info.unique && server.types.contains info.type then
        (.error (.alreadyAdded info.name), server)
      else (.ok (), { server with types := server.types ++ [info.type] }) := by
  rw [enlist, exec_bind_of_ok (exec_get server)]
  cases info.unique && server.types.contains info.type <;> rfl

theorem exec_act (change : S → Except ServerFault S) (server : Server S) :
    exec (act change) server =
      match change server.store with
      | .ok store => (.ok (), { server with store })
      | .error fault => (.error fault, server) := by
  rw [act, exec_bind_of_ok (exec_get server)]
  cases change server.store <;> rfl

@[simp]
theorem exec_push (plugin : Plugin S) (server : Server S) :
    exec (push plugin) server = (.ok (), { server with built := server.built ++ [plugin] }) := rfl

@[simp]
theorem exec_suspend (plugin : Plugin S) (server : Server S) :
    exec (suspend plugin) server =
      (.ok (), { server with pending := server.pending ++ [plugin] }) := rfl

/-- The server after something was done with its built plugins: they come back unless it failed. -/
def restore (built : List (Plugin S)) (result : Except ServerFault Unit) (server : Server S) :
    Server S :=
  match result with
  | .ok _ => { server with built }
  | .error _ => server

theorem exec_withBuilt (use : List (Plugin S) → ServerM S Unit) (server : Server S) :
    exec (withBuilt use) server =
      ((exec (use server.built) { server with built := [] }).1,
        restore server.built (exec (use server.built) { server with built := [] }).1
          (exec (use server.built) { server with built := [] }).2) := by
  rw [withBuilt, exec_bind_of_ok (exec_get server), exec_bind_of_ok (exec_modify _ server),
    exec_bind]
  rcases exec (use server.built) { server with built := [] } with ⟨fault | ⟨⟩, after⟩ <;> rfl

@[simp]
theorem progress_restore (built : List (Plugin S)) (result : Except ServerFault Unit)
    (server : Server S) : (restore built result server).progress = server.progress := by
  cases result <;> rfl

end Server

end StagedFlow
