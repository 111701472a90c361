import StagedFlow.Proofs.Finishing

/-!
# Servers that have not begun to build

Whatever is done to a server from outside, and wherever that fails, no plugin is built before the
server begins to build, and it never forgets that it has begun.
-/

namespace StagedFlow

variable {S : Type}

open ServerM Server

/-- A server that programs lead to, also programs that fail. -/
inductive Server.Reached : Server S → Prop where
  | start (store : S) : Reached (.start store)
  | run {server : Server S} (program : Program S) (h : Reached server) :
    Reached (exec (Server.run program) server).2

structure Onward (server after : Server S) : Prop where
  begun : server.progress ≠ .notStarted → after.progress ≠ .notStarted
  built : after.progress = .notStarted → server.built = [] → after.built = []

namespace Onward

variable {server mid after : Server S}

theorem of_same (hprogress : after.progress = server.progress)
    (hbuilt : after.built = server.built) :
    Onward server after :=
  ⟨fun h => hprogress ▸ h, fun _ h => hbuilt.trans h⟩

theorem of_begun (h : after.progress ≠ .notStarted) : Onward server after :=
  ⟨fun _ => h, fun h' => absurd h' h⟩

theorem trans (h : Onward server mid) (h' : Onward mid after) : Onward server after where
  begun hserver := h'.begun (h.begun hserver)
  built hafter hserver := by
    refine h'.built hafter (h.built ?_ hserver)
    by_contra hmid
    exact h'.begun hmid hafter

theorem bind {m next : ServerM S Unit} {start : Server S} (h : Onward server (exec m start).2)
    (hnext : ∀ mid, Onward server mid → Onward server (exec next mid).2) :
    Onward server (exec (m >>= fun _ => next) start).2 := by
  rw [exec_bind]
  generalize exec m start = ended at h
  rcases ended with ⟨fault | ⟨⟩, mid⟩
  · exact h
  · exact hnext mid h

end Onward

def Advances (m : ServerM S Unit) : Prop := ∀ server, Onward server (exec m server).2

namespace Advances

variable {m n next : ServerM S Unit}

theorem of_same (h : ∀ server, (exec m server).2.progress = server.progress ∧
    (exec m server).2.built = server.built) : Advances m :=
  fun server => .of_same (h server).1 (h server).2

theorem bind (h : Advances m) (hnext : Advances next) : Advances (m >>= fun _ => next) :=
  fun server => (h server).bind fun mid hmid => hmid.trans (hnext mid)

theorem forM {α : Type} {items : List α} {f : α → ServerM S Unit} (h : ∀ a, Advances (f a)) :
    Advances (items.forM f) := by
  induction items with
  | nil => exact of_same fun _ => ⟨rfl, rfl⟩
  | cons a rest ih =>
    rw [List.forM]
    exact (h a).bind ih

theorem withBuilt {use : List (Plugin S) → ServerM S Unit} (h : ∀ plugins, Advances (use plugins)) :
    Advances (Server.withBuilt use) := by
  intro server
  have hinner := h server.built { server with built := [] }
  rw [exec_withBuilt]
  generalize exec (use server.built) { server with built := [] } = ended at hinner
  rcases ended with ⟨fault | ⟨⟩, after⟩
  · exact ⟨hinner.begun, fun hafter _ => hinner.built hafter rfl⟩
  · exact ⟨hinner.begun, fun _ hserver => hserver⟩

end Advances

/-- A plugin is built only on a server that has begun to build. -/
theorem onward_construct {build : ServerM S Unit} (hbuild : Advances build) (plugin : Plugin S)
    {server : Server S} (hprogress : server.progress ≠ .notStarted) :
    Onward server (exec (build >>= fun _ => push plugin) server).2 :=
  (hbuild server).bind fun _ hmid => .of_begun (hmid.begun hprogress)

theorem Program.advances {finishing cleaning : ServerM S Unit} (hfinishing : Advances finishing)
    (hcleaning : Advances cleaning) (p : Program S) : Advances (p.run finishing cleaning) := by
  induction p with
  | done => exact .of_same fun _ => ⟨rfl, rfl⟩
  | act change next ih =>
    refine .bind (.of_same fun server => ?_) ih
    rw [exec_act]
    cases change server.store <;> exact ⟨rfl, rfl⟩
  | ask question note next ih => exact .bind (.of_same fun _ => ⟨rfl, rfl⟩) ih
  | guarded test body next hbody ih =>
    intro server
    rw [run, exec_bind_of_ok (exec_get server)]
    split
    · exact hbody.bind ih server
    · exact ih server
  | add info build ready after next hbuild _ _ ih =>
    refine .bind (.of_same fun server => ?_) fun server => ?_
    · rw [exec_enlist]
      split <;> exact ⟨rfl, rfl⟩
    · rw [exec_bind_of_ok (exec_get server)]
      split
      case isTrue hprogress =>
        have hbegun : server.progress ≠ .notStarted := by rw [hprogress]; decide
        rw [← bind_assoc]
        exact (onward_construct hbuild _ hbegun).bind fun mid hmid => hmid.trans (ih mid)
      case isFalse => exact Advances.bind (.of_same fun _ => ⟨rfl, rfl⟩) ih server
  | finish next ih => exact hfinishing.bind ih
  | cleanup next ih => exact hcleaning.bind ih

theorem advances_refuse : Advances (refuse : ServerM S Unit) := .of_same fun _ => ⟨rfl, rfl⟩

theorem advances_cleanupWithin (depth : Nat) : Advances (cleanupWithin depth : ServerM S Unit) := by
  induction depth with
  | zero => exact .of_same fun _ => ⟨rfl, rfl⟩
  | succ depth ih =>
    exact .withBuilt fun _ => .forM fun plugin => plugin.cleanup.advances advances_refuse ih

theorem advances_cleanup : Advances (cleanup : ServerM S Unit) := fun server => by
  rw [exec_cleanup]
  exact advances_cleanupWithin _ server

theorem advances_call (program : Program S) : Advances (call program) :=
  program.advances advances_refuse advances_cleanup

theorem advances_finish : Advances (finish : ServerM S Unit) := by
  intro server
  by_cases hprogress : server.progress = .notStarted
  · cases hsorted : sorted server.built server.pending with
    | error fault =>
      rw [exec_finish_of_error hprogress hsorted]
      exact .of_same rfl rfl
    | ok plugins =>
      obtain ⟨notes, result, mid, hrec, hbuilding⟩ :=
        exists_buildAll plugins (show server.begun.progress = .building from rfl)
      have hmid : Onward server (exec (buildAll plugins) server.begun).2 := by
        rw [hrec.plain]
        exact .of_begun (by rw [hbuilding.effect.progress]; exact nofun)
      have hready : Advances (readyAll : ServerM S Unit) :=
        .withBuilt fun _ => .forM fun plugin => advances_call plugin.ready
      rw [exec_finish_of_ok hprogress hsorted]
      exact hmid.bind fun mid hmid => hmid.trans
        (hready.bind (fun _ => .of_begun (by rw [exec_modify]; exact nofun)) mid)
  · rw [exec_finish_of_ne hprogress]
    exact .of_same rfl rfl

/-- No plugin is built before a server begins to build. -/
theorem Server.Reached.fresh {server : Server S} (h : server.Reached)
    (hprogress : server.progress = .notStarted) : server.Fresh := by
  refine ⟨hprogress, ?_⟩
  induction h with
  | start store => rfl
  | @run server program _ ih =>
    have honward := program.advances advances_finish advances_cleanup server
    refine honward.built hprogress (ih ?_)
    by_contra hserver
    exact honward.begun hserver hprogress

end StagedFlow
