/-!
# Suspendable programs

A task acts on a shared world step by step and may pause between two steps. Run alone, its pauses
change nothing; run beside others, the others go on where it pauses.
-/

namespace StagedFlow

/-- A program over a world `W`. A step changes the world and goes on as the world before the step
says. -/
inductive Task (W α : Type) where
  | done (a : α)
  | act (change : W → W) (next : W → Task W α)
  | pause (next : Task W α)

namespace Task

variable {W α β ε : Type}

def bind : Task W α → (α → Task W β) → Task W β
  | done a, k => k a
  | act change next, k => act change fun w => (next w).bind k
  | pause next, k => pause (next.bind k)

def map (f : α → β) : Task W α → Task W β
  | done a => done (f a)
  | act change next => act change fun w => (next w).map f
  | pause next => pause (next.map f)

instance : Monad (Task W) where
  map := map
  pure := done
  bind := bind

def look : Task W W := act id done

def change (f : W → W) : Task W Unit := act f fun _ => done ()

/-- Gives way to other tasks once. -/
def giveWay : Task W Unit := pause (done ())

/-- Runs a task to its end, with nothing between its steps. -/
def run : Task W α → W → α × W
  | done a, w => (a, w)
  | act change next, w => (next w).run (change w)
  | pause next, w => next.run w

/-- Runs a task up to its next pause or its end. -/
def poll : Task W α → W → Task W α × W
  | done a, w => (done a, w)
  | act change next, w => (next w).poll (change w)
  | pause next, w => (next, w)

/-- The task in a world with a second part, which it does not touch. -/
def beside {G : Type} : Task W α → Task (W × G) α
  | done a => done a
  | act change next => act (Prod.map change id) fun w => (next w.1).beside
  | pause next => pause next.beside

/-- The task with the second part of its world to itself: that part goes along. -/
def carrying {G : Type} : Task (W × G) α → G → Task W (α × G)
  | done a, g => done (a, g)
  | act change next, g =>
    act (fun w => (change (w, g)).1) fun w => (next (w, g)).carrying (change (w, g)).2
  | pause next, g => pause (next.carrying g)

/-- Runs a task up to its next pause, then goes on as `k` says. -/
def turn (k : Task W β → Task W (α × β)) : Task W β → Task W (α × β)
  | done b => pause (k (done b))
  | act change next => act change fun w => turn k (next w)
  | pause next => pause (k next)

/-- Two tasks side by side: each in turn runs up to its next pause, the first one first. -/
def both : Task W α → Task W β → Task W (α × β)
  | done a, other => other.map (a, ·)
  | act change next, other => act change fun w => (next w).both other
  | pause next, other => turn next.both other

/-- Tasks side by side, in rounds: in each round every unfinished task runs up to its next pause. -/
def all : List (Task W α) → Task W (List α)
  | [] => done []
  | task :: rest => (task.both (all rest)).map fun (a, as) => a :: as

/-- Runs a task up to its next pause, then goes on as `k` says; an error ends it all. -/
def tryTurn (k : Task W (Except ε β) → Task W (Except ε (α × β))) :
    Task W (Except ε β) → Task W (Except ε (α × β))
  | done (.error e) => done (.error e)
  | done (.ok b) => pause (k (done (.ok b)))
  | act change next => act change fun w => tryTurn k (next w)
  | pause next => pause (k next)

/-- Two tasks side by side; the first error that arises ends both. -/
def tryBoth : Task W (Except ε α) → Task W (Except ε β) → Task W (Except ε (α × β))
  | done (.error e), _ => done (.error e)
  | done (.ok a), other => other.map fun result => result.map (a, ·)
  | act change next, other => act change fun w => (next w).tryBoth other
  | pause next, other => tryTurn next.tryBoth other

/-- Tasks side by side, in rounds; the first error that arises ends them all. -/
def tryRounds : List (Task W (Except ε α)) → Task W (Except ε (List α))
  | [] => done (.ok [])
  | task :: rest =>
    (task.tryBoth (tryRounds rest)).map fun result => result.map fun (a, as) => a :: as

/-- Runs a task up to its next pause; what is left of it is the value. -/
def step : Task W α → Task W (Task W α)
  | done a => done (done a)
  | act change next => act change fun w => (next w).step
  | pause next => pause (done next)

def stepAll : List (Task W α) → Task W (List (Task W α))
  | [] => done []
  | task :: rest => task.step.bind fun task => (stepAll rest).map (task :: ·)

/-- Runs a task to its end. Where it pauses, every other task runs up to its next pause, and what is
left of the others in the end goes along with the value. -/
def lead : Task W (Except ε α) → List (Task W (Except ε α)) →
    Task W (Except ε (α × List (Task W (Except ε α))))
  | done (.error e), _ => done (.error e)
  | done (.ok a), rest => done (.ok (a, rest))
  | act change next, rest => act change fun w => (next w).lead rest
  | pause next, rest => pause ((stepAll rest).bind next.lead)

/-- So many tasks side by side. An error ends them all when the tasks in front of its own one have
succeeded; until then they go on. -/
def tryInOrder : Nat → List (Task W (Except ε α)) → Task W (Except ε (List α))
  | n + 1, task :: rest =>
    (task.lead rest).bind fun
      | .error e => done (.error e)
      | .ok (a, rest) => (tryInOrder n rest).map fun result => result.map (a :: ·)
  | _, _ => done (.ok [])

/-- The most tasks that are run in rounds. -/
def mostInRounds : Nat := 30

/-- Tasks side by side; an error ends them all. Among few tasks it is the first one that arises,
among many the one of the first task that fails. -/
def tryAll (tasks : List (Task W (Except ε α))) : Task W (Except ε (List α)) :=
  if tasks.length ≤ mostInRounds then tryRounds tasks else tryInOrder tasks.length tasks

end Task

end StagedFlow
