import StagedFlow.Flow.Context

/-!
# Platforms

A platform gives meaning to handler codes and says what the engine itself needs of the state of a
call and of the world.
-/

namespace StagedFlow

structure Platform (S W H : Type) where
  /-- The scope that a caller's state puts a call under. -/
  scope : S → Option String
  /-- What a hook does when it is invoked. -/
  invoke : HookBinding H → HookM S W H Unit
  /-- The identity of the next call. -/
  nextId : W → String
  /-- A call has started. -/
  countCall : W → W
  /-- A call has ended and its state is given up. -/
  retire : S → W → W

end StagedFlow
