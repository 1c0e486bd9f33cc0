import TaskKernel.Failure
import TaskKernel.Sync.Mutex
import TaskKernel.Sync.WaitSet

/-!
A recursive lock with a condition bound to it. A wait gives the lock up and has it again before it
returns; it needs exactly one guard, since one release must free the lock.
-/
namespace TaskKernel.Sync

structure Monitor (α : Type) where
  mutex : Mutex α
  waiting : WaitSet

namespace Monitor

variable {α : Type}

def ofValue (value : α) : Monitor α := ⟨Mutex.ofValue value, WaitSet.empty⟩

/-- Refuse a wait through a guard of another lock, or with more or fewer guards than one. -/
def checkGuard (monitor : Monitor α) (operation : Operation) (own : Bool) : Except Failure Unit :=
  if !own then .error ⟨.foreignGuard, operation⟩
  else if monitor.mutex.depth ≠ 1 then .error ⟨.heldDepth monitor.mutex.depth, operation⟩
  else .ok ()

/-- Whether a wait can begin, and until when it lasts. Until an instant that means "never" it is a wait
without a deadline. -/
def accept (monitor : Monitor α) (own : Bool) (deadline : Option Instant) :
    Except Failure (Option Instant) := do
  let bound := limit deadline
  monitor.checkGuard (if bound.isSome then .conditionWaitUntil else .conditionWait) own
  .ok bound

/-- Set the counter to zero, as a thread does before it gives the lock up. -/
def clear (monitor : Monitor α) : Monitor α :=
  { monitor with mutex := { monitor.mutex with depth := 0 } }

/-- Give the lock up and park, in one step. -/
def park (monitor : Monitor α) (thread : ThreadKey) (bound : Option Instant) : Monitor α :=
  ⟨monitor.mutex.unhold, monitor.waiting.park thread bound⟩

/-- Begin a wait. -/
def wait (monitor : Monitor α) (thread : ThreadKey) (own : Bool) (deadline : Option Instant) :
    Except Failure (Monitor α) := do
  let bound ← monitor.accept own deadline
  .ok (monitor.clear.park thread bound)

/-- Have the lock back once it can be had again. The answer tells a wake-up from a passed deadline. -/
def regain? (monitor : Monitor α) (thread : ThreadKey) : Option (Bool × Monitor α) :=
  match monitor.waiting.stance? thread with
  | none | some .parked => none
  | some stance =>
    if monitor.mutex.isOpenTo thread then
      some (decide (stance = .woken), ⟨monitor.mutex.hold thread, monitor.waiting.leave thread⟩)
    else none

/-- Set the counter to one, for the guard that a waiter has kept. -/
def restore (monitor : Monitor α) : Monitor α :=
  { monitor with mutex := { monitor.mutex with depth := 1 } }

/-- End a wait. -/
def resume? (monitor : Monitor α) (thread : ThreadKey) : Option (Bool × Monitor α) :=
  (monitor.regain? thread).map fun (woken, regained) => (woken, regained.restore)

def isSuspended (monitor : Monitor α) (thread : ThreadKey) : Bool :=
  (monitor.waiting.stance? thread).isSome

def signal (monitor : Monitor α) (pick : Nat) : Monitor α :=
  { monitor with waiting := monitor.waiting.signal pick }

def broadcast (monitor : Monitor α) : Monitor α :=
  { monitor with waiting := monitor.waiting.broadcast }

def rouse (monitor : Monitor α) (thread : ThreadKey) : Monitor α :=
  { monitor with waiting := monitor.waiting.rouse thread }

def expire (monitor : Monitor α) (now : Instant) (thread : ThreadKey) : Monitor α :=
  { monitor with waiting := monitor.waiting.expire now thread }

def expireAll (monitor : Monitor α) (now : Instant) : Monitor α :=
  { monitor with waiting := monitor.waiting.expireAll now }

end Monitor

end TaskKernel.Sync
