import TaskKernel.Failure
import TaskKernel.Sync.WaitSet

/-!
A counting semaphore. Every function is one section under its lock: a taker either gets a unit or
parks, and looks again after it has been woken or its deadline has passed.
-/
namespace TaskKernel.Sync

namespace Semaphore

/-- The largest count. -/
def mostUnits : Nat := 4294967295

/-- The largest initial count leaves the upper half for posts. -/
def mostInitial : Nat := mostUnits / 2

end Semaphore

structure Semaphore where
  count : Nat
  waiting : WaitSet
  count_le : count ≤ Semaphore.mostUnits

namespace Semaphore

/-- How a taker's section ends. -/
inductive Taking
  | taken
  | parked
  | gaveUp
deriving DecidableEq

def create (initial : Nat) : Except Failure Semaphore :=
  if fits : initial ≤ mostInitial then
    .ok ⟨initial, WaitSet.empty, Nat.le_trans fits (Nat.div_le_self _ _)⟩
  else .error ⟨.initialTooLarge initial mostInitial, .semaphoreNew⟩

private def decrement (semaphore : Semaphore) : Semaphore :=
  { semaphore with
    count := semaphore.count - 1
    count_le := Nat.le_trans (Nat.sub_le _ _) semaphore.count_le }

/-- Take a unit if there is one. -/
def tryTake (semaphore : Semaphore) : Bool × Semaphore :=
  if semaphore.count = 0 then (false, semaphore) else (true, semaphore.decrement)

/-- A taker looks at the count: when it arrives, when it has been woken, or a last time after its
deadline. -/
def take (semaphore : Semaphore) (thread : ThreadKey) (deadline : Option Instant) : Taking × Semaphore :=
  match semaphore.waiting.stance? thread with
  | some .parked => (.parked, semaphore)
  | stance =>
    if semaphore.count = 0 then
      if stance = some .expired then
        (.gaveUp, { semaphore with waiting := semaphore.waiting.leave thread })
      else (.parked, { semaphore with waiting := semaphore.waiting.park thread (limit deadline) })
    else (.taken, { semaphore.decrement with waiting := semaphore.waiting.leave thread })

/-- Add a unit and wake a taker. -/
def post (semaphore : Semaphore) (pick : Nat) : Except Failure Semaphore :=
  if room : semaphore.count + 1 ≤ mostUnits then
    .ok ⟨semaphore.count + 1, semaphore.waiting.signal pick, room⟩
  else .error ⟨.countOverflow, .semaphorePost⟩

def rouse (semaphore : Semaphore) (thread : ThreadKey) : Semaphore :=
  { semaphore with waiting := semaphore.waiting.rouse thread }

def expire (semaphore : Semaphore) (now : Instant) (thread : ThreadKey) : Semaphore :=
  { semaphore with waiting := semaphore.waiting.expire now thread }

def expireAll (semaphore : Semaphore) (now : Instant) : Semaphore :=
  { semaphore with waiting := semaphore.waiting.expireAll now }

end Semaphore

end TaskKernel.Sync
