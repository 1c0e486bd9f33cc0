import TaskKernel.Thread.State
import TaskKernel.Time.Clock

/-!
The threads that wait on a condition, in order of arrival. A waiter is parked until it is woken or its
deadline passes; it stays in the set until it has looked at what it waits for again.
-/
namespace TaskKernel.Sync

inductive Stance
  | parked
  | woken
  | expired
deriving DecidableEq

/-- Without a deadline a waiter stays parked until it is woken. -/
structure Waiter where
  thread : ThreadKey
  deadline : Option Instant
  stance : Stance
deriving DecidableEq

structure WaitSet where
  waiters : List Waiter
deriving DecidableEq

/-- A wait until an instant that means "never" has no deadline. -/
def limit (deadline : Option Instant) : Option Instant := deadline.filter fun instant => !instant.isNever

namespace WaitSet

def empty : WaitSet := ⟨[]⟩

def stance? (set : WaitSet) (thread : ThreadKey) : Option Stance :=
  (set.waiters.find? (·.thread = thread)).map (·.stance)

def parkedCount (set : WaitSet) : Nat := set.waiters.countP (·.stance = .parked)

/-- The waiters that are about to look again. -/
def recheckingCount (set : WaitSet) : Nat := set.waiters.countP (·.stance ≠ .parked)

def leave (set : WaitSet) (thread : ThreadKey) : WaitSet := ⟨set.waiters.filter (·.thread ≠ thread)⟩

/-- A thread that has looked in vain goes to the end. -/
def park (set : WaitSet) (thread : ThreadKey) (deadline : Option Instant) : WaitSet :=
  ⟨(set.leave thread).waiters ++ [⟨thread, deadline, .parked⟩]⟩

/-- Wake the parked waiter with a number, counted from zero. -/
def wakeNumber : Nat → List Waiter → List Waiter
  | _, [] => []
  | number, waiter :: rest =>
    if waiter.stance = .parked then
      match number with
      | 0 => { waiter with stance := .woken } :: rest
      | before + 1 => waiter :: wakeNumber before rest
    else waiter :: wakeNumber number rest

/-- Wake one parked waiter, whichever `pick` says, if any is parked. -/
def signal (set : WaitSet) (pick : Nat) : WaitSet :=
  ⟨wakeNumber (pick % set.parkedCount) set.waiters⟩

def broadcast (set : WaitSet) : WaitSet :=
  ⟨set.waiters.map fun waiter =>
    if waiter.stance = .parked then { waiter with stance := .woken } else waiter⟩

/-- Wake a parked waiter for no reason. -/
def rouse (set : WaitSet) (thread : ThreadKey) : WaitSet :=
  ⟨set.waiters.map fun waiter =>
    if waiter.thread = thread ∧ waiter.stance = .parked then { waiter with stance := .woken } else waiter⟩

/-- Whether a waiter's deadline has passed while it is parked. -/
def Waiter.isOverdue (waiter : Waiter) (now : Instant) : Bool :=
  decide (waiter.stance = .parked) && waiter.deadline.any (· ≤ now)

/-- End the wait of a thread whose deadline has passed. -/
def expire (set : WaitSet) (now : Instant) (thread : ThreadKey) : WaitSet :=
  ⟨set.waiters.map fun waiter =>
    if waiter.thread = thread ∧ Waiter.isOverdue waiter now then { waiter with stance := .expired }
    else waiter⟩

/-- End all waits whose deadline has passed. -/
def expireAll (set : WaitSet) (now : Instant) : WaitSet :=
  set.waiters.foldl (fun sofar waiter => sofar.expire now waiter.thread) set

/-- The deadlines of the parked waiters. -/
def deadlines (set : WaitSet) : List Instant :=
  set.waiters.filterMap fun waiter => if waiter.stance = .parked then waiter.deadline else none

end WaitSet

end TaskKernel.Sync
