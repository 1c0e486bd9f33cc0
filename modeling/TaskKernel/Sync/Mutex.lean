import TaskKernel.Config
import TaskKernel.Thread.State
import TaskKernel.Time.Clock

/-!
A recursive lock around a value. `owner` and `holds` are the system's lock; `depth` is the counter that
every thread may read; `guards` counts the guards that each thread has and has not dropped.

In a bounded attempt the polling thread tries the lock, reads the clock, and either gives up or pauses and
tries again; anything may happen between two of these steps.
-/
namespace TaskKernel.Sync

structure Mutex (α : Type) where
  owner : Option ThreadKey
  holds : Nat
  depth : Nat
  guards : ThreadKey → Nat
  value : α

namespace Mutex

variable {α : Type}

/-- A free lock. -/
def ofValue (value : α) : Mutex α := ⟨none, 0, 0, fun _ => 0, value⟩

/-- Whether a thread can have the lock now: it is free, or the thread has it already. -/
def isOpenTo (mutex : Mutex α) (thread : ThreadKey) : Bool :=
  match mutex.owner with
  | none => true
  | some owner => owner == thread

def isLocked (mutex : Mutex α) : Bool := 0 < mutex.depth

/-- Another hold of the system's lock. -/
def hold (mutex : Mutex α) (thread : ThreadKey) : Mutex α :=
  { mutex with owner := some thread, holds := mutex.holds + 1 }

/-- One hold of the system's lock less; the last one frees it. -/
def unhold (mutex : Mutex α) : Mutex α :=
  { mutex with
    owner := if mutex.holds ≤ 1 then none else mutex.owner
    holds := mutex.holds - 1 }

private def adjustGuards (mutex : Mutex α) (thread : ThreadKey) (change : Nat → Nat) : Mutex α :=
  { mutex with guards := fun other =>
      if other = thread then change (mutex.guards thread) else mutex.guards other }

/-- Count a new guard of a thread that has the system's lock. -/
def countGuard (mutex : Mutex α) (thread : ThreadKey) : Mutex α :=
  ({ mutex with depth := mutex.depth + 1 }).adjustGuards thread (· + 1)

/-- Count a guard of a thread no more, before a hold of the system's lock is given up for it. -/
def discountGuard (mutex : Mutex α) (thread : ThreadKey) : Mutex α :=
  ({ mutex with depth := mutex.depth - 1 }).adjustGuards thread (· - 1)

theorem guards_countGuard (mutex : Mutex α) (thread other : ThreadKey) :
    (mutex.countGuard thread).guards other =
      if other = thread then mutex.guards thread + 1 else mutex.guards other := rfl

theorem guards_discountGuard (mutex : Mutex α) (thread other : ThreadKey) :
    (mutex.discountGuard thread).guards other =
      if other = thread then mutex.guards thread - 1 else mutex.guards other := rfl

/-- A new guard for a thread that can have the lock. -/
def acquire (mutex : Mutex α) (thread : ThreadKey) : Mutex α := (mutex.hold thread).countGuard thread

/-- A guard if the lock can be had at once. -/
def tryLock (mutex : Mutex α) (thread : ThreadKey) : Bool × Mutex α :=
  if mutex.isOpenTo thread then (true, mutex.acquire thread) else (false, mutex)

/-- Drop one guard of a thread that has one. -/
def release (mutex : Mutex α) (thread : ThreadKey) : Mutex α :=
  if mutex.guards thread = 0 then mutex else (mutex.discountGuard thread).unhold

def setValue (mutex : Mutex α) (value : α) : Mutex α := { mutex with value }

def text (mutex : Mutex α) : String := "Mutex \x7b depth: " ++ toString mutex.depth ++ ", .. \x7d"

end Mutex

/-- What the polling thread does next. -/
inductive Polling.Stage
  | attempt
  | readClock
  | pause (wake : Instant)
  | finished (locked : Bool)
deriving DecidableEq

structure Polling where
  deadline : Instant
  yields : Nat
  stage : Polling.Stage
deriving DecidableEq

namespace Polling

def start (now : Instant) (timeout : Delay) : Polling := ⟨Clock.deadline now timeout, 0, .attempt⟩

/-- The next step of the polling thread, when it can take one. -/
def step? {α : Type} (config : Config) (now : Instant) (thread : ThreadKey) (polling : Polling)
    (mutex : Mutex α) : Option (Polling × Mutex α) :=
  match polling.stage with
  | .attempt =>
    let (locked, after) := mutex.tryLock thread
    some ({ polling with stage := if locked then .finished true else .readClock }, after)
  | .readClock =>
    let left := Clock.remaining now polling.deadline
    if left.isZero then some ({ polling with stage := .finished false }, mutex)
    else if polling.yields < config.lockSpins.toNat then
      some ({ polling with yields := polling.yields + 1, stage := .attempt }, mutex)
    else some ({ polling with stage := .pause (Clock.deadline now (min left config.lockBackoff)) }, mutex)
  | .pause wake => if wake ≤ now then some ({ polling with stage := .attempt }, mutex) else none
  | .finished _ => none

end Polling

end TaskKernel.Sync
