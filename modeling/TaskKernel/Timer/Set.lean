import TaskKernel.Failure
import TaskKernel.Message
import TaskKernel.Thread.Call

/-!
Timers: an interval, how often they still fire, how often they have fired, and what a firing does.

The timers of one task. A timer is armed with a deadline, taken out when it is due, and put back one
interval after its firing has finished. While it is out it is marked, so that it can be cancelled.
-/
namespace TaskKernel

/-- What a firing does: hand a message to the handler, or run code on its state. -/
inductive TimerAction (σ : Type)
  | dispatch
  | callback (run : Tick → Body σ Unit)

structure Timer (σ : Type) where
  id : TimerId
  interval : Delay
  repeats : Repeat
  fired : Nat
  action : TimerAction σ

namespace Timer

variable {σ : Type}

/-- A new timer with the number after those given out; a zero interval is refused and takes none. -/
def create (given : Nat) (interval : Delay) (repeats : Repeat) (action : TimerAction σ)
    (operation : Operation) : Except Failure (Timer σ) :=
  if interval.isZero then .error ⟨.zeroInterval, operation⟩
  else .ok ⟨⟨given + 1⟩, interval, repeats, 0, action⟩

/-- Count one firing. -/
def tick (timer : Timer σ) : Tick × Timer σ :=
  let repeats := timer.repeats.consume
  let fired := timer.fired + 1
  (⟨timer.id, fired, repeats.remaining⟩, { timer with repeats, fired })

end Timer

structure TimerSet.Armed (σ : Type) where
  deadline : Instant
  timer : Timer σ

/-- The timers that are armed, and the one that is out, which may have been cancelled meanwhile. -/
structure TimerSet (σ : Type) where
  armed : List (TimerSet.Armed σ)
  firing : Option TimerId
  firingCancelled : Bool

namespace TimerSet

variable {σ : Type}

namespace Armed

/-- The earlier deadline goes first, and of two equal ones the lower number. -/
def precedes (left right : Armed σ) : Bool :=
  decide (left.deadline < right.deadline) ||
    (decide (left.deadline = right.deadline) && decide (left.timer.id.number < right.timer.id.number))

end Armed

def empty : TimerSet σ := ⟨[], none, false⟩

def size (set : TimerSet σ) : Nat := set.armed.length

/-- Arm a timer one interval after `now`, unless it is used up. -/
def arm (set : TimerSet σ) (timer : Timer σ) (now : Instant) : TimerSet σ :=
  if timer.repeats.isExhausted then set
  else { set with armed := set.armed ++ [⟨now.addClamped timer.interval, timer⟩] }

/-- The timer that goes first. -/
def first? (set : TimerSet σ) : Option (Armed σ) :=
  match set.armed with
  | [] => none
  | armed :: rest => some (rest.foldl (fun best next => if next.precedes best then next else best) armed)

def nextDeadline? (set : TimerSet σ) : Option Instant := set.first?.map (·.deadline)

def contains (set : TimerSet σ) (id : TimerId) : Bool := set.armed.any fun armed => armed.timer.id = id

def remove (set : TimerSet σ) (id : TimerId) : TimerSet σ :=
  { set with armed := set.armed.filter fun armed => armed.timer.id ≠ id }

/-- Cancel a timer. The timer that is out counts as known. -/
def cancel (set : TimerSet σ) (id : TimerId) : Bool × TimerSet σ :=
  if set.firing = some id then (true, { set with firingCancelled := true })
  else (set.contains id, set.remove id)

/-- Take out the first timer if it is due. -/
def popDue? (set : TimerSet σ) (now : Instant) : Option (Timer σ × TimerSet σ) :=
  match set.first? with
  | none => none
  | some armed =>
    if now < armed.deadline then none
    else some (armed.timer,
      { set.remove armed.timer.id with firing := some armed.timer.id, firingCancelled := false })

/-- Put a timer back after its firing, unless it was cancelled or is used up. -/
def finish (set : TimerSet σ) (timer : Timer σ) (now : Instant) : TimerSet σ :=
  let unmarked := { set with firing := none, firingCancelled := false }
  if set.firing = some timer.id ∧ set.firingCancelled then unmarked else unmarked.arm timer now

def clear (_ : TimerSet σ) : TimerSet σ := empty

/-- A firing: the timer as it was counted, and its tick. -/
structure Firing (σ : Type) where
  timer : Timer σ
  tick : Tick

/-- Take out the first due timer and count its firing. -/
def fire? (set : TimerSet σ) (now : Instant) : Option (Firing σ × TimerSet σ) :=
  (set.popDue? now).map fun (timer, after) =>
    let (tick, counted) := timer.tick
    (⟨counted, tick⟩, after)

/-- Fire what is due at `now`, at most `most` timers; each firing lasts `took` on a clock of its own. -/
def sweep (now : Instant) (took : Delay) : (most : Nat) → (clock : Instant) → TimerSet σ →
    List (Firing σ) × TimerSet σ
  | 0, _, set => ([], set)
  | most + 1, clock, set =>
    match set.fire? now with
    | none => ([], set)
    | some (firing, after) =>
      let finished := clock.addClamped took
      let (firings, last) := sweep now took most finished (after.finish firing.timer finished)
      (firing :: firings, last)

/-- Fire one timer at each next deadline, at most `most` times; each firing lasts `took`. -/
def rounds (took : Delay) : (most : Nat) → TimerSet σ → List (Instant × Firing σ) × TimerSet σ
  | 0, set => ([], set)
  | most + 1, set =>
    match set.nextDeadline? with
    | none => ([], set)
    | some deadline =>
      match set.fire? deadline with
      | none => ([], set)
      | some (firing, after) =>
        let (firings, last) := rounds took most (after.finish firing.timer (deadline.addClamped took))
        ((deadline, firing) :: firings, last)

end TimerSet

end TaskKernel
