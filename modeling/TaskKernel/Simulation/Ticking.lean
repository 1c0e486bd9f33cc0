import TaskKernel.Kernel
import TaskKernel.Timer.Set

/-!
A set of timers under a clock that is given with each step. Timers are known by names; one that is made
or taken out is held until it is armed or finished. A callback writes its tag and its tick down.
-/
namespace TaskKernel.Simulation

abbrev Ticking.Log : Type := List (String × Tick)

structure Ticking where
  kernel : Kernel
  set : TimerSet Ticking.Log
  known : List (String × TimerId)
  held : List (String × Timer Ticking.Log)
  popped : String

/-- What a firing did. -/
inductive Ticking.Fired
  | dispatched (tick : Tick)
  | calledBack (written : Option (String × Tick))

namespace Ticking

def start (kernel : Kernel) : Ticking := ⟨kernel, TimerSet.empty, [], [], ""⟩

/-- Run code that acts on its state only; any other call ends it. -/
private def runOn {σ α : Type} : Body σ α → σ → σ
  | .done _, state => state
  | .ask .state next, state => runOn (next state) state
  | .ask (.setState value) next, _ => runOn (next ()) value
  | _, state => state

private def firedOf (firing : TimerSet.Firing Log) : Fired :=
  match firing.timer.action with
  | .dispatch => .dispatched firing.tick
  | .callback run => .calledBack (runOn (run firing.tick) []).getLast?

private def hold (ticking : Ticking) (name : String) (timer : Timer Log) : Ticking :=
  { ticking with held := (name, timer) :: ticking.held.filter (·.1 ≠ name) }

private def unhold (ticking : Ticking) (name : String) : Ticking :=
  { ticking with held := ticking.held.filter (·.1 ≠ name) }

/-- A new timer, with a tag if it calls back. -/
def create (ticking : Ticking) (name : String) (interval : Delay) (repeats : Repeat) (tag : Option String)
    (operation : Operation) : Except Failure TimerId × Ticking :=
  let action : TimerAction Log := match tag with
    | some tag => .callback fun tick => Body.modifyState (· ++ [(tag, tick)])
    | none => .dispatch
  match Timer.create ticking.kernel.timers interval repeats action operation with
  | .error failure => (.error failure, ticking)
  | .ok timer =>
    (.ok timer.id, { ticking with
      kernel := ticking.kernel.allocateTimer.2
      known := (name, timer.id) :: ticking.known }.hold name timer)

/-- Arm a timer that is held. -/
def arm? (ticking : Ticking) (name : String) (now : Instant) : Option Ticking :=
  (ticking.held.lookup name).map fun timer => { ticking.unhold name with set := ticking.set.arm timer now }

/-- Cancel a timer; an unknown name stands for a new one. -/
def cancel (ticking : Ticking) (name : String) : Bool × Ticking :=
  let (id, kernel) := match ticking.known.lookup name with
    | some id => (id, ticking.kernel)
    | none => ticking.kernel.allocateTimer
  let (found, set) := ticking.set.cancel id
  (found, { ticking with set, kernel })

/-- Take out the first timer if it is due, and tell its name. -/
def popDue (ticking : Ticking) (now : Instant) : Option String × Ticking :=
  match ticking.set.popDue? now with
  | none => (none, ticking)
  | some (timer, set) =>
    let name := ((ticking.known.find? (·.2 = timer.id)).map (·.1)).getD ""
    (some name, { ticking with set, popped := name }.hold name timer)

/-- Count a firing of a timer that is held. -/
def tick? (ticking : Ticking) (name : String) : Option (Fired × Ticking) :=
  (ticking.held.lookup name).map fun timer =>
    let (tick, counted) := timer.tick
    (firedOf ⟨counted, tick⟩, ticking.hold name counted)

/-- Put back a timer that is held. -/
def finish? (ticking : Ticking) (name : String) (now : Instant) : Option Ticking :=
  (ticking.held.lookup name).map fun timer => { ticking.unhold name with set := ticking.set.finish timer now }

def clear (ticking : Ticking) : Ticking := { ticking with set := ticking.set.clear }

/-- Fire what is due, at most `most` timers, each for as long as it takes. -/
def sweep (ticking : Ticking) (now : Instant) (took : Delay) (most : Nat) : List Fired × Ticking :=
  let (firings, set) := TimerSet.sweep now took most now ticking.set
  (firings.map firedOf, { ticking with set })

/-- Fire one timer at each next deadline, at most `most` times. -/
def rounds (ticking : Ticking) (took : Delay) (most : Nat) : List (Instant × Fired) × Ticking :=
  let (firings, set) := TimerSet.rounds took most ticking.set
  (firings.map fun (deadline, firing) => (deadline, firedOf firing), { ticking with set })

end Ticking

end TaskKernel.Simulation
