import TaskKernel.Kernel
import TaskKernel.Simulation.Schedule
import TaskKernel.Sync.Monitor
import TaskKernel.Time.Clock

/-!
Threads that wait under a lock until a value is large enough. A watcher takes the lock, waits on the
condition as long as the value is too small, gives up once a wait has timed out, and frees the lock.
-/
namespace TaskKernel.Simulation

/-- How long one wait of a watcher lasts. -/
inductive Patience
  | endless
  | till (deadline : Instant)
  | lasting (timeout : Delay)

def Patience.deadline? (patience : Patience) (now : Instant) : Option Instant :=
  match patience with
  | endless => none
  | till deadline => some deadline
  | lasting timeout => some (Clock.deadline now timeout)

inductive Watcher.Stage
  | locking
  | waiting
  | finished (woken : Bool)
deriving DecidableEq

structure Watcher where
  name : String
  thread : ThreadKey
  target : Int64
  patience : Patience
  stage : Watcher.Stage

structure Watching where
  kernel : Kernel
  monitor : Sync.Monitor Int64
  other : Sync.Mutex Unit
  watchers : List Watcher

namespace Watching

def start (kernel : Kernel) : Watching := ⟨kernel, Sync.Monitor.ofValue 0, Sync.Mutex.ofValue (), []⟩

/-- Begin a wait of a thread on the condition. -/
def beginWait (watching : Watching) (thread : ThreadKey) (own : Bool) (deadline : Option Instant) :
    Except Failure Watching :=
  (watching.monitor.wait thread own deadline).map fun monitor =>
    { watching with monitor := monitor.expireAll watching.kernel.now }

/-- A watcher that has the lock looks at the value. -/
private def consider (watching : Watching) (watcher : Watcher) : Watching × Watcher.Stage :=
  let thread := watcher.thread
  let leave (woken : Bool) : Watching × Watcher.Stage :=
    ({ watching with monitor := { watching.monitor with mutex := watching.monitor.mutex.release thread } },
      .finished woken)
  if watcher.target ≤ watching.monitor.mutex.value then leave true
  else
    match watching.beginWait thread true (watcher.patience.deadline? watching.kernel.now) with
    | .ok after => (after, .waiting)
    | .error _ => leave false

/-- The next step of a watcher, when it can take one. -/
def step? (number : Nat) (watching : Watching) : Option Watching := do
  let watcher ← watching.watchers[number]?
  let thread := watcher.thread
  let (after, stage) ← match watcher.stage with
    | .locking =>
      if watching.monitor.mutex.isOpenTo thread then
        some (consider { watching with
          monitor := { watching.monitor with mutex := watching.monitor.mutex.acquire thread } } watcher)
      else none
    | .waiting =>
      (watching.monitor.resume? thread).map fun (woken, monitor) =>
        let resumed := { watching with monitor }
        if woken then consider resumed watcher
        else ({ resumed with monitor := { monitor with mutex := monitor.mutex.release thread } },
          .finished false)
    | .finished _ => none
  some { after with watchers := after.watchers.set number { watcher with stage } }

def schedule : Schedule Watching where
  size watching := watching.watchers.length
  step? := step?
  deadlines watching := watching.monitor.waiting.deadlines
  passTo now watching := { watching with
    kernel := { watching.kernel with now }
    monitor := watching.monitor.expireAll now }

private def stage? (watching : Watching) (name : String) : Option Watcher.Stage :=
  (watching.watchers.find? (·.name = name)).map (·.stage)

/-- A new watcher, which goes on until it waits or has finished. -/
def watch (watching : Watching) (name : String) (target : Int64) (patience : Patience) : Watching :=
  let (thread, kernel) := watching.kernel.newThread
  schedule.runUntil (fun state => state.stage? name ≠ some .locking) Schedule.patience
    { watching with kernel, watchers := watching.watchers ++ [⟨name, thread, target, patience, .locking⟩] }

/-- Wait for the end of a watcher, and tell whether it was woken in time. -/
def collect (watching : Watching) (name : String) : Bool × Watching :=
  let ended (state : Watching) : Bool :=
    state.stage? name = some (.finished true) || state.stage? name = some (.finished false)
  let after := schedule.runUntil ended Schedule.patience watching
  (after.stage? name = some (.finished true),
    { after with watchers := after.watchers.filter (·.name ≠ name) })

/-- Wait on the condition in the foreground, and tell whether it was signalled in time. -/
def wait (watching : Watching) (thread : ThreadKey) (own : Bool) (patience : Patience) :
    Except Failure Bool × Watching :=
  match watching.beginWait thread own (patience.deadline? watching.kernel.now) with
  | .error failure => (.error failure, watching)
  | .ok begun =>
    let after := schedule.runUntil (fun state => (state.monitor.resume? thread).isSome) Schedule.patience begun
    match after.monitor.resume? thread with
    | some (woken, monitor) => (.ok woken, { after with monitor })
    | none => (.ok false, after)

/-- Take the lock, or the other one, in the foreground. -/
def lock (watching : Watching) (thread : ThreadKey) (own : Bool) : Watching :=
  if own then
    let after := schedule.runUntil (fun state => state.monitor.mutex.isOpenTo thread) Schedule.patience watching
    { after with monitor := { after.monitor with mutex := after.monitor.mutex.acquire thread } }
  else { watching with other := watching.other.acquire thread }

def unlock (watching : Watching) (thread : ThreadKey) (own : Bool) : Watching :=
  if own then
    { watching with monitor := { watching.monitor with mutex := watching.monitor.mutex.release thread } }
  else { watching with other := watching.other.release thread }

/-- Store a value under the lock and tell one waiter, or all. -/
def publish (watching : Watching) (thread : ThreadKey) (value : Int64) (all : Bool) : Watching :=
  let locked := watching.lock thread true
  let stored := { locked.monitor with mutex := locked.monitor.mutex.setValue value }
  { locked with monitor := if all then stored.broadcast else stored.signal 0 }.unlock thread true

end Watching

end TaskKernel.Simulation
