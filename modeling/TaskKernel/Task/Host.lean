import TaskKernel.Task
import TaskKernel.Time.Clock

/-!
A task in its program: what its owner, its senders and its own thread do with it. A `Move` is one
indivisible step of any of them, so a list of moves is an interleaving.
-/
namespace TaskKernel

/-- What a task is made with. What is absent comes from the configuration. -/
structure Task.Settings (υ : Type) where
  name : Option String
  priority : Option Priority
  periodic : Option Cadence
  tickPriority : Priority
  stackSize : Option UInt64
  userData : Option υ

/-- A task with the kernel of its program; `native` is the thread that serves its queue. -/
structure Task.Host (σ π ρ υ : Type) where
  kernel : Kernel
  native : ThreadKey
  task : Task σ π ρ υ

namespace Task.Host

variable {σ π ρ υ : Type}

/-- A new task, made by a thread. The handle is given out first, then the number of the timer that
starts with the task; neither comes back when the task is refused. -/
def create (kernel : Kernel) (thread : ThreadKey) (settings : Settings υ) (handler : Handler σ π ρ υ)
    (state : σ) : Except Failure (Host σ π ρ υ) × Kernel :=
  let (config, configured) := kernel.readConfig thread
  let (handle, named) := configured.allocateHandle
  let timer : Except Failure (Option (Timer σ)) := match settings.periodic with
    | none => .ok none
    | some periodic =>
      (Timer.create named.timers periodic.interval periodic.repeats .dispatch .taskNew).map some
  match timer with
  | .error failure => (.error failure, named)
  | .ok initial =>
    let timed := if initial.isSome then named.allocateTimer.2 else named
    let priority := settings.priority.getD config.defaultPriority
    match Lifecycle.build handle config settings.name settings.stackSize (some priority) with
    | .error failure => (.error failure, timed)
    | .ok life =>
      let (native, whole) := timed.newThread
      (.ok ⟨whole, native, Task.create life handler state initial settings.tickPriority settings.userData⟩,
        whole)

/-- The first step of starting. -/
def begin (host : Host σ π ρ υ) (thread : ThreadKey) (detached : Bool) : Option Refusal × Host σ π ρ υ :=
  let (refusal, task, effects) := host.task.begin detached
  (refusal, { host with task, kernel := host.kernel.carryOutAll thread effects })

/-- The second step of starting. -/
def commit (host : Host σ π ρ υ) : Host σ π ρ υ := { host with task := host.task.commit }

/-- Both steps of starting, with nothing between them. -/
def start (host : Host σ π ρ υ) (thread : ThreadKey) (detached : Bool) :
    Except Refusal Unit × Host σ π ρ υ :=
  match host.begin thread detached with
  | (none, begun) => (.ok (), begun.commit)
  | (some refusal, begun) => (.error refusal, begun)

def setPriority (host : Host σ π ρ υ) (thread : ThreadKey) (priority : Priority) :
    Except Failure Unit × Host σ π ρ υ :=
  match host.task.setPriority priority with
  | .error failure => (.error failure, host)
  | .ok (task, effects) => (.ok (), { host with task, kernel := host.kernel.carryOutAll thread effects })

def join (host : Host σ π ρ υ) (thread : ThreadKey) : Thread.Joined σ × Host σ π ρ υ :=
  let (joined, task, effects) := host.task.join
  (joined, { host with task, kernel := host.kernel.carryOutAll thread effects })

def push (host : Host σ π ρ υ) (command : Command σ π) : Except Failure Unit × Host σ π ρ υ :=
  match host.task.exchange.push command.priority command 0 with
  | .error failure => (.error failure, host)
  | .ok exchange => (.ok (), { host with task := { host.task with exchange } })

/-- Post and go on. -/
def post (host : Host σ π ρ υ) (message : Message π) : Except Failure Unit × Host σ π ρ υ :=
  host.push (.deliver message)

/-- Ask the task to exit. -/
def quit (host : Host σ π ρ υ) : Except Failure Unit × Host σ π ρ υ := host.post Message.quit

/-- Post with a slot, whose number is the answer. The thread of the task itself is refused. -/
def call (host : Host σ π ρ υ) (thread : ThreadKey) (message : Message π) (timeout : Option Delay) :
    Except Failure Nat × Host σ π ρ υ :=
  let handle := host.task.life.handle
  match host.kernel.isCurrent thread handle with
  | (true, kernel) =>
    let (failure, warning) := ownQueue handle (waitOperation timeout)
    (.error failure, { host with kernel := kernel.carryOutAll thread [warning] })
  | (false, kernel) =>
    let deadline := timeout.map (Clock.deadline kernel.now)
    match host.task.exchange.call message.priority (.deliver message) deadline 0 with
    | .error failure => (.error failure, { host with kernel })
    | .ok (slot, exchange) => (.ok slot, { host with kernel, task := { host.task with exchange } })

/-- Order a new timer. Its number is given out even if the order is refused. -/
def addTimer (host : Host σ π ρ υ) (interval : Delay) (repeats : Repeat) (action : TimerAction σ) :
    Except Failure TimerId × Host σ π ρ υ :=
  let operation : Operation := match action with
    | .dispatch => .taskAddTimer
    | .callback _ => .taskAddTimerWith
  match Timer.create host.kernel.timers interval repeats action operation with
  | .error failure => (.error failure, host)
  | .ok timer =>
    let (answer, after) := { host with kernel := host.kernel.allocateTimer.2 }.push (.addTimer timer)
    (answer.map fun _ => timer.id, after)

/-- Order the end of a timer. -/
def cancelTimer (host : Host σ π ρ υ) (id : TimerId) : Except Failure Unit × Host σ π ρ υ :=
  host.push (.cancelTimer id)

def pending (host : Host σ π ρ υ) : Nat := host.task.exchange.queue.size

def isClosed (host : Host σ π ρ υ) : Bool := host.task.exchange.queue.closed

/-- The next step of the serving thread, when it can take one. -/
def step? (host : Host σ π ρ υ) : Option (Host σ π ρ υ) :=
  (host.task.step? host.kernel.now host.kernel.timers).map fun progress =>
    { host with
      task := progress.task
      kernel := { host.kernel with timers := progress.given }.carryOutAll host.native progress.effects }

/-- Change the queue and the slots of the task. -/
def onExchange (host : Host σ π ρ υ)
    (change : Exchange (Command σ π) ρ → Exchange (Command σ π) ρ) : Host σ π ρ υ :=
  { host with task := { host.task with exchange := change host.task.exchange } }

/-- One step of the owner, of a sender, of a caller that waits, of the serving thread, or of time. -/
inductive Move (σ π υ : Type)
  | begin (thread : ThreadKey) (detached : Bool)
  | commit
  | join (thread : ThreadKey)
  | abandon
  | setPriority (thread : ThreadKey) (priority : Priority)
  | post (message : Message π)
  | call (thread : ThreadKey) (message : Message π) (timeout : Option Delay)
  | addTimer (interval : Delay) (repeats : Repeat) (action : TimerAction σ)
  | cancelTimer (id : TimerId)
  | serve
  | permit
  | look (slot : Nat)
  | rouseCaller (slot : Nat)
  | expireCaller (slot : Nat)
  | rouse
  | expire
  | passTo (now : Instant)
  | allocateHandle
  | allocateTimer
  | identify (thread : ThreadKey)
  | record (thread : ThreadKey) (level : Log.Level) (text : String)

/-- What the owner does, as long as the task is its own and not about to start. -/
def asOwner (host : Host σ π ρ υ) (act : Host σ π ρ υ → Host σ π ρ υ) : Host σ π ρ υ :=
  if host.task.abandoned || host.task.life.starting then host else act host

/-- Make a move. A move that cannot be made changes nothing. -/
def move (host : Host σ π ρ υ) : Move σ π υ → Host σ π ρ υ
  | .begin thread detached => host.asOwner fun host => (host.begin thread detached).2
  | .commit => if host.task.life.starting then host.commit else host
  | .join thread => host.asOwner fun host => (host.join thread).2
  | .abandon => host.asOwner fun host => { host with task := host.task.abandon }
  | .setPriority thread priority => host.asOwner fun host => (host.setPriority thread priority).2
  | .post message => (host.post message).2
  | .call thread message timeout => (host.call thread message timeout).2
  | .addTimer interval repeats action => (host.addTimer interval repeats action).2
  | .cancelTimer id => (host.cancelTimer id).2
  | .serve => host.step?.getD host
  | .permit => { host with task := host.task.permit }
  | .look slot => host.onExchange (·.look slot)
  | .rouseCaller slot => host.onExchange (·.rouseCaller slot)
  | .expireCaller slot => host.onExchange (·.expireCaller host.kernel.now slot)
  | .rouse => host.onExchange (·.rouse consumer)
  | .expire => host.onExchange (·.expire host.kernel.now consumer)
  | .passTo now => if host.kernel.now ≤ now then { host with kernel := { host.kernel with now } } else host
  | .allocateHandle => { host with kernel := host.kernel.allocateHandle.2 }
  | .allocateTimer => { host with kernel := host.kernel.allocateTimer.2 }
  | .identify thread => { host with kernel := (host.kernel.identify thread).2 }
  | .record thread level text => { host with kernel := host.kernel.record thread level text }

def moves (host : Host σ π ρ υ) (list : List (Move σ π υ)) : Host σ π ρ υ := list.foldl move host

end Task.Host

end TaskKernel
