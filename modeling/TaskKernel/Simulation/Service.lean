import TaskKernel.Simulation.Drill
import TaskKernel.Simulation.Schedule
import TaskKernel.Task.Host

/-!
Drilled tasks under a schedule, with callers in the foreground and in the background. A caller looks at
its slot as soon as it has posted, and again whenever it is woken.
-/
namespace TaskKernel.Simulation

open Drill (Reply Datum Reading)

abbrev DrilledTask (V : Type) : Type := Task (Diary V) V (Reply V) Datum

structure Service.Member (V : Type) where
  name : Option String
  native : ThreadKey
  task : DrilledTask V
  owned : Bool
  returned : Nat

/-- A call that goes on in the background: the number of its task and its slot, or its refusal. -/
structure Service.Pending where
  name : String
  member : Nat
  slot : Except Failure Nat

structure Service (V : Type) where
  kernel : Kernel
  members : List (Service.Member V)
  calls : List Service.Pending

namespace Service

variable {V : Type}

def start (kernel : Kernel) : Service V := ⟨kernel, [], []⟩

private def onMember (service : Service V) (number : Nat) (change : Member V → Member V) : Service V :=
  { service with members := service.members.modify number change }

private def onTask (service : Service V) (number : Nat) (change : DrilledTask V → DrilledTask V) :
    Service V :=
  service.onMember number fun member => { member with task := change member.task }

/-- Act on a task in its program. -/
private def withHost {α : Type} (service : Service V) (number : Nat)
    (act : Task.Host (Diary V) V (Reply V) Datum → Option (α × Task.Host (Diary V) V (Reply V) Datum)) :
    Option (α × Service V) := do
  let member ← service.members[number]?
  let (answer, host) ← act ⟨service.kernel, member.native, member.task⟩
  some (answer, { service.onTask number fun _ => host.task with kernel := host.kernel })

private def onExchange (task : DrilledTask V)
    (change : Exchange (Command (Diary V) V) (Reply V) → Exchange (Command (Diary V) V) (Reply V)) :
    DrilledTask V :=
  { task with exchange := change task.exchange }

/-- The serving thread of a member takes a step. -/
private def serve? (number : Nat) (service : Service V) : Option (Service V) :=
  (service.withHost number fun host => host.step?.map fun host => ((), host)).map fun (_, after) =>
    after.onTask number fun task => onExchange task (·.expireAll after.kernel.now)

/-- A caller of a member that is awake looks at its slot. -/
private def look? (number : Nat) (service : Service V) : Option (Service V) := do
  let member ← service.members[number]?
  let slot ← member.task.exchange.awake?
  some (service.onTask number fun task =>
    onExchange task fun exchange => (exchange.look slot).expireAll service.kernel.now)

def schedule : Schedule (Service V) where
  size service := 2 * service.members.length
  step? number service := if number % 2 = 0 then serve? (number / 2) service else look? (number / 2) service
  deadlines service := service.members.flatMap fun member =>
    member.task.exchange.deadlines ++ member.task.surface.wake.toList
  passTo now service := { service with
    kernel := { service.kernel with now }
    members := service.members.map fun member =>
      { member with task := onExchange member.task (·.expireAll now) } }

private def runUntil (service : Service V) (goal : Service V → Bool) : Service V :=
  schedule.runUntil goal Schedule.patience service

private def runUntilQuiet (service : Service V) (goal : Service V → Bool) : Service V :=
  schedule.runUntilQuiet goal Schedule.patience service

private def number? (service : Service V) (name : String) : Option Nat :=
  service.members.findIdx? (·.name = some name)

private def member? (service : Service V) (name : String) : Option (Member V) :=
  service.members.find? (·.name = some name)

def task? (service : Service V) (name : String) : Option (DrilledTask V) := (service.member? name).map (·.task)

def isOwned (service : Service V) (name : String) : Bool := (service.member? name).any (·.owned)

private def hasTask (service : Service V) (name : String) (property : DrilledTask V → Bool) : Bool :=
  (service.task? name).any property

/-- Change the member with a name. -/
private def onNamed (service : Service V) (name : String) (change : Member V → Member V) : Service V :=
  { service with members := service.members.map fun member =>
      if member.name = some name then change member else member }

/-- A new task under a name, which an earlier task loses. -/
def create (service : Service V) (thread : ThreadKey) (name : String) (settings : Task.Settings Datum)
    (drill : Drill V) (reading : Reading V) : Except Failure ThreadHandle × Service V :=
  match Task.Host.create service.kernel thread settings (drill.handler reading) Diary.empty with
  | (.error failure, kernel) => (.error failure, { service with kernel })
  | (.ok host, kernel) =>
    let others := (service.onNamed name fun member => { member with name := none }).members
    (.ok host.task.life.handle,
      { service with kernel, members := others ++ [⟨some name, host.native, host.task, true, 0⟩] })

/-- Act on a task by its name. -/
private def onHost {α : Type} (service : Service V) (name : String)
    (act : Task.Host (Diary V) V (Reply V) Datum → α × Task.Host (Diary V) V (Reply V) Datum) :
    Option α × Service V :=
  match (service.number? name).bind fun number => service.withHost number fun host => some (act host) with
  | some (answer, after) => (some answer, after)
  | none => (none, service)

/-- Act on a task that has not been given up. -/
private def asOwner {α : Type} (service : Service V) (name : String)
    (act : Task.Host (Diary V) V (Reply V) Datum → α × Task.Host (Diary V) V (Reply V) Datum) :
    Option α × Service V :=
  if service.isOwned name then service.onHost name act else (none, service)

def begin (service : Service V) (thread : ThreadKey) (name : String) (detached : Bool) :
    Option (Except Refusal Unit) × Service V :=
  service.asOwner name fun host => host.start thread detached

def setPriority (service : Service V) (thread : ThreadKey) (name : String) (priority : Priority) :
    Option (Except Failure Unit) × Service V :=
  service.asOwner name fun host => host.setPriority thread priority

private def release (service : Service V) (name : String) : Service V :=
  service.onNamed name fun member => { member with owned := false }

def abandon (service : Service V) (name : String) : Service V :=
  ((service.asOwner name fun host => ((), { host with task := host.task.abandon })).2).release name

private def joined (task : DrilledTask V) : Bool :=
  match task.join.1 with
  | .blocked => false
  | _ => true

/-- Wait until a task can be joined, and join it. -/
def join (service : Service V) (thread : ThreadKey) (name : String) :
    Option (Thread.Joined (Diary V)) × Service V :=
  if service.isOwned name then
    let ready := service.runUntil fun state => state.hasTask name joined
    let (answer, after) := ready.onHost name fun host => host.join thread
    let returned : Nat := match answer with
      | some (.outcome (.completed _)) => 1
      | _ => 0
    let counted := after.onNamed name fun member => { member with returned := member.returned + returned }
    (answer, counted.release name)
  else (none, service)

/-- How many handlers of a task have been disposed of, those that came back included. -/
def disposals (service : Service V) (name : String) : Nat :=
  ((service.member? name).map fun member => member.task.disposals + member.returned).getD 0

def post (service : Service V) (name : String) (message : Message V) :
    Option (Except Failure Unit) × Service V :=
  service.onHost name fun host => host.post message

/-- Post with a slot, at which the caller looks at once, and a last time if its deadline has come. -/
private def post? (service : Service V) (thread : ThreadKey) (number : Nat) (message : Message V)
    (timeout : Option Delay) : Except Failure Nat × Service V :=
  match service.withHost number fun host => some (host.call thread message timeout) with
  | none => (.error ⟨.queueClosed, .queuePushAndWait⟩, service)
  | some (.error failure, after) => (.error failure, after)
  | some (.ok slot, after) =>
    (.ok slot, after.onTask number fun task =>
      onExchange task fun exchange => ((exchange.look slot).expireCaller after.kernel.now slot).look slot)

private def await (service : Service V) (number slot : Nat) : Option (Response (Reply V)) × Service V :=
  let outcome (state : Service V) : Option (Response (Reply V)) :=
    (state.members[number]?).bind fun member => member.task.exchange.outcome? slot
  let after := service.runUntil fun state => (outcome state).isSome
  (outcome after, after)

private def awaited (service : Service V) (number : Nat) :
    Except Failure Nat → Except Failure (Option (Response (Reply V))) × Service V
  | .error failure => (.error failure, service)
  | .ok slot =>
    let (response, after) := service.await number slot
    (.ok response, after)

/-- Post and wait for the answer. -/
def call (service : Service V) (thread : ThreadKey) (name : String) (message : Message V)
    (timeout : Option Delay) : Except Failure (Option (Response (Reply V))) × Service V :=
  match service.number? name with
  | none => (.ok none, service)
  | some number =>
    let (slot, posted) := service.post? thread number message timeout
    posted.awaited number slot

/-- A thread of its own posts and waits. -/
def callBeside (service : Service V) (name call : String) (message : Message V) (timeout : Option Delay) :
    Service V :=
  match service.number? name with
  | none => service
  | some number =>
    let (thread, kernel) := service.kernel.newThread
    let (slot, posted) := { service with kernel }.post? thread number message timeout
    { posted with calls := posted.calls ++ [⟨call, number, slot⟩] }

/-- Wait for the end of a call beside. -/
def collect (service : Service V) (call : String) : Except Failure (Option (Response (Reply V))) × Service V :=
  match service.calls.find? (·.name = call) with
  | none => (.ok none, service)
  | some pending =>
    { service with calls := service.calls.filter (·.name ≠ call) }.awaited pending.member pending.slot

/-- Order a timer, which the task knows by a name from then on. -/
def addTimer (service : Service V) (name : String) (interval : Delay) (repeats : Repeat)
    (timer : Option String) (callback : Bool) (panicAt : Option Nat) :
    Option (Except Failure TimerId) × Service V :=
  let action : TimerAction (Diary V) := if callback then .callback (Drill.callback panicAt) else .dispatch
  let (answer, after) := service.onHost name fun host => host.addTimer interval repeats action
  match answer, timer with
  | some (.ok id), some timer =>
    (answer, after.onNamed name fun member =>
      { member with task.surface.state.names := (timer, id) :: member.task.surface.state.names })
  | _, _ => (answer, after)

/-- End a timer of a task by its name; an unknown name stands for a new timer. -/
def cancelTimer (service : Service V) (name timer : String) : Option (Except Failure Unit) × Service V :=
  let (id, known) := match (service.task? name).bind (·.surface.state.names.lookup timer) with
    | some id => (id, service)
    | none =>
      let (id, kernel) := service.kernel.allocateTimer
      (id, { service with kernel })
  known.onHost name fun host => host.cancelTimer id

/-- Post a message that waits for a permit, and wait until it does. -/
def gate (service : Service V) (name : String) (message : Message V) :
    Option (Except Failure Unit) × Service V :=
  let gates (state : Service V) : Nat := ((state.task? name).map (·.surface.state.gates)).getD 0
  match service.post name message with
  | (some (.ok ()), posted) => (some (.ok ()), posted.runUntil fun state => gates service < gates state)
  | refused => refused

/-- Let messages that wait for a permit go on. -/
def permit (service : Service V) (name : String) (count : Nat) : Service V :=
  match service.number? name with
  | some number => service.onTask number fun task => (List.range count).foldl (fun sofar _ => sofar.permit) task
  | none => service

/-- Wait until ticks and callbacks have been written down. -/
def awaitTicks (service : Service V) (name : String) (count : Nat) : Service V :=
  service.runUntilQuiet fun state => state.hasTask name fun task =>
    count ≤ task.surface.state.ticks.length + task.surface.state.callbacks.length

def awaitClosed (service : Service V) (name : String) : Service V :=
  service.runUntilQuiet fun state => state.hasTask name (·.exchange.queue.closed)

def awaitTerminated (service : Service V) (name : String) : Service V :=
  service.runUntilQuiet fun state => state.hasTask name (·.life.state = .terminated)

def sleep (service : Service V) (delay : Delay) : Service V :=
  schedule.runTo (service.kernel.now.addClamped delay) Schedule.patience service

/-- Let all threads go as far as they can. -/
def settle (service : Service V) : Service V := schedule.settle Schedule.patience service

end Service

end TaskKernel.Simulation
