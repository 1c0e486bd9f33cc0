import TaskKernel.Queue.Exchange
import TaskKernel.Task.Handler
import TaskKernel.Thread
import TaskKernel.Timer.Set

/-!
A thread that serves a queue. Between two entries of the queue it fires the timers that are due; a
panic of the handler is contained; the first quit ends the service. On its way out the thread gives up
its timers, closes the queue and abandons the callers that are still in it.
-/
namespace TaskKernel

/-- Where the thread of a task stands. `lost` is the end of a handler that has never run. A thread that is
`sweeping` is about to read the clock, and `draining` has the reading; in `abandoning` it tells the callers of
the dropped entries one by one; in `disposing` it leaves the handler to whoever joins, or disposes of it when
nobody can. -/
inductive Task.Place (σ π ρ υ : Type)
  | idle
  | lost
  | entering
  | arming
  | starting (rest : HandlerCode σ π υ Unit)
  | sweeping
  | draining (now : Instant)
  | ticking (now : Instant) (timer : Timer σ) (rest : HandlerCode σ π υ (Option ρ))
  | callingBack (now : Instant) (timer : Timer σ) (rest : HandlerCode σ π υ Unit)
  | rearming (now : Instant) (timer : Timer σ)
  | receiving
  | handling (slot : Option Nat) (rest : HandlerCode σ π υ (Option ρ))
  | answering (slot : Option Nat) (response : Response ρ)
  | ordering (slot : Option Nat) (command : Command σ π)
  | closing
  | abandoning (slots : List Nat) (dropped : Nat)
  | exiting (rest : HandlerCode σ π υ Unit)
  | disposing
  | leaving
  | reporting
  | ended

/-- A task with the timer that is armed at its start. It is `quitting` when the service ends with the call of
the handler that goes on, and `abandoned` when nobody can join it any more. -/
structure Task (σ π ρ υ : Type) where
  life : Lifecycle
  handler : Handler σ π ρ υ
  surface : Surface σ
  exchange : Exchange (Command σ π) ρ
  timers : TimerSet σ
  initial : Option (Timer σ)
  tickPriority : Priority
  userData : Option υ
  quitting : Bool
  place : Task.Place σ π ρ υ
  abandoned : Bool
  disposals : Nat

namespace Task

variable {σ π ρ υ : Type}

def create (life : Lifecycle) (handler : Handler σ π ρ υ) (state : σ) (initial : Option (Timer σ))
    (tickPriority : Priority) (userData : Option υ) : Task σ π ρ υ where
  life
  handler
  surface := Surface.ofState state
  exchange := Exchange.empty
  timers := TimerSet.empty
  initial
  tickPriority
  userData
  quitting := false
  place := .idle
  abandoned := false
  disposals := 0

/-- The serving thread among those that wait for entries. -/
def consumer : ThreadKey := 0

def named (task : Task σ π ρ υ) (level : Log.Level) (text : String) : Effect :=
  .record level ("task " ++ task.life.handle.text ++ text)

/-- What a step makes of the task, how many timer numbers have been given out, and what it does to the
kernel. -/
structure Progress (σ π ρ υ : Type) where
  task : Task σ π ρ υ
  given : Nat
  effects : List Effect

/-- What comes of a call of the handler. -/
inductive Served (σ π ρ υ Answer : Type)
  | answered (answer : Answer) (progress : Progress σ π ρ υ)
  | begun (task : Task σ π ρ υ)
  | blocked
  | panicked (panic : Panic)

/-- Arm a new timer from within the handler. -/
def armNew (task : Task σ π ρ υ) (now : Instant) (given : Nat) (interval : Delay)
    (repeats : Repeat) (action : TimerAction σ) (operation : Operation) :
    Except Failure TimerId × Progress σ π ρ υ :=
  match Timer.create given interval repeats action operation with
  | .error failure => (.error failure, ⟨task, given, []⟩)
  | .ok timer => (.ok timer.id, ⟨{ task with timers := task.timers.arm timer now }, given + 1, []⟩)

/-- The refusal of a wait on the task's own queue. -/
def ownQueue (handle : ThreadHandle) (operation : Operation) : Failure × Effect :=
  (⟨.ownQueue handle, operation⟩,
    .record .warn (operation.text ++ ": task " ++ handle.text ++ " posted synchronously to itself"))

def waitOperation (timeout : Option Delay) : Operation :=
  if timeout.isSome then .taskWait else .taskRequest

/-- Serve one call of the handler. -/
def serve (task : Task σ π ρ υ) (now : Instant) (given : Nat) :
    (call : HandlerCall σ π υ) → Served σ π ρ υ call.Answer
  | .plain call =>
    match task.surface.serve task.life now call with
    | .answered answer surface effects => .answered answer ⟨{ task with surface }, given, effects⟩
    | .begun surface => .begun { task with surface }
    | .blocked => .blocked
    | .panicked panic => .panicked panic
  | .post message =>
    match task.exchange.push message.priority (.deliver message) 0 with
    | .ok exchange => .answered (.ok ()) ⟨{ task with exchange }, given, []⟩
    | .error failure => .answered (.error failure) ⟨task, given, []⟩
  | .waitSelf _ timeout =>
    let (failure, warning) := ownQueue task.life.handle (waitOperation timeout)
    .answered failure ⟨task, given, [warning]⟩
  | .addTimer interval repeats =>
    let (answer, progress) := task.armNew now given interval repeats .dispatch .contextAddTimer
    .answered answer progress
  | .addCallback interval repeats run =>
    let (answer, progress) := task.armNew now given interval repeats (.callback run) .contextAddTimerWith
    .answered answer progress
  | .cancelTimer id =>
    let (known, timers) := task.timers.cancel id
    .answered known ⟨{ task with timers }, given, []⟩
  | .freshTimer => .answered ⟨given + 1⟩ ⟨task, given + 1, []⟩
  | .armedCount => .answered task.timers.size ⟨task, given, []⟩
  | .quit => .answered () ⟨{ task with quitting := true }, given, []⟩
  | .isQuitting => .answered task.quitting ⟨task, given, []⟩
  | .tickPriority => .answered task.tickPriority ⟨task, given, []⟩
  | .pending => .answered task.exchange.queue.size ⟨task, given, []⟩
  | .isClosed => .answered task.exchange.queue.closed ⟨task, given, []⟩
  | .userData => .answered task.userData ⟨task, given, []⟩
  | .setUserData data => .answered () ⟨{ task with userData := some data }, given, []⟩

/-- One call of the handler. `resume` says where the thread stands with the rest of the code, and
`finish` where it goes from the end and what it records. -/
def advance {α : Type} (task : Task σ π ρ υ) (now : Instant) (given : Nat)
    (rest : HandlerCode σ π υ α) (resume : HandlerCode σ π υ α → Place σ π ρ υ)
    (finish : Ending α → Place σ π ρ υ × List Effect) : Option (Progress σ π ρ υ) :=
  let stop (ending : Ending α) : Option (Progress σ π ρ υ) :=
    let (place, effects) := finish ending
    some ⟨{ task with place }, given, effects⟩
  match rest with
  | .done value => stop (.returned value)
  | .ask call next =>
    match task.serve now given call with
    | .answered answer progress =>
      some { progress with task := { progress.task with place := resume (next answer) } }
    | .begun task => some ⟨task, given, []⟩
    | .blocked => none
    | .panicked panic => stop (.panicked panic)

/-- The record of a panic of the handler, if it ended with one. -/
def panicRecord {α : Type} (task : Task σ π ρ υ) (what : String) : Ending α → List Effect
  | .returned _ => []
  | .panicked panic => [task.named .error (": " ++ what ++ " panicked: " ++ panic.reason)]

/-- The answer to a message that has been handled. -/
def responseOf : Ending (Option ρ) → Response ρ
  | .returned reply => .handled reply
  | .panicked panic => .failed panic.reason

/-- Where the thread goes from a call of the handler outside of a sweep. -/
def afterCall (task : Task σ π ρ υ) : Place σ π ρ υ := if task.quitting then .closing else .sweeping

/-- The handler's code for a firing. -/
def fire (task : Task σ π ρ υ) (now : Instant) (firing : TimerSet.Firing σ) : Place σ π ρ υ :=
  match firing.timer.action with
  | .dispatch =>
    .ticking now firing.timer (task.handler.handle (Message.periodic firing.tick task.tickPriority))
  | .callback run => .callingBack now firing.timer (HandlerCode.ofBody (run firing.tick))

def firedRecord (task : Task σ π ρ υ) (tick : Tick) : Effect :=
  task.named .trace (": " ++ tick.timer.text ++ " fired (#" ++ toString tick.count ++ ")")

/-- Begin with an entry of the queue. -/
def take (task : Task σ π ρ υ) (parcel : Parcel (Command σ π)) : Task σ π ρ υ :=
  match parcel.item with
  | .deliver message =>
    { task with
      quitting := message.kind.isQuit
      place := .handling parcel.slot (task.handler.handle message) }
  | command => { task with quitting := false, place := .ordering parcel.slot command }

/-- Carry out an order for a timer. -/
def order (task : Task σ π ρ υ) (now : Instant) : Command σ π → Task σ π ρ υ × List Effect
  | .deliver _ => (task, [])
  | .addTimer timer =>
    ({ task with timers := task.timers.arm timer now },
      [task.named .trace (": arming " ++ timer.id.text)])
  | .cancelTimer id =>
    let (known, timers) := task.timers.cancel id
    ({ task with timers },
      if known then [] else [task.named .debug (": cancel of unknown " ++ id.text)])

/-- The next step of the serving thread, when it can take one. -/
def step? (task : Task σ π ρ υ) (now : Instant) (given : Nat) : Option (Progress σ π ρ υ) :=
  let go (place : Place σ π ρ υ) (effects : List Effect) : Option (Progress σ π ρ υ) :=
    some ⟨{ task with place }, given, effects⟩
  match task.place with
  | .idle | .lost | .ended => none
  | .entering => go .arming task.life.enterEffects
  | .arming =>
    let timers := match task.initial with
      | some timer => task.timers.arm timer now
      | none => task.timers
    some ⟨{ task with
      timers
      initial := none
      quitting := false
      place := .starting task.handler.onStart }, given, []⟩
  | .starting rest =>
    task.advance now given rest .starting fun ending =>
      (task.afterCall, task.panicRecord "on_start" ending ++ [task.named .debug " serving"])
  | .sweeping => go (.draining now) []
  | .draining began =>
    match task.timers.fire? began with
    | none => go .receiving []
    | some (firing, timers) =>
      some ⟨{ task with timers, quitting := false, place := task.fire began firing }, given,
        [task.firedRecord firing.tick]⟩
  | .ticking began timer rest =>
    task.advance now given rest (.ticking began timer) fun ending =>
      (.rearming began timer, task.panicRecord "handler" ending)
  | .callingBack began timer rest =>
    task.advance now given rest (.callingBack began timer) fun ending =>
      (.rearming began timer, task.panicRecord (timer.id.text ++ " callback") ending)
  | .rearming began timer =>
    some ⟨{ task with
      timers := task.timers.finish timer now
      place := if task.quitting then .closing else .draining began }, given, []⟩
  | .receiving =>
    if task.exchange.waiting.stance? consumer = some .parked then none
    else
      match task.exchange.receive consumer task.timers.nextDeadline? with
      | (.received entry, exchange) => some ⟨{ task with exchange }.take entry.item, given, []⟩
      | (.parked, exchange) => some ⟨{ task with exchange }, given, []⟩
      | (.nothing, exchange) => some ⟨{ task with exchange, place := .sweeping }, given, []⟩
  | .handling slot rest =>
    task.advance now given rest (.handling slot) fun ending =>
      (.answering slot (responseOf ending), task.panicRecord "handler" ending)
  | .answering slot response =>
    some ⟨{ task with exchange := task.exchange.answer slot response, place := task.afterCall }, given, []⟩
  | .ordering slot command =>
    let (after, effects) := task.order now command
    some ⟨{ after with exchange := after.exchange.answer slot .abandoned, place := .sweeping }, given, effects⟩
  | .closing =>
    let (dropped, exchange) := task.exchange.close
    some ⟨{ task with
      timers := task.timers.clear
      exchange
      place := .abandoning (Exchange.slotsOf dropped) dropped.length }, given, []⟩
  | .abandoning (slot :: slots) dropped =>
    some ⟨{ task with
      exchange := task.exchange.fill slot .abandoned
      place := .abandoning slots dropped }, given, []⟩
  | .abandoning [] dropped =>
    go (.exiting (HandlerCode.ofBody task.handler.onExit))
      (if dropped = 0 then [] else [task.named .debug (": dropped " ++ toString dropped ++ " pending messages")])
  | .exiting rest =>
    task.advance now given rest .exiting fun ending =>
      (.disposing, task.panicRecord "on_exit" ending ++ [task.named .debug " stopped"])
  | .disposing =>
    some ⟨{ task with
      place := .leaving
      disposals := if task.life.detached then task.disposals + 1 else task.disposals }, given, []⟩
  | .leaving => task.life.terminate?.map fun life => ⟨{ task with life, place := .reporting }, given, []⟩
  | .reporting =>
    some ⟨{ task with
      place := .ended
      disposals := if task.abandoned && !task.life.detached then task.disposals + 1 else task.disposals },
      given, [task.life.terminatedEffect]⟩

def hasHandler (task : Task σ π ρ υ) : Bool :=
  match task.place with
  | .idle => true
  | _ => false

/-- The first step of starting. A handler that cannot be started is lost. -/
def begin (task : Task σ π ρ υ) (detached : Bool) : Option Refusal × Task σ π ρ υ × List Effect :=
  let beginning := task.life.begin detached task.hasHandler
  let after := { task with life := beginning.life }
  match beginning.refusal, beginning.tookBody with
  | none, _ => (none, { after with place := .entering }, beginning.effects)
  | refusal, true =>
    (refusal, { after with place := .lost, disposals := after.disposals + 1 }, beginning.effects)
  | refusal, false => (refusal, after, beginning.effects)

/-- The second step of starting. -/
def commit (task : Task σ π ρ υ) : Task σ π ρ υ := { task with life := task.life.commit }

def setPriority (task : Task σ π ρ υ) (priority : Priority) : Except Failure (Task σ π ρ υ × List Effect) :=
  (task.life.setPriority priority).map fun (life, effects) => ({ task with life }, effects)

/-- Give the task up without joining it. -/
def abandon (task : Task σ π ρ υ) : Task σ π ρ υ :=
  match task.place with
  | .idle => { task with place := .lost, abandoned := true, disposals := task.disposals + 1 }
  | .ended =>
    { task with
      abandoned := true
      disposals := if task.life.detached || task.abandoned then task.disposals else task.disposals + 1 }
  | _ => { task with abandoned := true }

/-- Join a task, which takes its handler back, and give it up. The handler of a task that was never
started is disposed of. -/
def join (task : Task σ π ρ υ) : Thread.Joined σ × Task σ π ρ υ × List Effect :=
  match task.life.joining with
  | .neverStarted => (.outcome .notStarted, task.abandon, [task.life.neverStartedEffect])
  | .refused failure => (.refused failure, task.abandon, [])
  | .awaited =>
    match task.place with
    | .ended => (.outcome (.completed task.surface.state), { task with abandoned := true }, [])
    | _ => (.blocked, task, [])

/-- Let the handler go on from its next pause. -/
def permit (task : Task σ π ρ υ) : Task σ π ρ υ :=
  { task with surface := { task.surface with permits := task.surface.permits + 1 } }

def describe (task : Task σ π ρ υ) : String := "Task \x7b thread: " ++ task.life.describe ++ " \x7d"

def describeSender (task : Task σ π ρ υ) : String :=
  "TaskSender \x7b owner: " ++ task.life.handle.describe ++ " \x7d"

end Task

end TaskKernel
