import TaskKernel.Proofs.Queue.Session
import TaskKernel.Task.Host

/-!
A task in its program, with a diary of what happens: the session of its queue, and each call of its
handler with how it ends. The diary follows the task and never decides anything.
-/
namespace TaskKernel.Task

variable {σ π ρ υ α : Type}

/-- Why the handler is called. A tick is a message that comes in no entry. -/
inductive Activity (σ π : Type)
  | starting
  | handling (entry : Option (Queue.Entry (Parcel (Command σ π)))) (message : Message π)
  | callingBack (tick : Tick)
  | exiting

/-- The start and the end of a call, with whether the handler has asked to quit meanwhile, and the close of
the queue around some entries. Only a message has a reply. -/
inductive Event (σ π ρ : Type)
  | began (activity : Activity σ π)
  | ended (activity : Activity σ π) (ending : Ending (Option ρ)) (asked : Bool)
  | closed (entries : List (Queue.Entry (Parcel (Command σ π))))

/-- The session of the queue, the call that goes on, and the events in the order of time. -/
structure Diary (σ π ρ : Type) where
  session : Exchange.Session (Command σ π) ρ
  activity : Option (Activity σ π)
  asked : Bool
  history : List (Event σ π ρ)

namespace Diary

def blank (now : Instant) : Diary σ π ρ := ⟨Exchange.Session.start now, none, false, []⟩

def deal (diary : Diary σ π ρ) (move : Exchange.Session.Move (Command σ π) ρ) : Diary σ π ρ :=
  { diary with session := diary.session.move move }

def begin (diary : Diary σ π ρ) (activity : Activity σ π) : Diary σ π ρ :=
  { diary with
    activity := some activity
    asked := false
    history := diary.history ++ [.began activity] }

def finish (diary : Diary σ π ρ) (ending : Ending (Option ρ)) : Diary σ π ρ :=
  match diary.activity with
  | none => diary
  | some activity =>
    { diary with
      activity := none
      history := diary.history ++ [.ended activity ending diary.asked] }

/-- What a call of the handler's code adds that does not end it. -/
def ask (diary : Diary σ π ρ) : HandlerCall σ π υ → Diary σ π ρ
  | .post message => diary.deal (.push message.priority (.deliver message) 0)
  | .quit => { diary with asked := true }
  | .plain _ | .waitSelf .. | .addTimer .. | .addCallback .. | .cancelTimer _ | .freshTimer | .armedCount
    | .isQuitting | .tickPriority | .pending | .isClosed | .userData | .setUserData _ => diary

/-- What the next step of the handler's code adds. -/
def call (diary : Diary σ π ρ) (rest : HandlerCode σ π υ α) (reply : α → Option ρ) : Diary σ π ρ :=
  match rest with
  | .done value => diary.finish (.returned (reply value))
  | .ask (.plain (.panic cause)) _ => diary.finish (.panicked cause)
  | .ask call _ => diary.ask call

end Diary

/-- What a firing calls the handler for. -/
def activityOf (task : Task σ π ρ υ) (firing : TimerSet.Firing σ) : Activity σ π :=
  match firing.timer.action with
  | .dispatch => .handling none (Message.periodic firing.tick task.tickPriority)
  | .callback _ => .callingBack firing.tick

/-- The responder of a slot says what came of its message and goes. -/
def reply (diary : Diary σ π ρ) (slot : Nat) : Response ρ → Diary σ π ρ
  | .handled reply => (diary.deal (.settle slot (.completed reply))).deal (.drop ⟨slot, false, true⟩)
  | .failed reason => (diary.deal (.settle slot (.failed reason))).deal (.drop ⟨slot, false, true⟩)
  | .abandoned | .timedOut => diary

/-- What the next step of the serving thread adds. -/
def write (task : Task σ π ρ υ) (diary : Diary σ π ρ) : Diary σ π ρ :=
  match task.place with
  | .arming => diary.begin .starting
  | .starting rest | .callingBack _ _ rest | .exiting rest => diary.call rest fun _ => none
  | .ticking _ _ rest | .handling _ rest => diary.call rest id
  | .draining began =>
    match task.timers.fire? began with
    | some (firing, _) => diary.begin (task.activityOf firing)
    | none => diary
  | .receiving =>
    let after := diary.deal (.receive consumer task.timers.nextDeadline?)
    match (task.exchange.receive consumer task.timers.nextDeadline?).1 with
    | .received entry =>
      match entry.item.item with
      | .deliver message => after.begin (.handling (some entry) message)
      | .addTimer _ | .cancelTimer _ => after
    | .parked | .nothing => after
  | .answering (some slot) response => reply diary slot response
  | .closing =>
    { diary.deal .close with history := diary.history ++ [.closed task.exchange.queue.entries] }
  | .abandoning (slot :: _) _ => diary.deal (.drop ⟨slot, true, false⟩)
  | .abandoning [] _ => diary.begin .exiting
  | .idle | .lost | .entering | .sweeping | .rearming .. | .answering none _ | .ordering .. | .disposing
    | .leaving | .reporting | .ended => diary

namespace Host

/-- What a move adds. -/
def write (host : Host σ π ρ υ) (diary : Diary σ π ρ) : Move σ π υ → Diary σ π ρ
  | .post message => diary.deal (.push message.priority (.deliver message) 0)
  | .call thread message timeout =>
    if (host.kernel.isCurrent thread host.task.life.handle).1 then diary
    else diary.deal
      (.call message.priority (.deliver message) (timeout.map (Clock.deadline host.kernel.now)) 0)
  | .addTimer interval repeats action =>
    if interval.isZero then diary
    else diary.deal (.push .realtime (.addTimer ⟨⟨host.kernel.timers + 1⟩, interval, repeats, 0, action⟩) 0)
  | .cancelTimer id => diary.deal (.push .realtime (.cancelTimer id) 0)
  | .serve => if host.step?.isSome then Task.write host.task diary else diary
  | .look slot => diary.deal (.look slot)
  | .rouseCaller slot => diary.deal (.rouseCaller slot)
  | .expireCaller slot => diary.deal (.expireCaller slot)
  | .rouse => diary.deal (.rouse consumer)
  | .expire => diary.deal (.expire consumer)
  | .passTo now => diary.deal (.passTo now)
  | .begin .. | .commit | .join _ | .abandon | .setPriority .. | .permit | .allocateHandle
    | .allocateTimer | .identify _ | .record .. => diary

end Host

structure Course (σ π ρ υ : Type) where
  host : Host σ π ρ υ
  diary : Diary σ π ρ

namespace Course

def start (host : Host σ π ρ υ) : Course σ π ρ υ := ⟨host, .blank host.kernel.now⟩

def move (course : Course σ π ρ υ) (move : Host.Move σ π υ) : Course σ π ρ υ :=
  ⟨course.host.move move, course.host.write course.diary move⟩

def moves (course : Course σ π ρ υ) (list : List (Host.Move σ π υ)) : Course σ π ρ υ :=
  list.foldl Course.move course

theorem host_moves (course : Course σ π ρ υ) (list : List (Host.Move σ π υ)) :
    (course.moves list).host = course.host.moves list := by
  induction list generalizing course with
  | nil => rfl
  | cons move rest ih => exact ih (course.move move)

end Course

end TaskKernel.Task

namespace TaskKernel.Worker

/-- A program with the library's configuration. -/
def kernel : Kernel := { Kernel.fresh Environment.empty .zero with config := some Config.library }

/-- The settings of a worker, with the timer that starts with it. -/
def settings (periodic : Option Cadence) : Task.Settings Unit :=
  ⟨some "worker", none, periodic, .normal, some 0, none⟩

def everySecond : Cadence := ⟨Delay.ofMillis 1000, .forever⟩

/-- Reply with what a message carries. -/
def echoing : Handler Nat Nat Nat Unit := ⟨.done (), fun message => .done message.payload, .done ()⟩

/-- Ask to quit with every message, and reply with what it carries. -/
def leaving : Handler Nat Nat Nat Unit :=
  ⟨.done (), fun message => .ask .quit fun _ => .done message.payload, .done ()⟩

/-- Ask to quit with every message, and panic. -/
def failing : Handler Nat Nat Nat Unit :=
  ⟨.done (), fun _ => .ask .quit fun _ => .ask (.plain (.panic .other)) nofun, .done ()⟩

/-- Cancel the first timer of the program with every message. -/
def cancelling : Handler Nat Nat Nat Unit :=
  ⟨.done (), fun _ => .ask (.cancelTimer ⟨1⟩) fun _ => .done none, .done ()⟩

end TaskKernel.Worker
