import TaskKernel.Timer.Set

/-!
What a task is sent and what it does with its messages. Orders for timers go before all ordinary messages.
A handler acts on a state of its own and on the task that runs it, one call at a time, so that others can
act on the queue between two of its calls.
-/
namespace TaskKernel

/-- The entries of a task's queue. -/
inductive Command (σ π : Type)
  | deliver (message : Message π)
  | addTimer (timer : Timer σ)
  | cancelTimer (id : TimerId)

def Command.priority {σ π : Type} : Command σ π → Priority
  | deliver message => message.priority
  | addTimer _ | cancelTimer _ => .realtime

/-- What a handler can ask for. A wait on the task's own queue is always refused. -/
inductive HandlerCall (σ π υ : Type)
  | plain (call : Call σ)
  | post (message : Message π)
  | waitSelf (message : Message π) (timeout : Option Delay)
  | addTimer (interval : Delay) (repeats : Repeat)
  | addCallback (interval : Delay) (repeats : Repeat) (run : Tick → Body σ Unit)
  | cancelTimer (id : TimerId)
  | freshTimer
  | armedCount
  | quit
  | isQuitting
  | tickPriority
  | pending
  | isClosed
  | userData
  | setUserData (data : υ)

def HandlerCall.Answer {σ π υ : Type} : HandlerCall σ π υ → Type
  | plain call => call.Answer
  | post _ => Except Failure Unit
  | waitSelf .. => Failure
  | addTimer .. | addCallback .. => Except Failure TimerId
  | cancelTimer _ | isQuitting | isClosed => Bool
  | freshTimer => TimerId
  | armedCount | pending => Nat
  | tickPriority => Priority
  | userData => Option υ
  | quit | setUserData _ => Unit

/-- Code of a handler. -/
abbrev HandlerCode (σ π υ α : Type) : Type := Script (HandlerCall σ π υ) HandlerCall.Answer α

namespace HandlerCode

variable {σ π υ α : Type}

/-- Code that acts on the handler's state only. -/
def ofBody : Body σ α → HandlerCode σ π υ α
  | .done value => .done value
  | .ask call next => .ask (.plain call) fun answer => ofBody (next answer)

instance : MonadLift (Body σ) (HandlerCode σ π υ) := ⟨ofBody⟩

def request (call : HandlerCall σ π υ) : HandlerCode σ π υ call.Answer := Script.call call

end HandlerCode

/-- Payloads are of type `π`, replies of type `ρ` and the task's user data of type `υ`. -/
structure Handler (σ π ρ υ : Type) where
  onStart : HandlerCode σ π υ Unit
  handle : Message π → HandlerCode σ π υ (Option ρ)
  onExit : Body σ Unit

end TaskKernel
