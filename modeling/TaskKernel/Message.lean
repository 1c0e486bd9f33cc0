import TaskKernel.Priority
import TaskKernel.Time.Delay

/-!
What tasks are sent, what timers produce, and what the sender of a synchronous message hears back.
-/
namespace TaskKernel

/-- Timers are numbered from one in the order in which their identities are given out. -/
structure TimerId where
  number : Nat
deriving DecidableEq, Inhabited

namespace TimerId

/-- The short form used in records. -/
def text (id : TimerId) : String := "timer#" ++ toString id.number

def describe (id : TimerId) : String := "TimerId(" ++ toString id.number ++ ")"

end TimerId

/-- How often a timer still fires. -/
inductive Repeat
  | times (left : UInt32)
  | forever
deriving DecidableEq

namespace Repeat

def once : Repeat := times 1

def isExhausted : Repeat → Bool
  | times left => left == 0
  | forever => false

/-- One firing less, and never below none. -/
def consume : Repeat → Repeat
  | times left => times (if left = 0 then 0 else left - 1)
  | forever => forever

def remaining : Repeat → Option UInt32
  | times left => some left
  | forever => none

def describe : Repeat → String
  | times left => "Times(" ++ toString left.toNat ++ ")"
  | forever => "Forever"

end Repeat

/-- The settings of a timer that starts with its task. -/
structure Cadence where
  interval : Delay
  repeats : Repeat
deriving DecidableEq

/-- One firing of a timer: its number from one, and how many follow it. -/
structure Tick where
  timer : TimerId
  count : Nat
  remaining : Option UInt32
deriving DecidableEq

namespace Tick

def isLast (tick : Tick) : Bool := tick.remaining == some 0

def describe (tick : Tick) : String :=
  "Tick \x7b timer: " ++ tick.timer.describe ++ ", count: " ++ toString tick.count ++ ", remaining: " ++
    (match tick.remaining with
      | some left => "Some(" ++ toString left.toNat ++ ")"
      | none => "None") ++ " \x7d"

end Tick

inductive MessageKind
  | user (opcode : UInt32)
  | periodic (tick : Tick)
  | quit
deriving DecidableEq

namespace MessageKind

def isQuit : MessageKind → Bool
  | quit => true
  | _ => false

def opcode? : MessageKind → Option UInt32
  | user opcode => some opcode
  | _ => none

end MessageKind

structure Message (π : Type) where
  kind : MessageKind
  payload : Option π
  priority : Priority
deriving DecidableEq

namespace Message

variable {π : Type}

def user (opcode : UInt32) (payload : Option π) : Message π := ⟨.user opcode, payload, .normal⟩

/-- The request to exit has the lowest priority, so that work queued before it is done first. -/
def quit : Message π := ⟨.quit, none, .low⟩

def periodic (tick : Tick) (priority : Priority) : Message π := ⟨.periodic tick, none, priority⟩

def withPriority (message : Message π) (priority : Priority) : Message π :=
  { message with priority }

/-- The payload, and the message without it. -/
def takePayload (message : Message π) : Option π × Message π :=
  (message.payload, { message with payload := none })

end Message

/-- What became of a synchronous message. -/
inductive Response (ρ : Type)
  | handled (reply : Option ρ)
  | failed (reason : String)
  | abandoned
  | timedOut
deriving DecidableEq

namespace Response

variable {ρ : Type}

def isHandled : Response ρ → Bool
  | handled _ => true
  | _ => false

def isTimedOut : Response ρ → Bool
  | timedOut => true
  | _ => false

def reply? : Response ρ → Option ρ
  | handled reply => reply
  | _ => none

end Response

end TaskKernel
