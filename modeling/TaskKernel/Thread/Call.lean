import TaskKernel.Thread.Lifecycle

/-!
What code that runs on a thread can ask for. Code shares a state with its owner, can record, look at
the clock, sleep, pause until it is permitted to go on, and panic.
-/
namespace TaskKernel

/-- What a panic carries: a text, or something that is none. -/
inductive Panic
  | text (content : String)
  | other
deriving DecidableEq

def Panic.reason : Panic → String
  | text content => content
  | other => "non-string panic payload"

/-- How code ends. -/
inductive Ending (α : Type)
  | returned (value : α)
  | panicked (panic : Panic)
deriving DecidableEq

inductive Call (σ : Type)
  | state
  | setState (value : σ)
  | record (level : Log.Level) (text : String)
  | identity
  | name
  | now
  | sleep (delay : Delay)
  | pause
  | panic (panic : Panic)

/-- A panic has no answer. -/
def Call.Answer {σ : Type} : Call σ → Type
  | state => σ
  | identity => ThreadHandle
  | name => String
  | now => Instant
  | panic _ => Empty
  | setState _ | record .. | sleep _ | pause => Unit

/-- Code of a thread. -/
abbrev Body (σ α : Type) : Type := Script (Call σ) Call.Answer α

namespace Body

variable {σ α : Type}

def state : Body σ σ := Script.call Call.state

def setState (value : σ) : Body σ Unit := Script.call (Call.setState value)

def modifyState (change : σ → σ) : Body σ Unit := do
  let value ← state
  setState (change value)

def record (level : Log.Level) (text : String) : Body σ Unit := Script.call (Call.record level text)

def identity : Body σ ThreadHandle := Script.call Call.identity

def name : Body σ String := Script.call Call.name

def now : Body σ Instant := Script.call Call.now

def sleep (delay : Delay) : Body σ Unit := Script.call (Call.sleep delay)

def pause : Body σ Unit := Script.call Call.pause

def panic (cause : Panic) : Body σ α := .ask (Call.panic cause) Empty.elim

end Body

/-- What the calls of one thread act on: the shared state, the permits to go on, and the end of a
sleep that has begun. -/
structure Surface (σ : Type) where
  state : σ
  permits : Nat
  wake : Option Instant

namespace Surface

variable {σ : Type}

def ofState (state : σ) : Surface σ := ⟨state, 0, none⟩

/-- What comes of a call. A sleep first begins and is answered when it is over. -/
inductive Reply (σ : Type) (Answer : Type)
  | answered (answer : Answer) (surface : Surface σ) (effects : List Effect)
  | begun (surface : Surface σ)
  | blocked
  | panicked (panic : Panic)

/-- Serve one call of a thread. -/
def serve (life : Lifecycle) (now : Instant) (surface : Surface σ) : (call : Call σ) → Reply σ call.Answer
  | .state => .answered surface.state surface []
  | .setState value => .answered () { surface with state := value } []
  | .record level text => .answered () surface [.record level text]
  | .identity => .answered life.handle surface []
  | .name => .answered life.name surface []
  | .now => .answered now surface []
  | .sleep delay =>
    match surface.wake with
    | none => .begun { surface with wake := some (now.addClamped delay) }
    | some wake => if wake ≤ now then .answered () { surface with wake := none } [] else .blocked
  | .pause =>
    if surface.permits = 0 then .blocked
    else .answered () { surface with permits := surface.permits - 1 } []
  | .panic cause => .panicked cause

end Surface

end TaskKernel
