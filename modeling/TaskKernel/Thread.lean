import TaskKernel.Thread.Call

/-!
A thread with its body. The native thread enters, runs the body one call at a time, disposes of it,
and terminates; a panic of the body is contained and recorded. `outcome` is what a join reports.
-/
namespace TaskKernel

/-- A body, with its own way to run when nobody waits for its value. -/
structure Runnable (σ α : Type) where
  runUndetached : Body σ α
  run : Body σ Unit

/-- Detached, the value of the body is given up. -/
def Runnable.ofBody {σ α : Type} (body : Body σ α) : Runnable σ α :=
  ⟨body, body.bind fun _ => .done ()⟩

/-- What a join observes. -/
inductive RunOutcome (α : Type)
  | notStarted
  | completed (value : α)
  | failed (reason : String)
deriving DecidableEq

def Ending.outcome {α : Type} : Ending α → RunOutcome α
  | returned value => .completed value
  | panicked panic => .failed panic.reason

/-- Where the native thread stands. A detached one has no ending to report. -/
inductive Native (σ α : Type)
  | absent
  | entering (runnable : Runnable σ α)
  | joinable (rest : Body σ α)
  | detached (rest : Body σ Unit)
  | leaving (ending : Option (Ending α))
  | reporting (ending : Option (Ending α))
  | ended (ending : Option (Ending α))

structure Thread (σ α : Type) where
  life : Lifecycle
  body : Option (Runnable σ α)
  surface : Surface σ
  native : Native σ α
  disposals : Nat

namespace Thread

variable {σ α : Type}

def create (life : Lifecycle) (body : Runnable σ α) (state : σ) : Thread σ α :=
  ⟨life, some body, Surface.ofState state, .absent, 0⟩

/-- The first step of starting. A body that cannot be started is lost. -/
def begin (thread : Thread σ α) (detached : Bool) : Option Refusal × Thread σ α × List Effect :=
  let beginning := thread.life.begin detached thread.body.isSome
  let after := { thread with life := beginning.life }
  match beginning.refusal, beginning.tookBody, thread.body with
  | none, _, some body => (none, { after with body := none, native := .entering body }, beginning.effects)
  | refusal, true, _ =>
    (refusal, { after with body := none, disposals := after.disposals + 1 }, beginning.effects)
  | refusal, false, _ => (refusal, after, beginning.effects)

/-- The second step of starting. -/
def commit (thread : Thread σ α) : Thread σ α := { thread with life := thread.life.commit }

def setPriority (thread : Thread σ α) (priority : Priority) :
    Except Failure (Thread σ α × List Effect) :=
  (thread.life.setPriority priority).map fun (life, effects) => ({ thread with life }, effects)

/-- The end of the body, which is disposed of. -/
def dispose (thread : Thread σ α) (ending : Option (Ending α)) : Thread σ α :=
  { thread with native := .leaving ending, disposals := thread.disposals + 1 }

/-- One call of a body. `resume` says where the thread stands with the rest of the body, and `finish`
how it goes on from the end. -/
def advance {β : Type} (thread : Thread σ α) (now : Instant) (rest : Body σ β)
    (resume : Body σ β → Native σ α) (finish : Ending β → Option (Ending α)) :
    Option (Thread σ α × List Effect) :=
  match rest with
  | .done value => some (thread.dispose (finish (.returned value)), [])
  | .ask call next =>
    match thread.surface.serve thread.life now call with
    | .answered answer surface effects =>
      some ({ thread with surface, native := resume (next answer) }, effects)
    | .begun surface => some ({ thread with surface }, [])
    | .blocked => none
    | .panicked panic =>
      some (thread.dispose (finish (.panicked panic)), [thread.life.panickedEffect panic.reason])

/-- The next step of the native thread, when it can take one. -/
def step? (thread : Thread σ α) (now : Instant) : Option (Thread σ α × List Effect) :=
  match thread.native with
  | .absent | .ended _ => none
  | .entering runnable =>
    let native := if thread.life.detached then Native.detached runnable.run
      else Native.joinable runnable.runUndetached
    some ({ thread with native }, thread.life.enterEffects)
  | .joinable rest => thread.advance now rest .joinable some
  | .detached rest => thread.advance now rest .detached fun _ => none
  | .leaving ending =>
    thread.life.terminate?.map fun life => ({ thread with life, native := .reporting ending }, [])
  | .reporting ending => some ({ thread with native := .ended ending }, [thread.life.terminatedEffect])

/-- What a join makes of the thread. -/
inductive Joined (α : Type)
  | outcome (outcome : RunOutcome α)
  | refused (failure : Failure)
  | blocked
deriving DecidableEq

/-- Join a thread and give it up. A body that was never started is disposed of. -/
def join (thread : Thread σ α) : Joined α × Thread σ α × List Effect :=
  match thread.life.joining with
  | .neverStarted =>
    let disposals := if thread.body.isSome then thread.disposals + 1 else thread.disposals
    (.outcome .notStarted, { thread with body := none, disposals }, [thread.life.neverStartedEffect])
  | .refused failure => (.refused failure, thread, [])
  | .awaited =>
    match thread.native with
    | .ended (some ending) => (.outcome ending.outcome, thread, [])
    | _ => (.blocked, thread, [])

/-- Give a thread up without joining it. -/
def abandon (thread : Thread σ α) : Thread σ α :=
  if thread.body.isSome then { thread with body := none, disposals := thread.disposals + 1 } else thread

/-- Let the body go on from its next pause. -/
def permit (thread : Thread σ α) : Thread σ α :=
  { thread with surface := { thread.surface with permits := thread.surface.permits + 1 } }

end Thread

end TaskKernel
