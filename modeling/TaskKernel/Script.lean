/-!
Code as data. A script ends with a value or makes one call and goes on with the answer, so whoever
runs it decides what happens between two calls. Every script is finite.
-/
namespace TaskKernel

inductive Script (Call : Type) (Answer : Call → Type) (α : Type) : Type
  | done (value : α)
  | ask (call : Call) (next : Answer call → Script Call Answer α)

namespace Script

variable {Call : Type} {Answer : Call → Type} {α β : Type}

/-- One call. -/
def call (request : Call) : Script Call Answer (Answer request) := ask request done

def bind : Script Call Answer α → (α → Script Call Answer β) → Script Call Answer β
  | done value, follow => follow value
  | ask request next, follow => ask request fun answer => (next answer).bind follow

instance : Monad (Script Call Answer) where
  pure := done
  bind := bind

/-- Run without interruption on a state. -/
def run {State : Type} (answer : (request : Call) → State → Answer request × State) :
    Script Call Answer α → State → α × State
  | done value, state => (value, state)
  | ask request next, state =>
    let (reply, after) := answer request state
    (next reply).run answer after

@[simp] theorem run_done {State : Type} (answer : (request : Call) → State → Answer request × State)
    (value : α) (state : State) : (done value : Script Call Answer α).run answer state = (value, state) :=
  rfl

theorem run_bind {State : Type} (answer : (request : Call) → State → Answer request × State)
    (first : Script Call Answer α) (follow : α → Script Call Answer β) (state : State) :
    (first.bind follow).run answer state =
      (follow (first.run answer state).1).run answer (first.run answer state).2 := by
  induction first generalizing state with
  | done value => rfl
  | ask request next ih => exact ih _ _

end Script

end TaskKernel
