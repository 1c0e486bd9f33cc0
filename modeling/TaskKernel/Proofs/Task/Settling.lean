import TaskKernel.Proofs.Task.Turn

/-!
Code of a handler that comes to an end by itself: it waits for nobody and does not panic. What holds of its
last state is then known from the first one on, and each of its steps brings it nearer.
-/
namespace TaskKernel

variable {σ π ρ υ α : Type}

/-- The code comes to an end after no more than a number of calls, whatever the answers of the kernel are. The
end has the given property: of the value, of the state, and of whether the service is to end. -/
def HandlerCode.Settles (last : α → σ → Bool → Prop) : Nat → HandlerCode σ π υ α → σ → Bool → Prop
  | _, .done value, state, quitting => last value state quitting
  | calls + 1, .ask (.plain .state) next, state, quitting => Settles last calls (next state) state quitting
  | calls + 1, .ask (.plain (.setState value)) next, _, quitting => Settles last calls (next ()) value quitting
  | calls + 1, .ask (.plain (.record _ _)) next, state, quitting => Settles last calls (next ()) state quitting
  | calls + 1, .ask (.plain .identity) next, state, quitting => ∀ handle, Settles last calls (next handle) state quitting
  | calls + 1, .ask (.plain .now) next, state, quitting => ∀ now, Settles last calls (next now) state quitting
  | calls + 1, .ask .quit next, state, _ => Settles last calls (next ()) state true
  | _, .ask _ _, _, _ => False

theorem HandlerCode.Settles.imp {last other : α → σ → Bool → Prop} {calls : Nat} {code : HandlerCode σ π υ α}
    {state : σ} {quitting : Bool} (settles : code.Settles last calls state quitting)
    (follows : ∀ value state quitting, last value state quitting → other value state quitting) :
    code.Settles other calls state quitting := by
  fun_induction HandlerCode.Settles last calls code state quitting with
  | case1 =>
    unfold Settles
    exact follows _ _ _ settles
  | case2 _ _ _ _ ih | case3 _ _ _ _ _ ih | case4 _ _ _ _ _ _ ih | case7 _ _ _ _ ih => exact ih settles
  | case5 _ _ _ _ ih | case6 _ _ _ _ ih => exact fun answer => ih answer (settles answer)
  | case8 => exact settles.elim

namespace Task

/-- Where a step of such code leads: to the rest of it, or to its end. -/
inductive Nears (last : α → σ → Bool → Prop) (calls : Nat) (task : Task σ π ρ υ)
    (resume : HandlerCode σ π υ α → Place σ π ρ υ) (finish : Ending α → Place σ π ρ υ × List Effect) :
    Task σ π ρ υ → Prop
  | goesOn (rest : HandlerCode σ π υ α) (state : σ) (quitting : Bool) (fewer : Nat) (less : fewer < calls)
      (settles : rest.Settles last fewer state quitting) :
      Nears last calls task resume finish
        { task with surface := { task.surface with state }, quitting, place := resume rest }
  | finishes (value : α) (ended : last value task.surface.state task.quitting) :
      Nears last calls task resume finish { task with place := (finish (.returned value)).1 }

variable {task : Task σ π ρ υ} {last : α → σ → Bool → Prop} {calls : Nat}

theorem InCode.nears {rest : HandlerCode σ π υ α} {resume : HandlerCode σ π υ α → Place σ π ρ υ}
    {finish : Ending α → Place σ π ρ υ × List Effect} (inside : task.InCode rest resume finish) (now : Instant)
    (given : Nat) (settles : rest.Settles last calls task.surface.state task.quitting) :
    ∃ progress, task.step? now given = some progress ∧ progress.given = given ∧
      Nears last calls task resume finish progress.task := by
  rw [inside.step?_eq now given]
  unfold HandlerCode.Settles at settles
  split at settles
  · exact ⟨_, rfl, rfl, .finishes _ settles⟩
  all_goals first
    | exact ⟨_, rfl, rfl, .goesOn _ _ _ _ (Nat.lt_succ_self _) settles⟩
    | exact ⟨_, rfl, rfl, .goesOn _ _ _ _ (Nat.lt_succ_self _) (settles _)⟩
    | exact settles.elim

end Task

end TaskKernel
