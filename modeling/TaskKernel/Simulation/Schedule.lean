import TaskKernel.Time.Clock

/-!
Runs of several participants under a clock of their own. Every participant in turn takes a step if it
can. When none can, the clock moves on to the next deadline, so a run never waits for real time and
always goes the same way.
-/
namespace TaskKernel.Simulation

/-- Participants, numbered from zero, that share a state. `passTo` moves the clock to an instant and
ends the waits whose deadline has come. -/
structure Schedule (S : Type) where
  size : S → Nat
  step? : Nat → S → Option S
  deadlines : S → List Instant
  passTo : Instant → S → S

namespace Schedule

variable {S : Type}

/-- Rounds after which a run is given up. -/
def patience : Nat := 1000000

/-- Every participant in turn takes a step if it can, until the goal is reached. The flag tells whether
one could. -/
def round (schedule : Schedule S) (goal : S → Bool) (state : S) : Bool × S :=
  (List.range (schedule.size state)).foldl (fun (moved, current) number =>
    if goal current then (moved, current)
    else
      match schedule.step? number current with
      | some next => (true, next)
      | none => (moved, current)) (false, state)

/-- Let the participants go on until none can, while the clock stands still. -/
def settle (schedule : Schedule S) : (rounds : Nat) → S → S
  | 0, state => state
  | rounds + 1, state =>
    match schedule.round (fun _ => false) state with
    | (true, next) => schedule.settle rounds next
    | (false, quiet) => quiet

/-- Run until the goal is reached, and no step further. A run that cannot go on ends as well. -/
def runUntil (schedule : Schedule S) (goal : S → Bool) : (rounds : Nat) → S → S
  | 0, state => state
  | rounds + 1, state =>
    if goal state then state
    else
      match schedule.round goal state with
      | (true, next) => schedule.runUntil goal rounds next
      | (false, quiet) =>
        match (schedule.deadlines quiet).min? with
        | some instant => schedule.runUntil goal rounds (schedule.passTo instant quiet)
        | none => quiet

/-- Run until the goal is reached and no participant can go on. -/
def runUntilQuiet (schedule : Schedule S) (goal : S → Bool) : (rounds : Nat) → S → S
  | 0, state => state
  | rounds + 1, state =>
    match schedule.round (fun _ => false) state with
    | (true, next) => schedule.runUntilQuiet goal rounds next
    | (false, quiet) =>
      if goal quiet then quiet
      else
        match (schedule.deadlines quiet).min? with
        | some instant => schedule.runUntilQuiet goal rounds (schedule.passTo instant quiet)
        | none => quiet

/-- Run until the clock shows an instant. -/
def runTo (schedule : Schedule S) (target : Instant) : (rounds : Nat) → S → S
  | 0, state => state
  | rounds + 1, state =>
    match schedule.round (fun _ => false) state with
    | (true, next) => schedule.runTo target rounds next
    | (false, quiet) =>
      match (schedule.deadlines quiet).min? with
      | some instant =>
        if target < instant then schedule.passTo target quiet
        else schedule.runTo target rounds (schedule.passTo instant quiet)
      | none => schedule.passTo target quiet

end Schedule

end TaskKernel.Simulation
