import TaskKernel.Demo.Echo
import TaskKernel.Demo.Periodic
import TaskKernel.Simulation.Schedule

/-!
Both demonstrations under a schedule, from the environment to the outcome.
-/
namespace TaskKernel.Simulation.Demonstration

open Demo

private def passTo {σ π ρ υ : Type} (now : Instant) (host : Task.Host σ π ρ υ) : Task.Host σ π ρ υ :=
  let later := host.move (.passTo now)
  { later with task := { later.task with exchange := later.task.exchange.expireAll now } }

private def deadlines {σ π ρ υ : Type} (host : Task.Host σ π ρ υ) : List Instant :=
  host.task.exchange.deadlines ++ host.task.surface.wake.toList

/-- The main thread goes first, then the task, then the clients in their order. -/
def echoSchedule : Schedule Echo where
  size echo := echo.clients.length + 2
  step? number echo := match number with
    | 0 => echo.mainStep?
    | 1 => echo.host.step?.map fun host => { echo with host }
    | number + 2 => echo.clientStep? number
  deadlines echo := deadlines echo.host
  passTo now echo := { echo with host := passTo now echo.host }

def periodicSchedule : Schedule Periodic where
  size _ := 2
  step? number demo := match number with
    | 0 => demo.mainStep?
    | _ => demo.host.step?.map fun host => { demo with host }
  deadlines demo := deadlines demo.host
  passTo now demo := { demo with host := passTo now demo.host }

/-- Run until the main thread has ended. -/
def echo (environment : Environment) (now : Instant) : Outcome :=
  match Echo.start environment now with
  | .error outcome => outcome
  | .ok start => (echoSchedule.runUntil Echo.isOver Schedule.patience start).outcome

/-- Run until the main thread has ended. -/
def periodic (environment : Environment) (now : Instant) : Outcome :=
  match Periodic.start environment now with
  | .error outcome => outcome
  | .ok start => (periodicSchedule.runUntil Periodic.isOver Schedule.patience start).outcome

end TaskKernel.Simulation.Demonstration
