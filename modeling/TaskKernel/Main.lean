import TaskKernel.Simulation.Demonstration

/-!
The command line: runs one of the demonstrations by the clock of the machine.
-/
namespace TaskKernel.CommandLine

open Simulation

/-- The variables that are read. -/
def variableNames : List String :=
  ["TASKER_STACK_SIZE", "TASKER_THREAD_PREFIX", "TASKER_LOCK_SPINS", "TASKER_LOCK_BACKOFF_US",
    "TASKER_DEFAULT_PRIORITY", "TASKER_LOG_LEVEL", "TASKER_FLUSH_EPRINT", "TASKER_LOG_TIME",
    "ECHO_CLIENTS", "ECHO_REQUESTS", "PERIODIC_MS", "PERIODIC_COUNT"]

def readEnvironment : IO Environment :=
  variableNames.foldlM (fun sofar name => do
    match ← IO.getEnv name with
    | some text => return sofar.setText name text
    | none => return sofar) Environment.empty

def readClock : IO Instant := do
  return Instant.zero.addClamped (Delay.ofNanos (← IO.monoNanosNow))

/-- How much of an outcome has been printed. -/
structure Printed where
  lines : Nat
  records : Nat

/-- Print what is new in an outcome. -/
def printNew (printed : Printed) (outcome : Demo.Outcome) : IO Printed := do
  let records := outcome.kernel.outputs
  for line in outcome.lines.drop printed.lines do
    IO.println line.text
  for record in records.drop printed.records do
    IO.eprint record.text
  return ⟨outcome.lines.length, records.length⟩

def finish (printed : Printed) (outcome : Demo.Outcome) : IO UInt32 := do
  let _ ← printNew printed outcome
  IO.eprint outcome.errorText
  return UInt32.ofNat outcome.exitCode

/-- Sleep until the next deadline. -/
def pause (deadlines : List Instant) : IO Unit := do
  match deadlines.min? with
  | some deadline =>
    let left := Clock.remaining (← readClock) deadline
    IO.sleep (UInt32.ofNat (left.toNanos / 1000000 + 1))
  | none => IO.sleep 1

/-- Round after round until the main thread has ended. -/
partial def drive {S : Type} (schedule : Schedule S) (isOver : S → Bool) (outcome : S → Demo.Outcome)
    (printed : Printed) (state : S) : IO UInt32 := do
  let (moved, next) := schedule.round isOver (schedule.passTo (← readClock) state)
  if isOver next then finish printed (outcome next)
  else
    let printed ← printNew printed (outcome next)
    if !moved then pause (schedule.deadlines next)
    drive schedule isOver outcome printed next

def runEcho : IO UInt32 := do
  match Demo.Echo.start (← readEnvironment) (← readClock) with
  | .error outcome => finish ⟨0, 0⟩ outcome
  | .ok start => drive Demonstration.echoSchedule Demo.Echo.isOver Demo.Echo.outcome ⟨0, 0⟩ start

def runPeriodic : IO UInt32 := do
  match Demo.Periodic.start (← readEnvironment) (← readClock) with
  | .error outcome => finish ⟨0, 0⟩ outcome
  | .ok start =>
    drive Demonstration.periodicSchedule Demo.Periodic.isOver Demo.Periodic.outcome ⟨0, 0⟩ start

end TaskKernel.CommandLine

def main (arguments : List String) : IO UInt32 := do
  match arguments with
  | ["echo"] => TaskKernel.CommandLine.runEcho
  | ["periodic"] => TaskKernel.CommandLine.runPeriodic
  | _ =>
    IO.eprintln "usage: echo | periodic"
    return 2
