import TaskKernel.Kernel
import TaskKernel.Simulation.Schedule
import TaskKernel.Sync.Semaphore
import TaskKernel.Time.Clock

/-!
Threads that take units from one semaphore, once or in rounds in which they give each unit back.
-/
namespace TaskKernel.Simulation

inductive Taker.Stage
  | taking
  | posting
  | finished (taken : Bool)
deriving DecidableEq

structure Taker where
  name : Option String
  thread : ThreadKey
  deadline : Option Instant
  rounds : Nat
  stage : Taker.Stage

structure Taking where
  kernel : Kernel
  semaphore : Sync.Semaphore
  takers : List Taker

namespace Taking

def create (kernel : Kernel) (initial : Nat) : Except Failure Taking :=
  (Sync.Semaphore.create initial).map fun semaphore => ⟨kernel, semaphore, []⟩

/-- The next step of a taker, when it can take one. -/
def step? (number : Nat) (taking : Taking) : Option Taking := do
  let taker ← taking.takers[number]?
  let (stage, rounds, semaphore) ← match taker.stage with
    | .finished _ => none
    | .posting =>
      let semaphore := match taking.semaphore.post 0 with
        | .ok after => after
        | .error _ => taking.semaphore
      let left := taker.rounds - 1
      some (if left = 0 then .finished true else .taking, left, semaphore)
    | .taking =>
      if taking.semaphore.waiting.stance? taker.thread = some .parked then none
      else
        match taking.semaphore.take taker.thread taker.deadline with
        | (.taken, after) => some (if taker.rounds = 0 then .finished true else .posting, taker.rounds, after)
        | (.gaveUp, after) => some (.finished false, taker.rounds, after)
        | (.parked, after) => some (.taking, taker.rounds, after.expireAll taking.kernel.now)
  some { taking with semaphore, takers := taking.takers.set number { taker with stage, rounds } }

def schedule : Schedule Taking where
  size taking := taking.takers.length
  step? := step?
  deadlines taking := taking.semaphore.waiting.deadlines
  passTo now taking := { taking with
    kernel := { taking.kernel with now }
    semaphore := taking.semaphore.expireAll now }

private def isFinished (taker : Taker) : Bool :=
  taker.stage = .finished true || taker.stage = .finished false

private def named? (taking : Taking) (name : Option String) : Option Taker :=
  taking.takers.find? (·.name = name)

/-- A new taker, which looks at the count once. -/
def begin (taking : Taking) (name : Option String) (timeout : Option Delay) : Taking :=
  let (thread, kernel) := taking.kernel.newThread
  let deadline := timeout.map (Clock.deadline kernel.now)
  let number := taking.takers.length
  let begun := { taking with kernel, takers := taking.takers ++ [⟨name, thread, deadline, 0, .taking⟩] }
  (step? number begun).getD begun

/-- Wait for the end of a taker. The answer tells whether it got its unit, if it had a deadline. -/
def collect (taking : Taking) (name : Option String) : Option Bool × Taking :=
  let after := schedule.runUntil (fun state => (state.named? name).all isFinished) Schedule.patience taking
  ((after.named? name).bind fun taker =>
      if taker.deadline.isSome then some (taker.stage = .finished true) else none,
    { after with takers := after.takers.filter (·.name ≠ name) })

/-- Take a unit in the foreground. -/
def take (taking : Taking) (timeout : Option Delay) : Option Bool × Taking :=
  (taking.begin none timeout).collect none

/-- Let workers take a unit and give it back, a number of rounds each, and wait for all. -/
def work (taking : Taking) (workers rounds : Nat) : Taking :=
  let begun := (List.range workers).foldl (fun (sofar : Taking) _ =>
    let (thread, kernel) := sofar.kernel.newThread
    { sofar with
      kernel
      takers := sofar.takers ++ [⟨none, thread, none, rounds, if rounds = 0 then .finished true else .taking⟩] })
    taking
  let isWorker (taker : Taker) : Bool := taker.name.isNone
  let after := schedule.runUntil (fun state => (state.takers.filter isWorker).all isFinished)
    Schedule.patience begun
  { after with takers := after.takers.filter (!isWorker ·) }

/-- Take a unit if there is one. -/
def tryTake (taking : Taking) : Bool × Taking :=
  let (taken, semaphore) := taking.semaphore.tryTake
  (taken, { taking with semaphore })

/-- Take units until there is none, and count them. -/
def drain (taking : Taking) : Nat × Taking :=
  (List.range taking.semaphore.count).foldl (fun (count, state) _ =>
    match state.tryTake with
    | (true, after) => (count + 1, after)
    | (false, _) => (count, state)) (0, taking)

/-- Add units one by one; the answer is that of the last post. -/
def post (taking : Taking) (units : Nat) : Except Failure Unit × Taking :=
  (List.range units).foldl (fun (_, state) _ =>
    match state.semaphore.post 0 with
    | .ok semaphore => (.ok (), { state with semaphore })
    | .error failure => (.error failure, state)) (.ok (), taking)

end Taking

end TaskKernel.Simulation
