import TaskKernel.Kernel
import TaskKernel.Simulation.Schedule
import TaskKernel.Sync.Mutex
import TaskKernel.Sync.WaitSet

/-!
Numbered workers at one lock around a word. A worker acts at once, or begins an act in the background
and is awaited later; only an act that waits for the lock is still going on then.
-/
namespace TaskKernel.Simulation

inductive Locking.Act
  | lock
  | tryLock
  | lockFor (timeout : Delay)
  | unlock
  | unlockAll
  | set (value : Int64)
  | add (value : Int64)
  | get
  | describe

inductive Locking.Answer
  | locked (success : Bool)
  | done
  | value (value : Int64)
  | text (text : String)

/-- How far an act in the background has come. -/
inductive Locking.Progress
  | blocking
  | polling (polling : Sync.Polling)
  | finished (answer : Locking.Answer)

structure Locking.Job where
  worker : Nat
  thread : ThreadKey
  progress : Locking.Progress

structure Locking where
  kernel : Kernel
  mutex : Sync.Mutex Int64
  threads : List (Nat × ThreadKey)
  jobs : List Locking.Job

namespace Locking

def start (kernel : Kernel) (value : Int64) : Locking := ⟨kernel, Sync.Mutex.ofValue value, [], []⟩

/-- The next step of a job, when it can take one. Polls in vain change nothing, so a poller that would
not get the lock waits for its deadline. -/
private def step? (number : Nat) (locking : Locking) : Option Locking := do
  let job ← locking.jobs[number]?
  let (progress, mutex) ← match job.progress with
    | .finished _ => none
    | .blocking =>
      if locking.mutex.isOpenTo job.thread then
        some (.finished (.locked true), locking.mutex.acquire job.thread)
      else none
    | .polling polling =>
      match polling.stage with
      | .finished locked => some (.finished (.locked locked), locking.mutex)
      | _ =>
        if locking.mutex.isOpenTo job.thread ∨ polling.deadline ≤ locking.kernel.now then
          let config := locking.kernel.config.getD Config.library
          (polling.step? config locking.kernel.now job.thread locking.mutex).map fun (next, mutex) =>
            (.polling next, mutex)
        else none
  some { locking with mutex, jobs := locking.jobs.set number { job with progress } }

private def deadlines (locking : Locking) : List Instant :=
  locking.jobs.filterMap fun job =>
    match job.progress with
    | .polling polling => Sync.limit (some polling.deadline)
    | .blocking | .finished _ => none

def schedule : Schedule Locking where
  size locking := locking.jobs.length
  step? := step?
  deadlines := deadlines
  passTo now locking := { locking with kernel := { locking.kernel with now } }

private def threadOf (locking : Locking) (worker : Nat) : ThreadKey × Locking :=
  match locking.threads.lookup worker with
  | some thread => (thread, locking)
  | none =>
    let (thread, kernel) := locking.kernel.newThread
    (thread, { locking with kernel, threads := (worker, thread) :: locking.threads })

/-- Begin an act. A bounded attempt reads the configuration first. -/
private def begin (locking : Locking) (thread : ThreadKey) : Act → Progress × Locking
  | .lock => (.blocking, locking)
  | .lockFor timeout =>
    let kernel := (locking.kernel.readConfig thread).2
    (.polling (Sync.Polling.start kernel.now timeout), { locking with kernel })
  | .tryLock =>
    let (locked, mutex) := locking.mutex.tryLock thread
    (.finished (.locked locked), { locking with mutex })
  | .unlock => (.finished .done, { locking with mutex := locking.mutex.release thread })
  | .unlockAll =>
    let guards := locking.mutex.guards thread
    (.finished .done, { locking with
      mutex := (List.range guards).foldl (fun sofar _ => sofar.release thread) locking.mutex })
  | .set value => (.finished .done, { locking with mutex := locking.mutex.setValue value })
  | .add value =>
    let sum := locking.mutex.value + value
    (.finished (.value sum), { locking with mutex := locking.mutex.setValue sum })
  | .get => (.finished (.value locking.mutex.value), locking)
  | .describe => (.finished (.text locking.mutex.text), locking)

/-- Begin an act and go on beside it. -/
def beside (locking : Locking) (worker : Nat) (act : Act) : Locking :=
  let (thread, known) := locking.threadOf worker
  let (progress, begun) := known.begin thread act
  { begun with jobs := begun.jobs ++ [⟨worker, thread, progress⟩] }

private def answer? (locking : Locking) (worker : Nat) : Option Answer :=
  (locking.jobs.find? (·.worker = worker)).bind fun job =>
    match job.progress with
    | .finished answer => some answer
    | _ => none

/-- Wait for the end of a worker's act. -/
def await (locking : Locking) (worker : Nat) : Answer × Locking :=
  let after := schedule.runUntil (fun state => (state.answer? worker).isSome) Schedule.patience locking
  ((after.answer? worker).getD .done, { after with jobs := after.jobs.filter (·.worker ≠ worker) })

/-- Act and wait for the end. -/
def perform (locking : Locking) (worker : Nat) (act : Act) : Answer × Locking :=
  (locking.beside worker act).await worker

end Locking

end TaskKernel.Simulation
