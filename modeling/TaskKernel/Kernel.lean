import TaskKernel.Config
import TaskKernel.Log.Access
import TaskKernel.Priority
import TaskKernel.Message

/-!
What the threads of one program share: the clock, the numbers given out, the identity bound to each
thread, the log, the configuration and what has been written to the error stream.
-/
namespace TaskKernel

/-- How many threads, handles and timers there have been, and which handle is bound to each thread. What has
been written to the error stream stands with its latest piece first. -/
structure Kernel where
  environment : Environment
  now : Instant
  threads : Nat
  handles : Nat
  timers : Nat
  bound : ThreadKey → ThreadHandle
  log : Log.Cells
  config : Option Config
  tableProbed : Bool
  written : List Log.Output

namespace Kernel

/-- The kernel of a program in which nothing has happened yet. -/
def fresh (environment : Environment) (now : Instant) : Kernel where
  environment
  now
  threads := 0
  handles := 0
  timers := 0
  bound := fun _ => ThreadHandle.none
  log := Log.Cells.fresh
  config := none
  tableProbed := false
  written := []

/-- The pieces written so far, in order. -/
def outputs (kernel : Kernel) : List Log.Output := kernel.written.reverse

def newThread (kernel : Kernel) : ThreadKey × Kernel :=
  (kernel.threads, { kernel with threads := kernel.threads + 1 })

def allocateHandle (kernel : Kernel) : ThreadHandle × Kernel :=
  let handles := kernel.handles + 1
  (⟨handles⟩, { kernel with handles })

def allocateTimer (kernel : Kernel) : TimerId × Kernel :=
  let timers := kernel.timers + 1
  (⟨timers⟩, { kernel with timers })

/-- Bind a handle to a thread. -/
def bindHandle (kernel : Kernel) (thread : ThreadKey) (handle : ThreadHandle) : Kernel :=
  { kernel with bound := fun other => if other = thread then handle else kernel.bound other }

/-- The identity of a thread, given out when it is first asked for. -/
def identify (kernel : Kernel) (thread : ThreadKey) : ThreadHandle × Kernel :=
  if (kernel.bound thread).isSome then (kernel.bound thread, kernel)
  else
    let (handle, after) := kernel.allocateHandle
    (handle, after.bindHandle thread handle)

/-- Whether a handle is the identity of a thread. Only a proper handle makes the thread ask for one. -/
def isCurrent (kernel : Kernel) (thread : ThreadKey) (handle : ThreadHandle) : Bool × Kernel :=
  if handle.isSome then
    let (current, after) := kernel.identify thread
    (decide (handle = current), after)
  else (false, kernel)

private def emit (kernel : Kernel) (output : Log.Output) : Kernel :=
  { kernel with written := output :: kernel.written }

/-- Whole milliseconds since the log began. -/
private def elapsedMillis (kernel : Kernel) (started : Instant) : Nat :=
  (kernel.now.since started).toNanos / 1000000

/-- One access to the log by a thread. -/
def logAccess (thread : ThreadKey) : (access : Log.Access) → Kernel → access.Answer × Kernel
  | .claim, kernel => (kernel.log.claimed, { kernel with log.claimed := true })
  | .isClaimed, kernel => (kernel.log.claimed, kernel)
  | .settings, kernel => (Log.Settings.ofEnvironment kernel.environment, kernel)
  | .putFlush on, kernel => ((), { kernel with log.flush := on })
  | .putShowTime on, kernel => ((), { kernel with log.showTime := on })
  | .putThreshold level, kernel => ((), { kernel with log.threshold := level })
  | .start, kernel => ((), { kernel with log.started := some (kernel.log.started.getD kernel.now) })
  | .flush, kernel => (kernel.log.flush, kernel)
  | .threshold, kernel => (kernel.log.threshold, kernel)
  | .identify, kernel => kernel.identify thread
  | .write text, kernel => ((), kernel.emit (.plain text))
  | .writeRecord level writer text, kernel =>
    if kernel.log.showTime then
      let started := kernel.log.started.getD kernel.now
      ((), { kernel with log.started := some started }.emit
        (.record (some (kernel.elapsedMillis started)) level writer text))
    else ((), kernel.emit (.record none level writer text))

/-- A log operation by a thread that no other thread interrupts. -/
def perform {α : Type} (kernel : Kernel) (thread : ThreadKey) (program : Log.Program α) : α × Kernel :=
  program.run (logAccess thread) kernel

def record (kernel : Kernel) (thread : ThreadKey) (level : Log.Level) (text : String) : Kernel :=
  (kernel.perform thread (Log.record level text)).2

/-- The configuration, read from the environment when it is first needed. An unusable environment is
reported and left for the library's settings. -/
def readConfig (kernel : Kernel) (thread : ThreadKey) : Config × Kernel :=
  match kernel.config with
  | some config => (config, kernel)
  | none =>
    match Config.firstReading kernel.environment with
    | (config, none) => (config, { kernel with config := some config })
    | (config, some fault) =>
      let told := kernel.record thread .warn ("ignoring environment configuration: " ++ fault.reason)
      (config, { told with config := some config })

def setConfig (kernel : Kernel) (config : Config) : Except Failure Kernel :=
  (Config.install kernel.config config).map fun installed => { kernel with config := some installed }

/-- The table of scheduling parameters is looked up once and reported. -/
def probeTable (kernel : Kernel) (thread : ThreadKey) : Kernel :=
  if kernel.tableProbed then kernel
  else { kernel.record thread .debug ("priority table: " ++ Priority.tableText) with tableProbed := true }

/-- Do at once what would otherwise be done on demand. -/
def start (kernel : Kernel) (thread : ThreadKey) : Kernel :=
  let logging := (kernel.perform thread Log.begin).2
  (logging.readConfig thread).2.probeTable thread

end Kernel

end TaskKernel
