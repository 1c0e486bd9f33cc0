import TaskKernel.Kernel
import TaskKernel.SystemError

/-!
The life of a thread as its owner and the thread itself change it. Starting takes two steps, between
which the native thread exists and the owner still has the lifecycle lock; the native thread needs
that lock to become terminated. The system makes no native thread with a zero byte in its name, nor one
whose stack, with the guard page beside it, finds no free range.
-/
namespace TaskKernel

namespace Creation

/-- Stacks are cut down to whole units. -/
def stackUnit : Nat := 64

def guardSize : Nat := 4096

/-- The program lies at two thirds of its 2 ^ 47 addresses, so that no free range is longer. -/
def longestRange : Nat := Nat.pow 2 48 / 3

/-- The number of the system's failure to provide a stack; a size of zero asks for the usual one. -/
def stackFault? (stackSize : UInt64) : Option Int :=
  let range := stackSize.toNat / stackUnit * stackUnit + guardSize
  if UInt64.size ≤ range then some SystemError.invalidArgument
  else if longestRange < range then some SystemError.tryAgain
  else none

/-- What is wrong with a name: where its first zero byte is, and all its bytes. -/
def nameFault? (name : String) : Option String :=
  let bytes := name.toUTF8.toList.map UInt8.toNat
  (bytes.findIdx? (· = 0)).map fun place =>
    "thread name may not contain interior null bytes: NulError(" ++ toString place ++ ", [" ++
      ", ".intercalate (bytes.map toString) ++ "])"

end Creation

inductive Effect
  | bindHandle (handle : ThreadHandle)
  | probeTable
  | record (level : Log.Level) (text : String)
deriving DecidableEq

namespace Kernel

/-- Carry out an effect of a thread. -/
def carryOut (thread : ThreadKey) (kernel : Kernel) : Effect → Kernel
  | .bindHandle handle => kernel.bindHandle thread handle
  | .probeTable => kernel.probeTable thread
  | .record level text => kernel.record thread level text

def carryOutAll (kernel : Kernel) (thread : ThreadKey) (effects : List Effect) : Kernel :=
  effects.foldl (carryOut thread) kernel

end Kernel

/-- A thread has its native identity recorded (`hasNative`) from the second step of its start on. While the
owner is `starting` it, the owner has the lifecycle lock. -/
structure Lifecycle where
  handle : ThreadHandle
  name : String
  stackSize : UInt64
  priority : Priority
  state : LifeState
  detached : Bool
  hasNative : Bool
  starting : Bool
deriving DecidableEq

/-- Why starting comes to nothing: it fails, or the thread that starts the other one panics. -/
inductive Refusal
  | failed (failure : Failure)
  | panicked (reason : String)
deriving DecidableEq

instance : Coe Failure Refusal := ⟨.failed⟩

namespace Lifecycle

/-- A new thread; what is not given comes from the configuration. -/
def build (handle : ThreadHandle) (config : Config) (name : Option String) (stackSize : Option UInt64)
    (priority : Option Priority) : Except Failure Lifecycle :=
  let bytes := stackSize.getD config.stackSize
  if bytes ≠ 0 ∧ bytes.toNat < Config.minStackSize then
    .error ⟨.stackTooSmall bytes.toNat Config.minStackSize, .threadBuild⟩
  else .ok {
    handle
    name := name.getD (config.nameStem ++ "-" ++ toString handle.number)
    stackSize := bytes
    priority := priority.getD config.defaultPriority
    state := .new
    detached := false
    hasNative := false
    starting := false }

def startOperation (detached : Bool) : Operation :=
  if detached then .threadStart else .threadStartUndetached

/-- How the first step of starting ends, and whether the body has been taken, to run or to be lost. -/
structure Beginning where
  refusal : Option Refusal
  life : Lifecycle
  tookBody : Bool
  effects : List Effect

/-- The first step of starting: up to the creation of the native thread. -/
def begin (life : Lifecycle) (detached hasBody : Bool) : Beginning :=
  let operation := startOperation detached
  if life.state ≠ .new then
    let warning := operation.text ++ ": thread " ++ life.handle.text ++ " is already " ++ life.state.text
    ⟨some (.failed ⟨.notNew life.handle life.state, operation⟩), life, false, [.record .warn warning]⟩
  else if !hasBody then ⟨some (.failed ⟨.bodyLost, operation⟩), life, false, []⟩
  else
    match Creation.nameFault? life.name, Creation.stackFault? life.stackSize with
    | some reason, _ => ⟨some (.panicked reason), { life with detached }, true, []⟩
    | none, some code =>
      let complaint := operation.text ++ ": cannot create thread " ++ life.name ++ ": " ++
        SystemError.describe code
      ⟨some (.failed ⟨.cannotCreate code, operation⟩), { life with detached }, true,
        [.record .error complaint]⟩
    | none, none => ⟨none, { life with detached, starting := true }, true, []⟩

/-- The second step of starting: the thread counts as running and the lock is free again. -/
def commit (life : Lifecycle) : Lifecycle :=
  { life with hasNative := true, state := .running, starting := false }

/-- What the native thread does first. -/
def enterEffects (life : Lifecycle) : List Effect :=
  [.bindHandle life.handle] ++ (if life.priority = .normal then [] else [.probeTable]) ++
    [.record .debug ("thread " ++ life.handle.text ++ " (" ++ life.name ++ ") running")]

/-- The native thread ends its life, once the owner has left the lock. -/
def terminate? (life : Lifecycle) : Option Lifecycle :=
  if life.starting then none else some { life with hasNative := false, state := .terminated }

def terminatedEffect (life : Lifecycle) : Effect :=
  .record .debug ("thread " ++ life.handle.text ++ " (" ++ life.name ++ ") terminated")

def panickedEffect (life : Lifecycle) (reason : String) : Effect :=
  .record .error ("thread " ++ life.handle.text ++ " (" ++ life.name ++ ") panicked: " ++ reason)

/-- Change the priority of a thread that runs. -/
def setPriority (life : Lifecycle) (priority : Priority) : Except Failure (Lifecycle × List Effect) :=
  if life.state = .running ∧ life.hasNative then .ok ({ life with priority }, [.probeTable])
  else .error ⟨.notRunning life.handle life.state, .threadSetPriority⟩

/-- What is known about a join before the native thread has ended. -/
inductive Joining
  | neverStarted
  | refused (failure : Failure)
  | awaited
deriving DecidableEq

def joining (life : Lifecycle) : Joining :=
  if life.state = .new then .neverStarted
  else if life.detached then .refused ⟨.detached, .threadJoin⟩
  else .awaited

def neverStartedEffect (life : Lifecycle) : Effect :=
  .record .debug ("join on thread " ++ life.handle.text ++ " that was never started")

def describe (life : Lifecycle) : String :=
  "Thread \x7b id: " ++ life.handle.describe ++ ", name: " ++ Text.quoted life.name ++ ", state: " ++
    life.state.name ++ ", detached: " ++ toString life.detached ++ " \x7d"

end Lifecycle

/-- Build a thread that has been given its handle. What is not given comes from the configuration as it is
then, which is read if it has to be. -/
def Kernel.buildThread (kernel : Kernel) (thread : ThreadKey) (handle : ThreadHandle) (name : Option String)
    (stackSize : Option UInt64) (priority : Option Priority) : Except Failure Lifecycle × Kernel :=
  let (config, configured) := kernel.readConfig thread
  (Lifecycle.build handle config name stackSize priority, configured)

end TaskKernel
