import TaskKernel.Simulation.Schedule
import TaskKernel.Thread

/-!
Threads under a schedule. Each has a part: it waits for a permit, counts its run, and then acts.
-/
namespace TaskKernel.Simulation

/-- What a thread does after it has counted its run. -/
inductive Part (V : Type)
  | yield (value : V)
  | panic (panic : Panic)
  | identity
  | sleep (delay : Delay)

/-- What comes of a part. -/
inductive Yield (V : Type)
  | value (value : V)
  | identity (handle : ThreadHandle) (name : String)
  | slept
  | undetached

namespace Part

variable {V : Type}

/-- Count a run and act. -/
def act (part : Part V) : Body Nat (Yield V) := do
  Body.modifyState (· + 1)
  match part with
  | .yield value => pure (.value value)
  | .panic cause => Body.panic cause
  | .identity => do pure (.identity (← Body.identity) (← Body.name))
  | .sleep delay => do
    Body.sleep delay
    pure .slept

/-- A part that waits for its permit. -/
def runnable (part : Part V) : Runnable Nat (Yield V) :=
  Runnable.ofBody do
    Body.pause
    part.act

/-- A part with its own way to run when nobody waits for its value: it counts a hundred runs then, and
none otherwise. -/
def special : Runnable Nat (Yield V) where
  runUndetached := do
    Body.pause
    pure .undetached
  run := do
    Body.pause
    Body.modifyState (· + 100)

end Part

/-- A member without a thread stands for a part that could not be built into one. -/
structure Crew.Member (V : Type) where
  name : Option String
  key : ThreadKey
  thread : Option (Thread Nat (Yield V))
  owned : Bool

structure Crew (V : Type) where
  kernel : Kernel
  members : List (Crew.Member V)

/-- What a thread is built with. What is absent comes from the configuration. -/
structure Crew.Settings where
  name : Option String
  stackSize : Option UInt64
  priority : Option Priority

namespace Crew

variable {V : Type}

def start (kernel : Kernel) : Crew V := ⟨kernel, []⟩

private def step? (number : Nat) (crew : Crew V) : Option (Crew V) := do
  let member ← crew.members[number]?
  let (thread, effects) ← (← member.thread).step? crew.kernel.now
  some ⟨crew.kernel.carryOutAll member.key effects,
    crew.members.set number { member with thread := some thread }⟩

def schedule : Schedule (Crew V) where
  size crew := crew.members.length
  step? := step?
  deadlines crew := crew.members.filterMap fun member => member.thread.bind (·.surface.wake)
  passTo now crew := { crew with kernel := { crew.kernel with now } }

private def threadAt? (crew : Crew V) (number : Nat) : Option (Thread Nat (Yield V)) :=
  (crew.members[number]?).bind (·.thread)

private def ownedAt? (crew : Crew V) (number : Nat) : Option (Thread Nat (Yield V)) :=
  (crew.members[number]?).bind fun member => if member.owned then member.thread else none

private def onMember (crew : Crew V) (number : Nat) (change : Member V → Member V) : Crew V :=
  { crew with members := crew.members.modify number change }

private def onThread (crew : Crew V) (number : Nat)
    (change : Thread Nat (Yield V) → Thread Nat (Yield V)) : Crew V :=
  crew.onMember number fun member => { member with thread := member.thread.map change }

private def giveUp (crew : Crew V) (number : Nat) : Crew V :=
  crew.onMember number fun member => { member with owned := false }

/-- Act on a thread that has not been given up. -/
private def asOwner {α : Type} (crew : Crew V) (actor : ThreadKey) (number : Nat)
    (act : Thread Nat (Yield V) → α × Thread Nat (Yield V) × List Effect) : Option α × Crew V :=
  match crew.ownedAt? number with
  | none => (none, crew)
  | some thread =>
    let (answer, after, effects) := act thread
    (some answer,
      { crew with kernel := crew.kernel.carryOutAll actor effects }.onThread number fun _ => after)

/-- Start a thread, with nothing between the steps of starting. -/
private def beginAt (crew : Crew V) (actor : ThreadKey) (number : Nat) (detached : Bool) :
    Option (Except Refusal Unit) × Crew V :=
  crew.asOwner actor number fun thread =>
    match thread.begin detached with
    | (none, begun, effects) => (.ok (), begun.commit, effects)
    | (some refusal, begun, effects) => (.error refusal, begun, effects)

/-- Let a thread go on and wait until it has terminated. -/
private def releaseAt (crew : Crew V) (number : Nat) : Crew V :=
  schedule.runUntilQuiet (fun state => (state.threadAt? number).all (·.life.state = .terminated))
    Schedule.patience (crew.onThread number (·.permit))

private def isJoinable (thread : Thread Nat (Yield V)) : Bool :=
  match thread.join.1 with
  | .blocked => false
  | _ => true

/-- Let a thread go on, wait until it can be joined, and join it. -/
private def joinAt (crew : Crew V) (actor : ThreadKey) (number : Nat) :
    Option (Thread.Joined (Yield V)) × Crew V :=
  if (crew.ownedAt? number).isSome then
    let ready := schedule.runUntilQuiet (fun state => (state.threadAt? number).all isJoinable)
      Schedule.patience (crew.onThread number (·.permit))
    let (answer, after) := ready.asOwner actor number (·.join)
    (answer, after.giveUp number)
  else (none, crew)

/-- A new thread, made by a thread. -/
private def add (crew : Crew V) (maker : ThreadKey) (name : Option String) (settings : Settings)
    (body : Runnable Nat (Yield V)) : Except Failure ThreadHandle × Crew V :=
  let (handle, named) := crew.kernel.allocateHandle
  let (built, configured) := named.buildThread maker handle settings.name settings.stackSize settings.priority
  let (key, kernel) := configured.newThread
  match built with
  | .error failure => (.error failure, ⟨kernel, crew.members ++ [⟨name, key, none, false⟩]⟩)
  | .ok life =>
    (.ok handle, ⟨kernel, crew.members ++ [⟨name, key, some (Thread.create life body 0), true⟩]⟩)

/-- The number of a name, or one that no member has. -/
private def number (crew : Crew V) (name : String) : Nat :=
  (crew.members.findIdx? (·.name = some name)).getD crew.members.length

/-- A thread that has not been given up. -/
def owned? (crew : Crew V) (name : String) : Option (Thread Nat (Yield V)) :=
  crew.ownedAt? (crew.number name)

/-- How often the part of a thread has run. -/
def runs (crew : Crew V) (name : String) : Nat :=
  ((crew.threadAt? (crew.number name)).map (·.surface.state)).getD 0

/-- How often the part of a thread has been disposed of. -/
def disposals (crew : Crew V) (name : String) : Nat :=
  match crew.members[crew.number name]? with
  | none => 0
  | some member => member.thread.elim 1 (·.disposals)

/-- A new thread under a name, which an earlier thread loses. -/
def build (crew : Crew V) (maker : ThreadKey) (name : String) (settings : Settings)
    (body : Runnable Nat (Yield V)) : Except Failure ThreadHandle × Crew V :=
  (crew.onMember (crew.number name) fun member => { member with name := none }).add maker (some name)
    settings body

def begin (crew : Crew V) (actor : ThreadKey) (name : String) (detached : Bool) :
    Option (Except Refusal Unit) × Crew V :=
  crew.beginAt actor (crew.number name) detached

def setPriority (crew : Crew V) (actor : ThreadKey) (name : String) (priority : Priority) :
    Option (Except Failure Unit) × Crew V :=
  crew.asOwner actor (crew.number name) fun thread =>
    match thread.setPriority priority with
    | .error failure => (.error failure, thread, [])
    | .ok (after, effects) => (.ok (), after, effects)

def release (crew : Crew V) (name : String) : Crew V := crew.releaseAt (crew.number name)

def join (crew : Crew V) (actor : ThreadKey) (name : String) :
    Option (Thread.Joined (Yield V)) × Crew V :=
  crew.joinAt actor (crew.number name)

/-- Give a thread up. -/
def drop (crew : Crew V) (name : String) : Crew V :=
  let number := crew.number name
  if (crew.ownedAt? number).isSome then (crew.onThread number (·.abandon)).giveUp number else crew

/-- Give a thread up while its part waits, let it go on, and wait until the part is disposed of. -/
def abandon (crew : Crew V) (name : String) : Crew V :=
  let number := crew.number name
  schedule.runUntilQuiet (fun state => (state.threadAt? number).all (0 < ·.disposals)) Schedule.patience
    ((crew.drop name).onThread number (·.permit))

/-- Let all threads go as far as they can. -/
def settle (crew : Crew V) : Crew V := schedule.settle Schedule.patience crew

/-- Build and start a thread that needs no permit, and tell its number. -/
private def launch (crew : Crew V) (maker : ThreadKey) (part : Part V) (detached : Bool) :
    Except Refusal (ThreadHandle × Nat) × Crew V :=
  let number := crew.members.length
  match crew.add maker none ⟨none, none, none⟩ (Runnable.ofBody part.act) with
  | (.error failure, after) => (.error (.failed failure), after)
  | (.ok handle, built) =>
    match built.beginAt maker number detached with
    | (some (.error refusal), after) => (.error refusal, after)
    | (_, after) => (.ok (handle, number), after)

/-- Start a thread and join it. -/
def spawn (crew : Crew V) (maker : ThreadKey) (part : Part V) :
    Except Refusal (Option (Thread.Joined (Yield V))) × Crew V :=
  match crew.launch maker part false with
  | (.error refusal, after) => (.error refusal, after)
  | (.ok (_, number), started) =>
    let (joined, after) := started.joinAt maker number
    (.ok joined, after)

/-- Start a detached thread and wait for its end. The answer is its handle and who it takes itself
for. -/
def spawnDetached (crew : Crew V) (maker : ThreadKey) :
    Except Refusal (ThreadHandle × ThreadHandle) × Crew V :=
  match crew.launch maker .identity true with
  | (.error refusal, after) => (.error refusal, after)
  | (.ok (handle, number), started) =>
    let after := started.releaseAt number
    let seen := (after.members[number]?).map fun member => after.kernel.bound member.key
    (.ok (handle, seen.getD ThreadHandle.none), after)

end Crew

end TaskKernel.Simulation
