import TaskKernel.Failure
import TaskKernel.Message
import TaskKernel.Queue
import TaskKernel.Sync.WaitSet

/-!
A queue between producers and consumers. A producer posts and goes on, or posts with a slot and waits
until the slot is filled or its deadline passes. Every function is one section under one lock; wake-ups
and passing deadlines are sections of their own, so any interleaving is a sequence of these functions.
-/
namespace TaskKernel

/-- An item, with the number of its slot when a caller waits for it. -/
structure Parcel (α : Type) where
  item : α
  slot : Option Nat

/-- Where a caller stands: about to look at its slot, parked, about to look a last time, or gone with
what it found. -/
inductive CallerStance (β : Type)
  | looking
  | parked
  | expired
  | gone (response : Response β)

structure Slot (β : Type) where
  deadline : Option Instant
  answer : Option (Response β)
  caller : CallerStance β

/-- A queue with the consumers that wait for an entry and the slots of the callers. -/
structure Exchange (α β : Type) where
  queue : Queue (Parcel α)
  waiting : Sync.WaitSet
  slots : Array (Slot β)

namespace Exchange

variable {α β : Type}

/-- How a consumer's section ends. -/
inductive Receiving (α : Type)
  | received (entry : Queue.Entry (Parcel α))
  | parked
  | nothing

def empty : Exchange α β := ⟨Queue.empty, Sync.WaitSet.empty, #[]⟩

def enqueue (exchange : Exchange α β) (operation : Operation) (priority : Priority)
    (parcel : Parcel α) (pick : Nat) : Except Failure (Exchange α β) :=
  match exchange.queue.push? priority parcel with
  | none => .error ⟨.queueClosed, operation⟩
  | some queue => .ok { exchange with queue, waiting := exchange.waiting.signal pick }

/-- Post and go on. -/
def push (exchange : Exchange α β) (priority : Priority) (item : α) (pick : Nat) :
    Except Failure (Exchange α β) :=
  exchange.enqueue .queuePush priority ⟨item, none⟩ pick

/-- Post with a new slot, whose number is the answer. -/
def call (exchange : Exchange α β) (priority : Priority) (item : α) (deadline : Option Instant)
    (pick : Nat) : Except Failure (Nat × Exchange α β) :=
  let number := exchange.slots.size
  let slot : Slot β := ⟨Sync.limit deadline, none, .looking⟩
  (exchange.enqueue .queuePushAndWait priority ⟨item, some number⟩ pick).map fun after =>
    (number, { after with slots := exchange.slots.push slot })

/-- Take the first entry if there is one. -/
def tryReceive (exchange : Exchange α β) : Option (Queue.Entry (Parcel α)) × Exchange α β :=
  match exchange.queue.pop? with
  | some (entry, queue) => (some entry, { exchange with queue })
  | none => (none, exchange)

/-- A consumer looks at the queue: when it arrives, when it has been woken, or a last time after its
deadline. -/
def receive (exchange : Exchange α β) (thread : ThreadKey) (deadline : Option Instant) :
    Receiving α × Exchange α β :=
  match exchange.waiting.stance? thread with
  | some .parked => (.parked, exchange)
  | stance =>
    let left := { exchange with waiting := exchange.waiting.leave thread }
    match exchange.queue.pop? with
    | some (entry, queue) => (.received entry, { left with queue })
    | none =>
      if exchange.queue.closed ∨ stance = some .expired then (.nothing, left)
      else (.parked, { exchange with waiting := exchange.waiting.park thread (Sync.limit deadline) })

/-- Refuse later posts. The answer is what was still queued; its slots are to be abandoned. -/
def close (exchange : Exchange α β) : List (Queue.Entry (Parcel α)) × Exchange α β :=
  let (dropped, queue) := exchange.queue.close
  (dropped, { exchange with queue, waiting := exchange.waiting.broadcast })

/-- The slots of entries, in their order. -/
def slotsOf (entries : List (Queue.Entry (Parcel α))) : List Nat := entries.filterMap (·.item.slot)

/-- Fill a slot that is still empty, and wake its caller. -/
def fill (exchange : Exchange α β) (number : Nat) (response : Response β) : Exchange α β :=
  { exchange with slots := exchange.slots.modify number fun slot =>
      { slot with
        answer := some (slot.answer.getD response)
        caller := match slot.caller with
          | .parked => .looking
          | other => other } }

/-- Answer an entry, if anybody waits for it. -/
def answer (exchange : Exchange α β) (slot : Option Nat) (response : Response β) : Exchange α β :=
  match slot with
  | some number => exchange.fill number response
  | none => exchange

def looked (slot : Slot β) : CallerStance β :=
  match slot.caller, slot.answer with
  | .looking, some response => .gone response
  | .looking, none => .parked
  | .expired, some response => .gone response
  | .expired, none => .gone .timedOut
  | other, _ => other

/-- A caller looks at its slot. -/
def look (exchange : Exchange α β) (number : Nat) : Exchange α β :=
  { exchange with slots := exchange.slots.modify number fun slot => { slot with caller := looked slot } }

/-- Wake a parked caller for no reason. -/
def rouseCaller (exchange : Exchange α β) (number : Nat) : Exchange α β :=
  { exchange with slots := exchange.slots.modify number fun slot =>
      match slot.caller with
      | .parked => { slot with caller := .looking }
      | _ => slot }

/-- End the wait of a caller whose deadline has passed. -/
def expireCaller (exchange : Exchange α β) (now : Instant) (number : Nat) : Exchange α β :=
  { exchange with slots := exchange.slots.modify number fun slot =>
      match slot.caller with
      | .parked => if slot.deadline.any (· ≤ now) then { slot with caller := .expired } else slot
      | _ => slot }

/-- What a caller went away with. -/
def outcome? (exchange : Exchange α β) (number : Nat) : Option (Response β) :=
  (exchange.slots[number]?).bind fun slot =>
    match slot.caller with
    | .gone response => some response
    | _ => none

def rouse (exchange : Exchange α β) (thread : ThreadKey) : Exchange α β :=
  { exchange with waiting := exchange.waiting.rouse thread }

def expire (exchange : Exchange α β) (now : Instant) (thread : ThreadKey) : Exchange α β :=
  { exchange with waiting := exchange.waiting.expire now thread }

/-- End all waits whose deadline has passed. -/
def expireAll (exchange : Exchange α β) (now : Instant) : Exchange α β :=
  (List.range exchange.slots.size).foldl (fun sofar number => sofar.expireCaller now number)
    { exchange with waiting := exchange.waiting.expireAll now }

/-- The deadlines of all waits. -/
def deadlines (exchange : Exchange α β) : List Instant :=
  exchange.waiting.deadlines ++ exchange.slots.toList.filterMap fun slot =>
    match slot.caller with
    | .parked => slot.deadline
    | _ => none

/-- Whether the caller of a slot is about to look. -/
def isAwake (exchange : Exchange α β) (number : Nat) : Bool :=
  (exchange.slots[number]?).any fun slot =>
    match slot.caller with
    | .looking | .expired => true
    | .parked | .gone _ => false

/-- The first slot whose caller is about to look. -/
def awake? (exchange : Exchange α β) : Option Nat :=
  (List.range exchange.slots.size).find? exchange.isAwake

def text : String := "MessageQueue \x7b .. \x7d"

end Exchange

end TaskKernel
