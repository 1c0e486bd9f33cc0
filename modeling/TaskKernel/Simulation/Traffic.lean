import TaskKernel.Kernel
import TaskKernel.Queue.Exchange
import TaskKernel.Simulation.Schedule
import TaskKernel.Time.Clock

/-!
Producers and consumers of one queue of messages. A consumer in the background takes a number of
entries and serves or drops them; the foreground may hold entries and answer them later.
-/
namespace TaskKernel.Simulation

abbrev TextMessage : Type := Message String

abbrev TextEntry : Type := Queue.Entry (Parcel TextMessage)

/-- What a consumer does with an entry it has taken. -/
inductive Traffic.Manner
  | keeps
  | drops
  | serves
deriving DecidableEq

structure Traffic.Consumer where
  name : Option String
  thread : ThreadKey
  deadline : Option Instant
  left : Nat
  manner : Traffic.Manner
  taken : List TextEntry

/-- A call that goes on in the background: its slot, or its refusal. -/
structure Traffic.Pending where
  name : String
  slot : Except Failure Nat

structure Traffic where
  kernel : Kernel
  exchange : Exchange TextMessage String
  consumers : List Traffic.Consumer
  calls : List Traffic.Pending
  held : List (String × TextEntry)

namespace Traffic

def start (kernel : Kernel) : Traffic := ⟨kernel, Exchange.empty, [], [], []⟩

/-- What a serving consumer answers to a payload. -/
def reaction : Option String → Response String
  | none => .handled none
  | some text =>
    if text.startsWith "fail:" then .failed text
    else if text.startsWith "drop:" then .abandoned
    else .handled (some ("re:" ++ text))

/-- The response to an entry that has been taken, if it is given at once. -/
def Manner.response? (manner : Manner) (payload : Option String) : Option (Response String) :=
  match manner with
  | keeps => none
  | drops => some .abandoned
  | serves => some (reaction payload)

private def onExchange (traffic : Traffic)
    (change : Exchange TextMessage String → Exchange TextMessage String) : Traffic :=
  { traffic with exchange := change traffic.exchange }

/-- A consumer looks at the queue, unless it is parked. -/
private def consume? (number : Nat) (traffic : Traffic) : Option Traffic := do
  let consumer ← traffic.consumers[number]?
  if consumer.left = 0 ∨ traffic.exchange.waiting.stance? consumer.thread = some .parked then none
  else
    let (consumer, exchange) := match traffic.exchange.receive consumer.thread consumer.deadline with
      | (.received entry, after) =>
        ({ consumer with left := consumer.left - 1, taken := consumer.taken ++ [entry] },
          match consumer.manner.response? entry.item.item.payload with
          | some response => after.answer entry.item.slot response
          | none => after)
      | (.parked, after) => (consumer, after.expireAll traffic.kernel.now)
      | (.nothing, after) => ({ consumer with left := 0 }, after)
    some { traffic with exchange, consumers := traffic.consumers.set number consumer }

/-- The first caller that is awake looks at its slot. -/
private def look? (traffic : Traffic) : Option Traffic :=
  traffic.exchange.awake?.map fun slot =>
    traffic.onExchange fun exchange => (exchange.look slot).expireAll traffic.kernel.now

def schedule : Schedule Traffic where
  size traffic := traffic.consumers.length + 1
  step? number traffic := match number with
    | 0 => look? traffic
    | number + 1 => consume? number traffic
  deadlines traffic := traffic.exchange.deadlines
  passTo now traffic := { traffic with
    kernel := { traffic.kernel with now }
    exchange := traffic.exchange.expireAll now }

def push (traffic : Traffic) (message : TextMessage) : Except Failure Unit × Traffic :=
  match traffic.exchange.push message.priority message 0 with
  | .error failure => (.error failure, traffic)
  | .ok exchange => (.ok (), { traffic with exchange })

/-- Post with a slot, at which the caller looks at once, and a last time if its deadline has come. -/
private def post? (traffic : Traffic) (message : TextMessage) (timeout : Option Delay) :
    Except Failure Nat × Traffic :=
  let now := traffic.kernel.now
  match traffic.exchange.call message.priority message (timeout.map (Clock.deadline now)) 0 with
  | .error failure => (.error failure, traffic)
  | .ok (slot, exchange) =>
    (.ok slot, { traffic with exchange := ((exchange.look slot).expireCaller now slot).look slot })

private def awaited (traffic : Traffic) :
    Except Failure Nat → Except Failure (Option (Response String)) × Traffic
  | .error failure => (.error failure, traffic)
  | .ok slot =>
    let after := schedule.runUntil (fun state => (state.exchange.outcome? slot).isSome)
      Schedule.patience traffic
    (.ok (after.exchange.outcome? slot), after)

/-- Post and wait for the answer. -/
def call (traffic : Traffic) (message : TextMessage) (timeout : Option Delay) :
    Except Failure (Option (Response String)) × Traffic :=
  let (slot, posted) := traffic.post? message timeout
  posted.awaited slot

/-- Post and wait for the answer in the background. -/
def callBeside (traffic : Traffic) (name : String) (message : TextMessage) (timeout : Option Delay) :
    Traffic :=
  let (slot, posted) := traffic.post? message timeout
  { posted with calls := posted.calls ++ [⟨name, slot⟩] }

/-- Wait for the end of a call in the background. -/
def collectCall (traffic : Traffic) (name : String) :
    Except Failure (Option (Response String)) × Traffic :=
  match traffic.calls.find? (·.name = name) with
  | none => (.ok none, traffic)
  | some pending =>
    { traffic with calls := traffic.calls.filter (·.name ≠ name) }.awaited pending.slot

/-- Give an entry up without an answer. -/
def drop (traffic : Traffic) (entry : TextEntry) : Traffic :=
  traffic.onExchange (·.answer entry.item.slot .abandoned)

/-- Hold an entry under a name, or drop it. An entry held under that name before is dropped. -/
def hold (traffic : Traffic) (name : Option String) (entry : TextEntry) : Traffic :=
  match name with
  | none => traffic.drop entry
  | some name =>
    let freed := match traffic.held.lookup name with
      | some old => traffic.drop old
      | none => traffic
    { freed with held := (name, entry) :: freed.held.filter (·.1 ≠ name) }

/-- Take the entry that is held under a name. -/
def unhold (traffic : Traffic) (name : String) : Option TextEntry × Traffic :=
  (traffic.held.lookup name, { traffic with held := traffic.held.filter (·.1 ≠ name) })

/-- Answer an entry that is held under a name, if there is one. Tells whether anybody had to be
answered. -/
def answer (traffic : Traffic) (name : String) (response : Response String) : Option Bool × Traffic :=
  match traffic.unhold name with
  | (none, after) => (none, after)
  | (some entry, after) =>
    (some entry.item.slot.isSome, after.onExchange (·.answer entry.item.slot response))

def tryReceive (traffic : Traffic) : Option TextEntry × Traffic :=
  let (entry, exchange) := traffic.exchange.tryReceive
  (entry, { traffic with exchange })

/-- A new consumer, which looks at the queue once. -/
def consume (traffic : Traffic) (name : Option String) (deadline : Option Instant) (count : Nat)
    (manner : Manner) : Traffic :=
  let (thread, kernel) := traffic.kernel.newThread
  let number := traffic.consumers.length
  let begun := { traffic with
    kernel
    consumers := traffic.consumers ++ [⟨name, thread, deadline, count, manner, []⟩] }
  (consume? number begun).getD begun

/-- Wait for the end of a consumer and tell what it took. -/
def collect (traffic : Traffic) (name : Option String) : List TextEntry × Traffic :=
  let ended (state : Traffic) : Bool := (state.consumers.find? (·.name = name)).all (·.left = 0)
  let after := schedule.runUntil ended Schedule.patience traffic
  (((after.consumers.find? (·.name = name)).map (·.taken)).getD [],
    { after with consumers := after.consumers.filter (·.name ≠ name) })

/-- Take one entry in the foreground. -/
def receive (traffic : Traffic) (deadline : Option Instant) : Option TextEntry × Traffic :=
  let (taken, after) := (traffic.consume none deadline 1 .keeps).collect none
  (taken.head?, after)

/-- Close the queue and tell how many entries were dropped. -/
def close (traffic : Traffic) : Nat × Traffic :=
  let (dropped, exchange) := traffic.exchange.close
  let told := (Exchange.slotsOf dropped).foldl (fun sofar slot => sofar.fill slot .abandoned) exchange
  (dropped.length, { traffic with exchange := told })

end Traffic

end TaskKernel.Simulation
