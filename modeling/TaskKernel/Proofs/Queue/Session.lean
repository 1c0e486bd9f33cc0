import TaskKernel.Proofs.Queue.Sections

/-!
An exchange in use: its clock, the responders that are out, and what has happened. A `Move` is one
section of any producer, consumer or caller, or one of the time, so a list of moves is an interleaving.
-/
namespace TaskKernel.Exchange

variable {α β : Type}

/-- The right to fill a slot. It goes out with its entry, to the consumer that takes the entry or to the one
that closes the queue and can only drop it. Once it is `done`, dropping it has no effect. -/
structure Responder where
  slot : Nat
  discarded : Bool
  done : Bool
deriving DecidableEq

/-- What a consumer says of a message. -/
inductive Ruling (β : Type)
  | completed (reply : Option β)
  | failed (reason : String)

def Ruling.response : Ruling β → Response β
  | completed reply => .handled reply
  | failed reason => .failed reason

inductive Session.Event (α β : Type)
  | admitted (entry : Queue.Entry (Parcel α)) (deadline : Option Instant)
  | taken (thread : ThreadKey) (entry : Queue.Entry (Parcel α))
  | closed (entries : List (Queue.Entry (Parcel α)))
  | settled (slot : Nat) (ruling : Ruling β)
  | dropped (responder : Responder)

structure Session (α β : Type) where
  exchange : Exchange α β
  now : Instant
  responders : List Responder
  history : List (Session.Event α β)

inductive Session.Move (α β : Type)
  | push (priority : Priority) (item : α) (pick : Nat)
  | call (priority : Priority) (item : α) (deadline : Option Instant) (pick : Nat)
  | tryReceive (thread : ThreadKey)
  | receive (thread : ThreadKey) (deadline : Option Instant)
  | close
  | settle (slot : Nat) (ruling : Ruling β)
  | drop (responder : Responder)
  | look (slot : Nat)
  | rouseCaller (slot : Nat)
  | expireCaller (slot : Nat)
  | rouse (thread : ThreadKey)
  | expire (thread : ThreadKey)
  | passTo (now : Instant)

namespace Session

def start (now : Instant) : Session α β := ⟨Exchange.empty, now, [], []⟩

def note (session : Session α β) (event : Event α β) : Session α β :=
  { session with history := session.history ++ [event] }

/-- Hand an entry to a consumer, with its responder. -/
def hand (session : Session α β) (thread : ThreadKey) (entry : Queue.Entry (Parcel α)) :
    Session α β :=
  { session with
    responders := session.responders ++ entry.item.slot.toList.map (⟨·, false, false⟩)
    history := session.history ++ [.taken thread entry] }

/-- Let an open responder fill its slot. -/
def settle (session : Session α β) (slot : Nat) (ruling : Ruling β) : Session α β :=
  { session with
    exchange := session.exchange.fill slot ruling.response
    responders := ⟨slot, false, true⟩ :: session.responders.erase ⟨slot, false, false⟩
    history := session.history ++ [.settled slot ruling] }

/-- End a responder. One that has not filled its slot abandons the caller. -/
def drop (session : Session α β) (responder : Responder) : Session α β :=
  { session with
    exchange :=
      if responder.done then session.exchange else session.exchange.fill responder.slot .abandoned
    responders := session.responders.erase responder
    history := session.history ++ [.dropped responder] }

/-- Make a move. A move that cannot be made changes nothing. -/
def move (session : Session α β) : Move α β → Session α β
  | .push priority item pick =>
    match session.exchange.push priority item pick with
    | .error _ => session
    | .ok exchange => { session with exchange }.note
        (.admitted ⟨priority, session.exchange.queue.arrivals, ⟨item, none⟩⟩ none)
  | .call priority item deadline pick =>
    match session.exchange.call priority item deadline pick with
    | .error _ => session
    | .ok (slot, exchange) => { session with exchange }.note
        (.admitted ⟨priority, session.exchange.queue.arrivals, ⟨item, some slot⟩⟩ deadline)
  | .tryReceive thread =>
    match session.exchange.tryReceive with
    | (some entry, exchange) => { session with exchange }.hand thread entry
    | (none, exchange) => { session with exchange }
  | .receive thread deadline =>
    match session.exchange.receive thread deadline with
    | (.received entry, exchange) => { session with exchange }.hand thread entry
    | (_, exchange) => { session with exchange }
  | .close =>
    { session with
      exchange := session.exchange.close.2
      responders := session.responders ++
        (slotsOf session.exchange.close.1).map (⟨·, true, false⟩)
      history := session.history ++ [.closed session.exchange.close.1] }
  | .settle slot ruling =>
    if ⟨slot, false, false⟩ ∈ session.responders then session.settle slot ruling else session
  | .drop responder =>
    if responder ∈ session.responders then session.drop responder else session
  | .look slot => { session with exchange := session.exchange.look slot }
  | .rouseCaller slot => { session with exchange := session.exchange.rouseCaller slot }
  | .expireCaller slot => { session with exchange := session.exchange.expireCaller session.now slot }
  | .rouse thread => { session with exchange := session.exchange.rouse thread }
  | .expire thread => { session with exchange := session.exchange.expire session.now thread }
  | .passTo now => if session.now ≤ now then { session with now } else session

def moves (session : Session α β) (list : List (Move α β)) : Session α β := list.foldl move session

theorem moves_append (session : Session α β) (first second : List (Move α β)) :
    session.moves (first ++ second) = (session.moves first).moves second := List.foldl_append

theorem move_now (session : Session α β) (move : Move α β) (timeless : ∀ now, move ≠ .passTo now) :
    (session.move move).now = session.now := by
  cases move with
  | passTo now => exact absurd rfl (timeless now)
  | push | call | tryReceive | receive =>
    simp only [Session.move]
    split <;> rfl
  | settle | drop =>
    simp only [Session.move]
    split <;> rfl
  | close | look | rouseCaller | expireCaller | rouse | expire => rfl

@[simp] def Event.admission? : Event α β → Option (Queue.Entry (Parcel α) × Option Instant)
  | admitted entry deadline => some (entry, deadline)
  | taken .. | closed _ | settled .. | dropped _ => none

@[simp] def Event.taken? : Event α β → Option (Queue.Entry (Parcel α))
  | taken _ entry => some entry
  | admitted .. | closed _ | settled .. | dropped _ => none

@[simp] def Event.discards : Event α β → List (Queue.Entry (Parcel α))
  | closed entries => entries
  | admitted .. | taken .. | settled .. | dropped _ => []

/-- The slot that is filled, and with what. -/
@[simp] def Event.fill? : Event α β → Option (Nat × Response β)
  | settled slot ruling => some (slot, ruling.response)
  | dropped responder => if responder.done then none else some (responder.slot, .abandoned)
  | admitted .. | taken .. | closed _ => none

/-- The entries that have been admitted, each with the deadline of its caller. -/
def admissions (history : List (Event α β)) : List (Queue.Entry (Parcel α) × Option Instant) :=
  history.filterMap Event.admission?

def admitted (history : List (Event α β)) : List (Queue.Entry (Parcel α)) :=
  (admissions history).map Prod.fst

/-- The entries that consumers have taken. -/
def taken (history : List (Event α β)) : List (Queue.Entry (Parcel α)) :=
  history.filterMap Event.taken?

/-- The entries that a close has discarded. -/
def discarded (history : List (Event α β)) : List (Queue.Entry (Parcel α)) :=
  history.flatMap Event.discards

def fills (history : List (Event α β)) : List (Nat × Response β) := history.filterMap Event.fill?

/-- The slots whose responders have not filled them. -/
def openSlots (responders : List Responder) : List Nat :=
  (responders.filter fun responder => !responder.done).map (·.slot)

variable (history : List (Event α β)) (event : Event α β)

@[simp] theorem admissions_append :
    admissions (history ++ [event]) = admissions history ++ event.admission?.toList := by
  cases event <;> simp [admissions]

@[simp] theorem admitted_append :
    admitted (history ++ [event]) = admitted history ++ event.admission?.toList.map Prod.fst := by
  simp [admitted]

@[simp] theorem taken_append :
    taken (history ++ [event]) = taken history ++ event.taken?.toList := by
  cases event <;> simp [taken]

@[simp] theorem discarded_append :
    discarded (history ++ [event]) = discarded history ++ event.discards := by
  simp [discarded]

@[simp] theorem fills_append :
    fills (history ++ [event]) = fills history ++ event.fill?.toList := by
  rw [fills, List.filterMap_append, List.filterMap_cons]
  cases event.fill? <;> rfl

end Session

end TaskKernel.Exchange
