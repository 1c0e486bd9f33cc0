import TaskKernel.Proofs.Queue.Lanes
import TaskKernel.Proofs.Queue.Sections
import TaskKernel.Proofs.Sync.WaitSet

/-!
What the users of an exchange ask of its queue and what they hear. An exchange answers every sequence
of requests as a plain queue does, in which nothing is numbered and nothing is sought: one list for
each priority, the number of callers so far, and the consumers that wait.
-/
namespace TaskKernel.Exchange

variable {α β : Type}

/-- A request, or the end of a wait. A consumer that looks again after a wait asks again. -/
inductive Request (α : Type)
  | push (priority : Priority) (item : α) (pick : Nat)
  | call (priority : Priority) (item : α) (deadline : Option Instant) (pick : Nat)
  | tryReceive
  | receive (thread : ThreadKey) (deadline : Option Instant)
  | close
  | size
  | isEmpty
  | isClosed
  | rouse (thread : ThreadKey)
  | expire (now : Instant) (thread : ThreadKey)

inductive Reply (α : Type)
  | posted
  | called (slot : Nat)
  | refused (failure : Failure)
  | taken (priority : Priority) (parcel : Parcel α)
  | nothing
  | parked
  | dropped (count : Nat)
  | count (size : Nat)
  | truth (value : Bool)
  | silent

/-- What a queue answers to requests, one after the other. -/
def replies {S : Type} (serve : S → Request α → Reply α × S) : S → List (Request α) → List (Reply α)
  | _, [] => []
  | state, request :: rest => (serve state request).1 :: replies serve (serve state request).2 rest

def serve (exchange : Exchange α β) : Request α → Reply α × Exchange α β
  | .push priority item pick =>
    match exchange.push priority item pick with
    | .ok after => (.posted, after)
    | .error failure => (.refused failure, exchange)
  | .call priority item deadline pick =>
    match exchange.call priority item deadline pick with
    | .ok (slot, after) => (.called slot, after)
    | .error failure => (.refused failure, exchange)
  | .tryReceive =>
    match exchange.tryReceive with
    | (some entry, after) => (.taken entry.priority entry.item, after)
    | (none, after) => (.nothing, after)
  | .receive thread deadline =>
    match exchange.receive thread deadline with
    | (.received entry, after) => (.taken entry.priority entry.item, after)
    | (.parked, after) => (.parked, after)
    | (.nothing, after) => (.nothing, after)
  | .close => (.dropped exchange.close.1.length, exchange.close.2)
  | .size => (.count exchange.queue.size, exchange)
  | .isEmpty => (.truth exchange.queue.isEmpty, exchange)
  | .isClosed => (.truth exchange.queue.closed, exchange)
  | .rouse thread => (.silent, exchange.rouse thread)
  | .expire now thread => (.silent, exchange.expire now thread)

/-- A plain queue with those who use it. -/
structure Plain (α : Type) where
  lanes : Lanes (Parcel α)
  callers : Nat
  waiting : Sync.WaitSet

namespace Plain

def empty : Plain α := ⟨Lanes.empty, 0, Sync.WaitSet.empty⟩

/-- Let a parcel in and wake one consumer. -/
def letIn (plain : Plain α) (operation : Operation) (priority : Priority) (parcel : Parcel α)
    (pick : Nat) : Except Failure (Plain α) :=
  match plain.lanes.push? priority parcel with
  | none => .error ⟨.queueClosed, operation⟩
  | some lanes => .ok { plain with lanes, waiting := plain.waiting.signal pick }

def serve (plain : Plain α) : Request α → Reply α × Plain α
  | .push priority item pick =>
    match plain.letIn .queuePush priority ⟨item, none⟩ pick with
    | .ok after => (.posted, after)
    | .error failure => (.refused failure, plain)
  | .call priority item _ pick =>
    match plain.letIn .queuePushAndWait priority ⟨item, some plain.callers⟩ pick with
    | .ok after => (.called plain.callers, { after with callers := plain.callers + 1 })
    | .error failure => (.refused failure, plain)
  | .tryReceive =>
    match plain.lanes.pop? with
    | some ((priority, parcel), lanes) => (.taken priority parcel, { plain with lanes })
    | none => (.nothing, plain)
  | .receive thread deadline =>
    match plain.waiting.stance? thread with
    | some .parked => (.parked, plain)
    | stance =>
      match plain.lanes.pop? with
      | some ((priority, parcel), lanes) =>
        (.taken priority parcel, { plain with lanes, waiting := plain.waiting.leave thread })
      | none =>
        if plain.lanes.closed ∨ stance = some .expired then
          (.nothing, { plain with waiting := plain.waiting.leave thread })
        else (.parked, { plain with waiting := plain.waiting.park thread (Sync.limit deadline) })
  | .close =>
    (.dropped plain.lanes.close.1,
      { plain with lanes := plain.lanes.close.2, waiting := plain.waiting.broadcast })
  | .size => (.count plain.lanes.size, plain)
  | .isEmpty => (.truth (plain.lanes.size == 0), plain)
  | .isClosed => (.truth plain.lanes.closed, plain)
  | .rouse thread => (.silent, { plain with waiting := plain.waiting.rouse thread })
  | .expire now thread => (.silent, { plain with waiting := plain.waiting.expire now thread })

end Plain

/-- An exchange as a plain queue: its lanes, its slots counted, its waiting consumers. -/
def plain (exchange : Exchange α β) : Plain α :=
  ⟨exchange.queue.lanes, exchange.slots.size, exchange.waiting⟩

private theorem letIn_plain_of_closed {exchange : Exchange α β} (closed : exchange.queue.closed = true)
    (operation : Operation) (priority : Priority) (parcel : Parcel α) (pick : Nat) :
    exchange.plain.letIn operation priority parcel pick = .error ⟨.queueClosed, operation⟩ := by
  have same := exchange.queue.lanes_push priority parcel
  rw [Queue.push?_of_closed closed] at same
  simp only [Plain.letIn, plain, ← same, Option.map_none]

private theorem letIn_plain_of_open {exchange : Exchange α β} (unclosed : exchange.queue.closed = false)
    (operation : Operation) (priority : Priority) (parcel : Parcel α) (pick : Nat) :
    exchange.plain.letIn operation priority parcel pick =
      .ok (exchange.admitted priority parcel pick).plain := by
  have same := exchange.queue.lanes_push priority parcel
  rw [Queue.push?_of_open unclosed] at same
  simp only [Plain.letIn, plain, ← same, Option.map_some]
  rfl

private theorem pop_plain {exchange : Exchange α β} (numbered : exchange.queue.Numbered) :
    exchange.plain.lanes.pop? = exchange.queue.pop?.map
      fun taken => ((taken.1.priority, taken.1.item), taken.2.lanes) :=
  (Queue.lanes_pop numbered).symm

private theorem serve_numbered {exchange : Exchange α β} (numbered : exchange.queue.Numbered)
    (request : Request α) : (exchange.serve request).2.queue.Numbered := by
  cases request with
  | push priority item pick =>
    rcases exchange.push_cases priority item pick with ⟨_, pushed⟩ | ⟨_, pushed⟩
    · simpa only [serve, pushed] using numbered
    · simpa only [serve, pushed, admitted_queue] using numbered.appended priority ⟨item, none⟩
  | call priority item deadline pick =>
    rcases exchange.call_cases priority item deadline pick with ⟨_, called⟩ | ⟨_, called⟩
    · simpa only [serve, called] using numbered
    · simpa only [serve, called, admittedCaller_queue] using
        numbered.appended priority ⟨item, some exchange.slots.size⟩
  | tryReceive =>
    rcases exchange.tryReceive_cases with ⟨_, taken⟩ | ⟨entry, queue, popped, taken⟩
    · simpa only [serve, taken] using numbered
    · simpa only [serve, taken] using numbered.pop popped
  | receive thread deadline =>
    rcases exchange.receive_cases thread deadline with ⟨_, result⟩ | ⟨_, ⟨entry, queue, popped, result⟩ |
      ⟨_, _, result⟩ | ⟨_, _, _, result⟩⟩
    · simpa only [serve, result] using numbered
    · simpa only [serve, result] using numbered.pop popped
    · simpa only [serve, result] using numbered
    · simpa only [serve, result] using numbered
  | close => exact exchange.queue.close_numbered
  | size | isEmpty | isClosed | rouse | expire => exact numbered

private theorem serve_plain {exchange : Exchange α β} (numbered : exchange.queue.Numbered)
    (request : Request α) : exchange.plain.serve request =
      ((exchange.serve request).1, (exchange.serve request).2.plain) := by
  cases request with
  | push priority item pick =>
    rcases exchange.push_cases priority item pick with ⟨closed, pushed⟩ | ⟨unclosed, pushed⟩
    · simp only [serve, pushed, Plain.serve, letIn_plain_of_closed closed]
    · simp only [serve, pushed, Plain.serve, letIn_plain_of_open unclosed]
  | call priority item deadline pick =>
    have callers : exchange.plain.callers = exchange.slots.size := rfl
    rcases exchange.call_cases priority item deadline pick with ⟨closed, called⟩ | ⟨unclosed, called⟩
    · simp only [serve, called, Plain.serve, letIn_plain_of_closed closed]
    · simp only [serve, called, Plain.serve, callers, letIn_plain_of_open unclosed]
      simp [plain, admittedCaller, admitted]
  | tryReceive =>
    rcases exchange.tryReceive_cases with ⟨vacant, taken⟩ | ⟨entry, queue, popped, taken⟩
    · simp only [serve, taken, Plain.serve, pop_plain numbered, vacant, Option.map_none]
    · simp only [serve, taken, Plain.serve, pop_plain numbered, popped, Option.map_some]
      rfl
  | receive thread deadline =>
    have waiting : exchange.plain.waiting = exchange.waiting := rfl
    have closed : exchange.plain.lanes.closed = exchange.queue.closed := rfl
    rcases exchange.receive_cases thread deadline with ⟨asleep, result⟩ |
      ⟨awake, ⟨entry, queue, popped, result⟩ |
      ⟨vacant, futile, result⟩ | ⟨vacant, unclosed, early, result⟩⟩
    · simp only [serve, result, Plain.serve, waiting, asleep]
    · simp only [serve, result, Plain.serve, waiting, pop_plain numbered, popped, Option.map_some]
      rfl
    · simp only [serve, result, Plain.serve, waiting, closed, pop_plain numbered, vacant, Option.map_none]
      rw [if_pos futile]
      rfl
    · simp only [serve, result, Plain.serve, waiting, closed, pop_plain numbered, vacant, Option.map_none]
      rw [if_neg (by simp [unclosed, early])]
      rfl
  | close =>
    have same := exchange.queue.lanes_close
    simp only [serve, Plain.serve, plain, ← same]
    rfl
  | size =>
    simp only [serve, Plain.serve]
    rw [show exchange.plain.lanes.size = exchange.queue.size from exchange.queue.lanes_size]
  | isEmpty =>
    simp only [serve, Plain.serve]
    rw [show exchange.plain.lanes.size = exchange.queue.size from exchange.queue.lanes_size]
    simp only [Queue.isEmpty, Queue.size]
    cases exchange.queue.entries <;> rfl
  | isClosed | rouse | expire => rfl

/-- What is heard once the queue is closed. Both refusals are of the kind of a wrong state. -/
def Request.replyWhenClosed : Request α → Reply α
  | push .. => .refused ⟨.queueClosed, .queuePush⟩
  | call .. => .refused ⟨.queueClosed, .queuePushAndWait⟩
  | tryReceive | receive .. => .nothing
  | close => .dropped 0
  | size => .count 0
  | isEmpty | isClosed => .truth true
  | rouse _ | expire .. => .silent

/-- Nothing is queued, nothing is taken in, and nobody is parked. -/
structure Plain.Shut (plain : Plain α) : Prop where
  closed : plain.lanes.closed = true
  vacant : ∀ priority, plain.lanes.lane priority = []
  awake : plain.waiting.AllAwake

private theorem Plain.close_shut (plain : Plain α) : (plain.serve .close).2.Shut :=
  ⟨rfl, fun _ => rfl, plain.waiting.broadcast_allAwake⟩

private theorem Plain.Shut.serve {plain : Plain α} (shut : plain.Shut) (request : Request α) :
    (plain.serve request).1 = request.replyWhenClosed ∧ (plain.serve request).2.Shut := by
  have size : plain.lanes.size = 0 := by simp [Lanes.size, Priority.all, shut.vacant]
  have refused (operation : Operation) (priority : Priority) (parcel : Parcel α) (pick : Nat) :
      plain.letIn operation priority parcel pick = .error ⟨.queueClosed, operation⟩ := by
    simp [letIn, Lanes.push?, shut.closed]
  have popped := Lanes.pop?_eq_none shut.vacant
  cases request with
  | push | call =>
    simp only [Plain.serve, refused]
    exact ⟨rfl, shut⟩
  | tryReceive =>
    simp only [Plain.serve, popped]
    exact ⟨rfl, shut⟩
  | receive thread deadline =>
    have awake := shut.awake.stance?_ne thread
    simp only [Plain.serve, popped, shut.closed, true_or, if_true]
    exact ⟨rfl, shut.closed, shut.vacant, shut.awake.leave thread⟩
  | close =>
    refine ⟨?_, plain.close_shut⟩
    simp only [Plain.serve, Lanes.close, size]
    rfl
  | size =>
    simp only [Plain.serve, size]
    exact ⟨rfl, shut⟩
  | isEmpty =>
    simp only [Plain.serve, size]
    exact ⟨rfl, shut⟩
  | isClosed =>
    simp only [Plain.serve, shut.closed]
    exact ⟨rfl, shut⟩
  | rouse thread => exact ⟨rfl, shut.closed, shut.vacant, shut.awake.rouse thread⟩
  | expire now thread => exact ⟨rfl, shut.closed, shut.vacant, shut.awake.expire now thread⟩

private theorem Plain.Shut.replies {plain : Plain α} (shut : plain.Shut) (requests : List (Request α)) :
    replies Plain.serve plain requests = requests.map Request.replyWhenClosed := by
  induction requests generalizing plain with
  | nil => rfl
  | cons request rest ih =>
    obtain ⟨reply, after⟩ := shut.serve request
    simp only [Exchange.replies, List.map_cons, reply, ih after]

theorem replies_append {S : Type} (serve : S → Request α → Reply α × S) (state : S)
    (before after : List (Request α)) :
    replies serve state (before ++ after) = replies serve state before ++
      replies serve (before.foldl (fun current request => (serve current request).2) state) after := by
  induction before generalizing state with
  | nil => rfl
  | cons request rest ih => simp only [List.cons_append, replies, List.foldl_cons, ih]

private theorem replies_length {S : Type} (serve : S → Request α → Reply α × S) (state : S)
    (requests : List (Request α)) : (replies serve state requests).length = requests.length := by
  induction requests generalizing state with
  | nil => rfl
  | cons request rest ih => simp only [replies, List.length_cons, ih]

private theorem replies_plain {exchange : Exchange α β} (numbered : exchange.queue.Numbered)
    (requests : List (Request α)) :
    replies serve exchange requests = replies Plain.serve exchange.plain requests := by
  induction requests generalizing exchange with
  | nil => rfl
  | cons request rest ih =>
    simp only [replies, serve_plain numbered, ih (serve_numbered numbered request)]

/-- Every sequence of requests hears what it would hear from a plain queue. After a close nothing is
taken in, found or dropped any more. -/
theorem replies_eq_plain_queue :
    (∀ requests : List (Request α),
      replies serve (empty : Exchange α β) requests = replies Plain.serve Plain.empty requests) ∧
    ∀ before after : List (Request α),
      (replies serve (empty : Exchange α β) (before ++ .close :: after)).drop (before.length + 1) =
        after.map Request.replyWhenClosed := by
  have plain (requests : List (Request α)) :
      replies serve (empty : Exchange α β) requests = replies Plain.serve Plain.empty requests :=
    replies_plain Queue.empty_numbered requests
  refine ⟨plain, ?_⟩
  intro before after
  rw [plain, replies_append, List.drop_append, replies_length]
  simp only [replies, Nat.add_sub_cancel_left, List.drop_succ_cons, List.drop_zero,
    (Plain.close_shut _).replies]
  rw [List.drop_eq_nil_of_le (by rw [replies_length]; omega), List.nil_append]

end TaskKernel.Exchange
