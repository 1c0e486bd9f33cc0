import TaskKernel.Proofs.Queue.Callers
import TaskKernel.Proofs.Sync.Waking
import TaskKernel.Proofs.Time.Instant

/-!
Consumers that wait for entries. As long as one of them is parked, there is for every entry another one that
is about to look, so no entry is left to a consumer that nobody wakes. A consumer comes back with nothing
only when the queue is closed or its deadline has passed.
-/
namespace TaskKernel.Exchange

variable {α β : Type}

namespace Session

variable {session after : Session α β}

/-- What a move does to the entries and to the consumers that wait for them. -/
inductive Stir (session : Session α β) (move : Move α β) (after : Session α β) : Prop
  | aside (queue : after.exchange.queue = session.exchange.queue)
      (waiting : after.exchange.waiting = session.exchange.waiting)
  | signalled (priority : Priority) (parcel : Parcel α) (pick : Nat)
      (unclosed : session.exchange.queue.closed = false)
      (queue : after.exchange.queue = session.exchange.queue.appended priority parcel)
      (waiting : after.exchange.waiting = session.exchange.waiting.signal pick)
  | took (entry : Queue.Entry (Parcel α))
      (popped : session.exchange.queue.pop? = some (entry, after.exchange.queue))
      (waiting : after.exchange.waiting = session.exchange.waiting)
  | left (entry : Queue.Entry (Parcel α)) (thread : ThreadKey) (deadline : Option Instant)
      (look : move = .receive thread deadline)
      (popped : session.exchange.queue.pop? = some (entry, after.exchange.queue))
      (waiting : after.exchange.waiting = session.exchange.waiting.leave thread)
  | gaveUp (thread : ThreadKey) (deadline : Option Instant) (look : move = .receive thread deadline)
      (vacant : session.exchange.queue.entries = [])
      (queue : after.exchange.queue = session.exchange.queue)
      (waiting : after.exchange.waiting = session.exchange.waiting.leave thread)
  | parked (thread : ThreadKey) (deadline : Option Instant) (look : move = .receive thread deadline)
      (vacant : session.exchange.queue.entries = []) (unclosed : session.exchange.queue.closed = false)
      (queue : after.exchange.queue = session.exchange.queue)
      (waiting : after.exchange.waiting = session.exchange.waiting.park thread (Sync.limit deadline))
  | closed (queue : after.exchange.queue = session.exchange.queue.close.2)
      (waiting : after.exchange.waiting = session.exchange.waiting.broadcast)
  | roused (queue : after.exchange.queue = session.exchange.queue)
      (rouses : session.exchange.waiting.Rouses session.now after.exchange.waiting)

theorem move_stir (session : Session α β) (move : Move α β) : session.Stir move (session.move move) := by
  cases move with
  | push priority item pick =>
    rcases session.exchange.push_cases priority item pick with ⟨_, pushed⟩ | ⟨unclosed, pushed⟩
    · simp only [Session.move, pushed]
      exact .aside rfl rfl
    · simp only [Session.move, pushed]
      exact .signalled priority ⟨item, none⟩ pick unclosed rfl rfl
  | call priority item deadline pick =>
    rcases session.exchange.call_cases priority item deadline pick with ⟨_, called⟩ | ⟨unclosed, called⟩
    · simp only [Session.move, called]
      exact .aside rfl rfl
    · simp only [Session.move, called]
      exact .signalled priority ⟨item, some session.exchange.slots.size⟩ pick unclosed rfl rfl
  | tryReceive thread =>
    rcases session.exchange.tryReceive_cases with ⟨_, taken⟩ | ⟨entry, queue, popped, taken⟩
    · simp only [Session.move, taken]
      exact .aside rfl rfl
    · simp only [Session.move, taken]
      exact .took entry popped rfl
  | receive thread deadline =>
    rcases session.exchange.receive_cases thread deadline with ⟨_, result⟩ |
      ⟨_, ⟨entry, queue, popped, result⟩ | ⟨vacant, _, result⟩ | ⟨vacant, unclosed, _, result⟩⟩
    · simp only [Session.move, result]
      exact .aside rfl rfl
    · simp only [Session.move, result]
      exact .left entry thread deadline rfl popped rfl
    · simp only [Session.move, result]
      exact .gaveUp thread deadline rfl (Queue.pop?_eq_none.mp vacant) rfl rfl
    · simp only [Session.move, result]
      exact .parked thread deadline rfl (Queue.pop?_eq_none.mp vacant) unclosed rfl rfl
  | close => exact .closed rfl rfl
  | settle slot ruling =>
    simp only [Session.move]
    split <;> exact .aside rfl rfl
  | drop responder =>
    simp only [Session.move, drop]
    split
    · split <;> exact .aside rfl rfl
    · exact .aside rfl rfl
  | look | rouseCaller | expireCaller => exact .aside rfl rfl
  | rouse thread => exact .roused rfl (session.exchange.waiting.rouse_rouses session.now thread)
  | expire thread => exact .roused rfl (session.exchange.waiting.expire_rouses session.now thread)
  | passTo now =>
    simp only [Session.move]
    split <;> exact .aside rfl rfl

private theorem now_le_move (session : Session α β) (move : Move α β) : session.now ≤ (session.move move).now := by
  by_cases timed : ∃ now, move = .passTo now
  · obtain ⟨now, rfl⟩ := timed
    simp only [Session.move]
    split
    · assumption
    · exact Instant.le_refl _
  · rw [session.move_now move fun now same => timed ⟨now, same⟩]
    exact Instant.le_refl _

/-- What holds of the consumers all along. -/
structure Attended (session : Session α β) : Prop where
  apart : session.exchange.waiting.Apart
  covered : 0 < session.exchange.waiting.parkedCount →
    session.exchange.queue.size ≤ session.exchange.waiting.recheckingCount
  shut : session.exchange.queue.closed = true → session.exchange.waiting.parkedCount = 0
  punctual : ∀ waiter ∈ session.exchange.waiting.waiters, waiter.stance = .expired →
    waiter.deadline.any (· ≤ session.now) = true

theorem start_attended (now : Instant) : (start now : Session α β).Attended where
  apart := List.nodup_nil
  covered parked := absurd parked (Nat.lt_irrefl 0)
  shut _ := rfl
  punctual _ member := by cases member

private theorem Attended.punctual_roused (attended : session.Attended) {set : Sync.WaitSet} {now : Instant}
    (rouses : session.exchange.waiting.Rouses session.now set) (passed : session.now ≤ now) :
    ∀ waiter ∈ set.waiters, waiter.stance = .expired → waiter.deadline.any (· ≤ now) = true := by
  intro waiter member late
  obtain ⟨before, present, roused⟩ := rouses.mem member
  refine Sync.overdue_later passed ?_
  cases roused with
  | still => exact attended.punctual waiter present late
  | woken => cases late
  | expired overdue => exact overdue

private theorem Attended.roused (attended : session.Attended)
    (rouses : session.exchange.waiting.Rouses session.now after.exchange.waiting)
    (queue : after.exchange.queue = session.exchange.queue) (passed : session.now ≤ after.now) :
    after.Attended := by
  have less := rouses.parkedCount_le
  refine ⟨rouses.apart attended.apart, ?_, ?_, attended.punctual_roused rouses passed⟩
  · intro parked
    have covered := attended.covered (Nat.lt_of_lt_of_le parked less)
    have more := rouses.recheckingCount_le
    rw [queue]
    omega
  · intro shut
    have none := attended.shut ((congrArg Queue.closed queue).symm.trans shut)
    omega

/-- A consumer that goes away with an entry, or from an empty queue, leaves every entry its consumer. -/
private theorem Attended.left (attended : session.Attended) (thread : ThreadKey)
    (waiting : after.exchange.waiting = session.exchange.waiting.leave thread)
    (closed : after.exchange.queue.closed = session.exchange.queue.closed)
    (fewer : after.exchange.queue.size = 0 ∨ after.exchange.queue.size < session.exchange.queue.size)
    (passed : session.now ≤ after.now) : after.Attended := by
  have less := session.exchange.waiting.parkedCount_leave thread
  refine ⟨?_, ?_, ?_, ?_⟩ <;> rw [waiting]
  · exact attended.apart.leave thread
  · intro parked
    have covered := attended.covered (Nat.lt_of_lt_of_le parked less)
    have most := attended.apart.recheckingCount_leave thread
    omega
  · intro shut
    have none := attended.shut (closed.symm.trans shut)
    omega
  · intro waiter member
    have still : session.exchange.waiting.Rouses session.now session.exchange.waiting := .refl _ _
    exact attended.punctual_roused still passed waiter (List.mem_filter.mp member).1

theorem Attended.step (attended : session.Attended) {move : Move α β} (stir : session.Stir move after)
    (passed : session.now ≤ after.now) : after.Attended := by
  have still : session.exchange.waiting.Rouses session.now session.exchange.waiting := .refl _ _
  cases stir with
  | aside queue waiting => exact attended.roused (waiting ▸ still) queue passed
  | roused queue rouses => exact attended.roused rouses queue passed
  | left entry thread deadline look popped waiting =>
    exact attended.left thread waiting (Queue.closed_pop popped) (.inr (Queue.size_pop popped)) passed
  | gaveUp thread deadline look vacant queue waiting =>
    refine attended.left thread waiting (congrArg Queue.closed queue) (.inl ?_) passed
    rw [queue, Queue.size, vacant]
    rfl
  | signalled priority parcel pick unclosed queue waiting =>
    have rouses := session.exchange.waiting.signal_rouses session.now pick
    refine ⟨?_, ?_, ?_, ?_⟩ <;> rw [waiting]
    · exact rouses.apart attended.apart
    · intro parked
      -- If somebody is parked even now, the signal has woken somebody else, who answers for the new entry.
      have some := Nat.lt_of_lt_of_le parked rouses.parkedCount_le
      have covered := attended.covered some
      have more := session.exchange.waiting.recheckingCount_signal pick some
      have size : after.exchange.queue.size = session.exchange.queue.size + 1 := by
        rw [queue]
        simp [Queue.size, Queue.appended]
      omega
    · intro shut
      rw [queue, show (session.exchange.queue.appended priority parcel).closed = false from unclosed] at shut
      cases shut
    · exact attended.punctual_roused rouses passed
  | took entry popped waiting =>
    have fewer := Queue.size_pop popped
    refine ⟨?_, ?_, ?_, ?_⟩ <;> rw [waiting]
    · exact attended.apart
    · intro parked
      have covered := attended.covered parked
      omega
    · rw [Queue.closed_pop popped]
      exact attended.shut
    · exact attended.punctual_roused still passed
  | parked thread deadline look vacant unclosed queue waiting =>
    refine ⟨?_, ?_, ?_, ?_⟩ <;> rw [waiting]
    · exact attended.apart.park thread _
    · intro _
      rw [queue, Queue.size, vacant]
      exact Nat.zero_le _
    · intro shut
      rw [queue, unclosed] at shut
      cases shut
    · intro waiter member late
      rcases List.mem_append.mp member with old | new
      · exact attended.punctual_roused still passed waiter (List.mem_filter.mp old).1 late
      · rw [List.mem_singleton.mp new] at late
        cases late
  | closed queue waiting =>
    have awake := Sync.WaitSet.parkedCount_eq_zero.mpr session.exchange.waiting.broadcast_allAwake
    have rouses := session.exchange.waiting.broadcast_rouses session.now
    refine ⟨?_, ?_, ?_, ?_⟩ <;> rw [waiting]
    · exact rouses.apart attended.apart
    · intro parked
      omega
    · exact fun _ => awake
    · exact attended.punctual_roused rouses passed

theorem Attended.move (attended : session.Attended) (move : Move α β) : (session.move move).Attended :=
  attended.step (session.move_stir move) (session.now_le_move move)

private theorem Stir.rouses {move : Move α β} (stir : session.Stir move after)
    (blind : ∀ thread deadline, move ≠ .receive thread deadline) :
    session.exchange.waiting.Rouses session.now after.exchange.waiting := by
  cases stir with
  | aside _ waiting | took _ _ waiting =>
    rw [waiting]
    exact .refl session.now session.exchange.waiting
  | signalled _ _ pick _ _ waiting =>
    rw [waiting]
    exact session.exchange.waiting.signal_rouses session.now pick
  | closed _ waiting =>
    rw [waiting]
    exact session.exchange.waiting.broadcast_rouses session.now
  | roused _ rouses => exact rouses
  | left _ thread deadline look | gaveUp thread deadline look | parked thread deadline look =>
    exact absurd look (blind thread deadline)

end Session

/-- A consumer that blocks until there is an entry, the queue is closed or its deadline has passed. -/
structure Counter.Call where
  thread : ThreadKey
  deadline : Option Instant

/-- An exchange in use, with the blocking calls that have not come back. -/
structure Counter (α β : Type) where
  session : Session α β
  calls : List Counter.Call

/-- Consumers that block begin a call or look again in it; the deadline of one that has been woken may pass
before it looks. All else goes on aside. -/
inductive Counter.Move (α β : Type)
  | enter (call : Counter.Call)
  | recheck (thread : ThreadKey)
  | overtake (thread : ThreadKey)
  | aside (move : Session.Move α β)

namespace Counter

def start (now : Instant) : Counter α β := ⟨Session.start now, []⟩

/-- The call in which a consumer looks at the queue. A consumer is in one call at a time, and does not look
while it is parked. -/
def looking? (counter : Counter α β) : Move α β → Option Call
  | .enter call => if counter.calls.any (·.thread = call.thread) then none else some call
  | .recheck thread =>
    if counter.session.exchange.waiting.stance? thread = some .parked then none
    else counter.calls.find? (·.thread = thread)
  | .overtake _ | .aside _ => none

/-- What a look comes to. -/
def result (counter : Counter α β) (call : Call) : Receiving α :=
  (counter.session.exchange.receive call.thread call.deadline).1

/-- A call comes back unless it parks. -/
def look (counter : Counter α β) (call : Call) : Counter α β where
  session := counter.session.move (.receive call.thread call.deadline)
  calls :=
    let others := counter.calls.filter (·.thread ≠ call.thread)
    match counter.result call with
    | .parked => others ++ [call]
    | .received _ | .nothing => others

/-- The queue after a consumer has been overtaken by its deadline. -/
def overtake (session : Session α β) (thread : ThreadKey) : Session α β :=
  { session with exchange.waiting := session.exchange.waiting.overtake session.now thread }

/-- Make a move. A move that cannot be made changes nothing. -/
def move (counter : Counter α β) (move : Move α β) : Counter α β :=
  match counter.looking? move, move with
  | some call, _ => counter.look call
  | none, .overtake thread => { counter with session := overtake counter.session thread }
  | none, .aside (.receive ..) => counter
  | none, .aside other => { counter with session := counter.session.move other }
  | none, _ => counter

def moves (counter : Counter α β) (list : List (Move α β)) : Counter α β := list.foldl move counter

variable {counter : Counter α β}

/-- What holds of the calls all along: they are the waits that go on. -/
structure Kept (counter : Counter α β) : Prop where
  attended : counter.session.Attended
  waits : (counter.session.exchange.waiting.waiters.map fun waiter => (waiter.thread, waiter.deadline)).Perm
    (counter.calls.map fun call => (call.thread, Sync.limit call.deadline))

private theorem start_kept (now : Instant) : (start now : Counter α β).Kept :=
  ⟨Session.start_attended now, .refl _⟩

private theorem Kept.threads (kept : counter.Kept) :
    (counter.session.exchange.waiting.waiters.map (·.thread)).Perm (counter.calls.map (·.thread)) := by
  have same := kept.waits.map Prod.fst
  rwa [← Sync.WaitSet.threads_eq, List.map_map] at same

private theorem Kept.call_of_waiter (kept : counter.Kept) {waiter : Sync.Waiter}
    (member : waiter ∈ counter.session.exchange.waiting.waiters) :
    ∃ call ∈ counter.calls, call.thread = waiter.thread ∧ Sync.limit call.deadline = waiter.deadline := by
  have waits := kept.waits.mem_iff.mp
    (List.mem_map_of_mem (f := fun waiter : Sync.Waiter => (waiter.thread, waiter.deadline)) member)
  obtain ⟨call, present, same⟩ := List.mem_map.mp waits
  obtain ⟨own, limit⟩ := Prod.mk.inj same
  exact ⟨call, present, own, limit⟩

private theorem Kept.same_call (kept : counter.Kept) {first second : Call} (one : first ∈ counter.calls)
    (two : second ∈ counter.calls) (same : first.thread = second.thread) : first = second := by
  have apart := kept.threads.nodup_iff.mp kept.attended.apart
  exact eq_of_alike (List.pairwise_map.mp apart) Eq.symm one two same

private theorem Kept.looking (kept : counter.Kept) {move : Move α β} {call : Call}
    (looks : counter.looking? move = some call) :
    counter.session.exchange.waiting.stance? call.thread ≠ some .parked ∧
      ((∀ other ∈ counter.calls, other.thread ≠ call.thread) ∨ call ∈ counter.calls) := by
  cases move with
  | enter entered =>
    simp only [looking?] at looks
    split at looks
    · cases looks
    · rename_i alone
      cases looks
      have none : ∀ other ∈ counter.calls, other.thread ≠ call.thread := by simpa using alone
      refine ⟨?_, .inl none⟩
      intro parked
      obtain ⟨waiter, member, own, _⟩ := Sync.WaitSet.stance?_eq_some parked
      obtain ⟨other, present, same, _⟩ := kept.call_of_waiter member
      exact none other present (same.trans own)
  | recheck thread =>
    simp only [looking?] at looks
    split at looks
    · cases looks
    · rename_i awake
      obtain rfl : call.thread = thread := by simpa using List.find?_some looks
      exact ⟨awake, .inr (List.mem_of_find?_eq_some looks)⟩
  | overtake | aside => cases looks

private theorem Kept.others (kept : counter.Kept) (thread : ThreadKey) :
    ((counter.session.exchange.waiting.leave thread).waiters.map fun waiter => (waiter.thread, waiter.deadline)).Perm
      ((counter.calls.filter (·.thread ≠ thread)).map fun call => (call.thread, Sync.limit call.deadline)) := by
  have waits := kept.waits.filter fun key : ThreadKey × Option Instant => decide (key.1 ≠ thread)
  rwa [List.filter_map, List.filter_map] at waits

private theorem Kept.look (kept : counter.Kept) {move : Move α β} {call : Call}
    (looks : counter.looking? move = some call) : (counter.look call).Kept := by
  have others := kept.others call.thread
  refine ⟨kept.attended.move (.receive call.thread call.deadline), ?_⟩
  rcases counter.session.exchange.receive_cases call.thread call.deadline with ⟨parked, _⟩ |
    ⟨_, ⟨entry, queue, _, result⟩ | ⟨_, _, result⟩ | ⟨_, _, _, result⟩⟩
  · exact absurd parked (kept.looking looks).1
  · simp only [Counter.look, Counter.result, Session.move, result]
    exact others
  · simp only [Counter.look, Counter.result, Session.move, result]
    exact others
  · simp only [Counter.look, Counter.result, Session.move, result, Sync.WaitSet.park, List.map_append]
    exact others.append_right _

private theorem Kept.roused (kept : counter.Kept) {session : Session α β} (attended : session.Attended)
    (rouses : counter.session.exchange.waiting.Rouses counter.session.now session.exchange.waiting) :
    Kept { counter with session } := by
  refine ⟨attended, ?_⟩
  rw [rouses.keys]
  exact kept.waits

theorem Kept.move (kept : counter.Kept) (move : Move α β) : (counter.move move).Kept := by
  unfold Counter.move
  split
  · exact kept.look ‹_›
  · rename_i thread _
    have rouses := counter.session.exchange.waiting.overtake_rouses counter.session.now thread
    exact kept.roused (kept.attended.roused rouses rfl (Instant.le_refl _)) rouses
  · exact kept
  · rename_i other blind _
    exact kept.roused (kept.attended.move other) ((counter.session.move_stir other).rouses blind)
  · exact kept

theorem Kept.moves (kept : counter.Kept) (list : List (Move α β)) : (counter.moves list).Kept := by
  induction list generalizing counter with
  | nil => exact kept
  | cons move rest ih => exact ih (kept.move move)

private theorem Kept.patient (kept : counter.Kept) {move : Move α β} {call : Call}
    (looks : counter.looking? move = some call) (nothing : counter.result call = .nothing)
    (unclosed : counter.session.exchange.queue.closed = false) :
    counter.session.exchange.queue.entries = [] ∧ call.deadline.any (· ≤ counter.session.now) = true := by
  obtain ⟨awake, known⟩ := kept.looking looks
  unfold result at nothing
  rcases counter.session.exchange.receive_cases call.thread call.deadline with ⟨parked, _⟩ |
    ⟨_, ⟨entry, queue, _, result⟩ | ⟨vacant, futile, _⟩ | ⟨_, _, _, result⟩⟩
  · exact absurd parked awake
  · rw [result] at nothing
    cases nothing
  · refine ⟨Queue.pop?_eq_none.mp vacant, ?_⟩
    rcases futile with shut | late
    · rw [unclosed] at shut
      cases shut
    · obtain ⟨waiter, member, own, expired⟩ := Sync.WaitSet.stance?_eq_some late
      obtain ⟨other, present, same, limit⟩ := kept.call_of_waiter member
      have alike : other.thread = call.thread := same.trans own
      rcases known with fresh | going
      · exact absurd alike (fresh other present)
      · obtain rfl := kept.same_call present going alike
        have overdue := kept.attended.punctual waiter member expired
        rw [← limit] at overdue
        exact Sync.overdue_of_limit overdue
  · rw [result] at nothing
    cases nothing

/-- What is so of the consumers at a queue, at every moment. -/
structure Wakeful (counter : Counter α β) : Prop where
  waits : (counter.session.exchange.waiting.waiters.map fun waiter => (waiter.thread, waiter.deadline)).Perm
    (counter.calls.map fun call => (call.thread, Sync.limit call.deadline))
  -- While a consumer is parked, as many others as there are entries are about to look.
  covered : 0 < counter.session.exchange.waiting.parkedCount →
    counter.session.exchange.queue.size ≤ counter.session.exchange.waiting.recheckingCount
  shut : counter.session.exchange.queue.closed = true → counter.session.exchange.waiting.parkedCount = 0
  -- A consumer comes back with nothing from an open queue only after its deadline, when it has looked in
  -- vain.
  patient : ∀ move call, counter.looking? move = some call → counter.result call = .nothing →
    counter.session.exchange.queue.closed = false →
      counter.session.exchange.queue.entries = [] ∧ call.deadline.any (· ≤ counter.session.now) = true

/-- No wake-up is lost, in every interleaving of producers, consumers and those who close the queue. A
signal that wakes several waiters is one that wakes one, and wake-ups for no reason right after it. -/
theorem every_entry_has_a_consumer (now : Instant) (list : List (Move α β)) :
    ((start now).moves list : Counter α β).Wakeful := by
  have kept := (start_kept now).moves list
  exact {
    waits := kept.waits
    covered := kept.attended.covered
    shut := kept.attended.shut
    patient := fun _ _ looks nothing unclosed => kept.patient looks nothing unclosed }

end Counter

end TaskKernel.Exchange
