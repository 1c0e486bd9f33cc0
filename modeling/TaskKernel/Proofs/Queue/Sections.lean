import TaskKernel.Proofs.Queue.Order
import TaskKernel.Queue.Exchange

/-!
What each section of an exchange can do. The cases are complete, so that what is kept by all of them is
kept by every interleaving.
-/
namespace TaskKernel.Exchange

variable {α β : Type}

/-- The exchange with one more entry, for which one consumer is woken. -/
def admitted (exchange : Exchange α β) (priority : Priority) (parcel : Parcel α) (pick : Nat) :
    Exchange α β :=
  { exchange with
    queue := exchange.queue.appended priority parcel
    waiting := exchange.waiting.signal pick }

@[simp] theorem admitted_queue (exchange : Exchange α β) (priority : Priority) (parcel : Parcel α)
    (pick : Nat) : (exchange.admitted priority parcel pick).queue =
      exchange.queue.appended priority parcel := rfl

theorem enqueue_cases (exchange : Exchange α β) (operation : Operation) (priority : Priority)
    (parcel : Parcel α) (pick : Nat) :
    (exchange.queue.closed = true ∧
      exchange.enqueue operation priority parcel pick = .error ⟨.queueClosed, operation⟩) ∨
    (exchange.queue.closed = false ∧
      exchange.enqueue operation priority parcel pick = .ok (exchange.admitted priority parcel pick)) := by
  cases closed : exchange.queue.closed with
  | true => exact .inl ⟨rfl, by rw [enqueue, Queue.push?_of_closed closed]⟩
  | false => exact .inr ⟨rfl, by rw [enqueue, Queue.push?_of_open closed, admitted]⟩

theorem push_cases (exchange : Exchange α β) (priority : Priority) (item : α) (pick : Nat) :
    (exchange.queue.closed = true ∧
      exchange.push priority item pick = .error ⟨.queueClosed, .queuePush⟩) ∨
    (exchange.queue.closed = false ∧
      exchange.push priority item pick = .ok (exchange.admitted priority ⟨item, none⟩ pick)) :=
  exchange.enqueue_cases .queuePush priority ⟨item, none⟩ pick

/-- The exchange with one more entry, at whose slot a caller is about to look. -/
def admittedCaller (exchange : Exchange α β) (priority : Priority) (item : α)
    (deadline : Option Instant) (pick : Nat) : Exchange α β :=
  { exchange.admitted priority ⟨item, some exchange.slots.size⟩ pick with
    slots := exchange.slots.push ⟨Sync.limit deadline, none, .looking⟩ }

@[simp] theorem admittedCaller_queue (exchange : Exchange α β) (priority : Priority) (item : α)
    (deadline : Option Instant) (pick : Nat) :
    (exchange.admittedCaller priority item deadline pick).queue =
      exchange.queue.appended priority ⟨item, some exchange.slots.size⟩ := rfl

@[simp] theorem admittedCaller_slots (exchange : Exchange α β) (priority : Priority) (item : α)
    (deadline : Option Instant) (pick : Nat) :
    (exchange.admittedCaller priority item deadline pick).slots =
      exchange.slots.push ⟨Sync.limit deadline, none, .looking⟩ := rfl

theorem call_cases (exchange : Exchange α β) (priority : Priority) (item : α)
    (deadline : Option Instant) (pick : Nat) :
    (exchange.queue.closed = true ∧
      exchange.call priority item deadline pick = .error ⟨.queueClosed, .queuePushAndWait⟩) ∨
    (exchange.queue.closed = false ∧ exchange.call priority item deadline pick =
      .ok (exchange.slots.size, exchange.admittedCaller priority item deadline pick)) := by
  rcases exchange.enqueue_cases .queuePushAndWait priority ⟨item, some exchange.slots.size⟩ pick with
    ⟨closed, queued⟩ | ⟨closed, queued⟩
  · exact .inl ⟨closed, by rw [call, queued]; rfl⟩
  · exact .inr ⟨closed, by rw [call, queued]; rfl⟩

theorem tryReceive_cases (exchange : Exchange α β) :
    (exchange.queue.pop? = none ∧ exchange.tryReceive = (none, exchange)) ∨
    ∃ entry queue, exchange.queue.pop? = some (entry, queue) ∧
      exchange.tryReceive = (some entry, { exchange with queue }) := by
  unfold tryReceive
  cases popped : exchange.queue.pop? with
  | none => exact .inl ⟨rfl, rfl⟩
  | some taken => exact .inr ⟨taken.1, taken.2, rfl, rfl⟩

theorem receive_cases (exchange : Exchange α β) (thread : ThreadKey) (deadline : Option Instant) :
    (exchange.waiting.stance? thread = some .parked ∧
      exchange.receive thread deadline = (.parked, exchange)) ∨
    (exchange.waiting.stance? thread ≠ some .parked ∧
      ((∃ entry queue, exchange.queue.pop? = some (entry, queue) ∧
        exchange.receive thread deadline =
          (.received entry, { exchange with queue, waiting := exchange.waiting.leave thread })) ∨
      (exchange.queue.pop? = none ∧
        (exchange.queue.closed = true ∨ exchange.waiting.stance? thread = some .expired) ∧
        exchange.receive thread deadline =
          (.nothing, { exchange with waiting := exchange.waiting.leave thread })) ∨
      (exchange.queue.pop? = none ∧ exchange.queue.closed = false ∧
        exchange.waiting.stance? thread ≠ some .expired ∧
        exchange.receive thread deadline = (.parked,
          { exchange with waiting := exchange.waiting.park thread (Sync.limit deadline) })))) := by
  by_cases parked : exchange.waiting.stance? thread = some .parked
  · exact .inl ⟨parked, by simp [receive, parked]⟩
  · refine .inr ⟨parked, ?_⟩
    cases popped : exchange.queue.pop? with
    | some taken =>
      refine .inl ⟨taken.1, taken.2, rfl, ?_⟩
      unfold receive
      split
      · exact absurd ‹_› parked
      · simp [popped]
    | none =>
      right
      by_cases futile : exchange.queue.closed = true ∨ exchange.waiting.stance? thread = some .expired
      · refine .inl ⟨rfl, futile, ?_⟩
        unfold receive
        split
        · exact absurd ‹_› parked
        · simp only [popped]
          rw [if_pos futile]
      · have unclosed : exchange.queue.closed = false := by simpa using fun closed => futile (.inl closed)
        refine .inr ⟨rfl, unclosed, fun late => futile (.inr late), ?_⟩
        unfold receive
        split
        · exact absurd ‹_› parked
        · simp only [popped]
          rw [if_neg futile]

end TaskKernel.Exchange
