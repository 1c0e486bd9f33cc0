import TaskKernel.Proofs.Queue.Accounting

/-!
Turns at a queue. What has been taken goes before all that is left, so whatever was admitted before it with
at least its priority has been taken too.
-/
namespace TaskKernel.Exchange.Session

variable {α β : Type} {session after : Session α β} {first entry : Queue.Entry (Parcel α)}

/-- Nothing is left, in the queue or discarded, that should have gone before what has been taken. -/
structure Turns (session : Session α β) : Prop where
  before : ∀ first ∈ taken session.history,
    ∀ entry ∈ session.exchange.queue.entries ++ discarded session.history,
      entry.priority < first.priority ∨ first.arrival < entry.arrival
  kept : session.exchange.queue.closed = false → discarded session.history = []
  closed : session.exchange.queue.closed = true → session.exchange.queue.entries = []

private theorem start_turns (now : Instant) : (start now : Session α β).Turns where
  before _ past := by cases past
  kept _ := rfl
  closed _ := rfl

private theorem Turns.framed (turns : session.Turns) (queue : after.exchange.queue = session.exchange.queue)
    (passed : taken after.history = taken session.history)
    (gone : discarded after.history = discarded session.history) : after.Turns where
  before := by
    rw [queue, passed, gone]
    exact turns.before
  kept := by
    rw [queue, gone]
    exact turns.kept
  closed := by
    rw [queue]
    exact turns.closed

private theorem Turns.admitted (turns : session.Turns) (books : session.Books) (priority : Priority) (parcel : Parcel α)
    (unclosed : session.exchange.queue.closed = false)
    (queue : after.exchange.queue = session.exchange.queue.appended priority parcel)
    (passed : taken after.history = taken session.history)
    (gone : discarded after.history = discarded session.history) : after.Turns where
  before := by
    rw [passed, gone, turns.kept unclosed, List.append_nil, queue]
    intro first past entry left
    rcases List.mem_append.mp left with old | new
    · exact turns.before first past entry (List.mem_append_left _ old)
    · rw [List.mem_singleton.mp new]
      exact .inr (books.arrival_lt (books.admitted_of_taken past))
  kept _ := gone.trans (turns.kept unclosed)
  closed shut := by
    rw [queue, show (session.exchange.queue.appended priority parcel).closed = false from unclosed] at shut
    cases shut

private theorem Turns.handed (turns : session.Turns) (books : session.Books) (thread : ThreadKey)
    {queue : Queue (Parcel α)} (waiting : Sync.WaitSet)
    (popped : session.exchange.queue.pop? = some (entry, queue)) :
    Turns ({ session with exchange := { session.exchange with queue, waiting } }.hand thread entry) := by
  obtain ⟨found, rfl⟩ := Queue.pop?_eq_some popped
  have present := Queue.front?_mem found
  have unclosed : session.exchange.queue.closed = false := by
    rw [← Bool.not_eq_true]
    intro shut
    rw [turns.closed shut] at present
    cases present
  have none := turns.kept unclosed
  refine ⟨?_, fun _ => by simpa [hand] using none, fun shut => ?_⟩
  · simp only [hand, taken_append, discarded_append, Event.taken?, Event.discards, Option.toList_some, none,
      List.append_nil]
    intro first past other left
    obtain ⟨still, apart⟩ := List.mem_filter.mp left
    rcases List.mem_append.mp past with old | new
    · exact turns.before first old other (List.mem_append_left _ still)
    · obtain rfl := List.mem_singleton.mp new
      have different : other ≠ first := by
        rintro rfl
        simp at apart
      rcases books.numbered.front_precedes found still different with less | ⟨_, later⟩
      · exact .inl less
      · exact .inr later
  · rw [show session.exchange.queue.closed = true from shut] at unclosed
    cases unclosed

private theorem Turns.shut (turns : session.Turns) : (session.move .close).Turns where
  before := by
    simp only [Session.move, close, Queue.close, taken_append, discarded_append, Event.taken?, Event.discards,
      Option.toList_none, List.append_nil, List.nil_append]
    intro first past entry left
    exact turns.before first past entry (List.mem_append.mpr (List.mem_append.mp left).symm)
  kept unclosed := by cases unclosed
  closed _ := rfl

theorem Turns.step (turns : session.Turns) (books : session.Books) (step : session.Step after) : after.Turns := by
  cases step with
  | waited | caller | passed => exact turns.framed rfl rfl rfl
  | posted priority item pick unclosed =>
    exact turns.admitted books priority ⟨item, none⟩ unclosed rfl (by simp [note]) (by simp [note])
  | called priority item deadline pick unclosed =>
    exact turns.admitted books priority ⟨item, _⟩ unclosed rfl (by simp [note]) (by simp [note])
  | handed thread entry queue waiting popped => exact turns.handed books thread waiting popped
  | closed => exact turns.shut
  | settled slot ruling held => exact turns.framed rfl (by simp [settle]) (by simp [settle])
  | dropped responder held =>
    refine turns.framed ?_ (by simp [drop]) (by simp [drop])
    simp only [drop]
    split <;> rfl

theorem moves_turns (now : Instant) (list : List (Move α β)) : ((start now).moves list).Turns := by
  let kept (session : Session α β) : Prop := session.Books ∧ session.Turns
  have step (session after : Session α β) (before : kept session) (step : session.Step after) : kept after :=
    ⟨before.1.step step, before.2.step before.1 step⟩
  exact (moves_keep step ⟨start_books now, start_turns now⟩ list).2

/-- What was admitted before an entry that has been taken, and is at least as urgent, has been taken. -/
theorem Turns.taken_before (turns : session.Turns) (books : session.Books) (past : first ∈ taken session.history)
    (member : entry ∈ Session.admitted session.history) (earlier : entry.arrival < first.arrival)
    (urgent : first.priority ≤ entry.priority) : entry ∈ taken session.history := by
  rcases List.mem_append.mp (books.shared.mem_iff.mp member) with queued | elsewhere
  · rcases turns.before first past entry (List.mem_append_left _ queued) with less | later
    · exact absurd urgent (Nat.not_le.mpr less)
    · omega
  · rcases List.mem_append.mp elsewhere with taken | gone
    · exact taken
    · rcases turns.before first past entry (List.mem_append_right _ gone) with less | later
      · exact absurd urgent (Nat.not_le.mpr less)
      · omega

end TaskKernel.Exchange.Session
