import Mathlib.Algebra.GroupWithZero.Nat
import TaskKernel.Proofs.Queue.Outcomes
import TaskKernel.Proofs.Queue.Waiting

/-!
Where an accepted entry is: in the queue, with the consumer that came back with it, or with the close that
gave it up. It is in one of these places, and once. Consumers come back with entries in their order.
-/
namespace TaskKernel

/-- An entry that leaves after another one that was there with it. -/
def Queue.Entry.Follows {α : Type} (entry first : Queue.Entry α) : Prop :=
  entry.priority < first.priority ∨ entry.priority = first.priority ∧ first.arrival < entry.arrival

namespace Exchange.Counter

variable {α β γ : Type} {counter : Counter α β} {list : List (Move α β)} {first entry : Queue.Entry (Parcel α)}

/-- The move of the exchange that a move amounts to, if any. -/
def made? (counter : Counter α β) (move : Move α β) : Option (Session.Move α β) :=
  match counter.looking? move, move with
  | some call, _ => some (.receive call.thread call.deadline)
  | none, .aside (.receive ..) => none
  | none, .aside other => some other
  | none, _ => none

def accepted? (counter : Counter α β) (move : Move α β) : Option (Queue.Entry (Parcel α)) :=
  (counter.made? move).bind counter.session.accepted?

def refusal? (counter : Counter α β) (move : Move α β) : Option Failure :=
  (counter.made? move).bind counter.session.refusal?

def returned? (counter : Counter α β) (move : Move α β) : Option (Queue.Entry (Parcel α)) :=
  (counter.made? move).bind counter.session.returned?

def dropped? (counter : Counter α β) (move : Move α β) : Option (List (Queue.Entry (Parcel α))) :=
  (counter.made? move).bind counter.session.dropped?

/-- What the moves of a run come to, in their order. -/
def outcomes (outcome? : Counter α β → Move α β → Option γ) (counter : Counter α β) : List (Move α β) → List γ
  | [] => []
  | move :: rest => (outcome? counter move).toList ++ outcomes outcome? (counter.move move) rest

private theorem mem_outcomes {outcome? : Counter α β → Move α β → Option γ} {outcome : γ} :
    outcome ∈ outcomes outcome? counter list ↔ ∃ earlier move later, list = earlier ++ move :: later ∧
      outcome? (counter.moves earlier) move = some outcome := by
  induction list generalizing counter with
  | nil => simp [outcomes]
  | cons head rest ih =>
    rw [outcomes, List.mem_append, Option.mem_toList, ih]
    constructor
    · rintro (now | ⟨earlier, move, later, rfl, then_⟩)
      · exact ⟨[], head, rest, rfl, now⟩
      · exact ⟨head :: earlier, move, later, rfl, then_⟩
    · rintro ⟨earlier, move, later, same, found⟩
      cases earlier with
      | nil =>
        cases same
        exact .inl found
      | cons _ earlier =>
        cases same
        exact .inr ⟨earlier, move, later, rfl, found⟩

/-- What grows by what each move comes to is, in the end, what it was and what all moves come to. -/
theorem outcomes_eq {outcome? : Counter α β → Move α β → Option γ} (gathered : Counter α β → List γ)
    (step : ∀ counter move, gathered (counter.move move) = gathered counter ++ (outcome? counter move).toList)
    (counter : Counter α β) (list : List (Move α β)) :
    gathered (counter.moves list) = gathered counter ++ outcomes outcome? counter list := by
  induction list generalizing counter with
  | nil => simp [outcomes, moves]
  | cons move rest ih =>
    rw [outcomes, ← List.append_assoc, ← step]
    exact ih (counter.move move)

private theorem move_of_made {move : Move α β} {made : Session.Move α β} (same : counter.made? move = some made) :
    (counter.move move).session = counter.session.move made := by
  unfold made? at same
  unfold Counter.move
  split at same <;> simp_all [look]

private theorem move_of_unmade {move : Move α β} (none : counter.made? move = none) :
    (counter.move move).session.exchange.queue = counter.session.exchange.queue ∧
      (counter.move move).session.history = counter.session.history := by
  cases looks : counter.looking? move with
  | some call => simp [made?, looks] at none
  | none =>
    cases move with
    | enter | recheck | overtake => simp [Counter.move, looks, overtake]
    | aside other => cases other <;> simp_all [made?, Counter.move]

private theorem recorded (counter : Counter α β) (move : Move α β) :
    Session.admitted (counter.move move).session.history =
        Session.admitted counter.session.history ++ (counter.accepted? move).toList ∧
      Session.taken (counter.move move).session.history =
        Session.taken counter.session.history ++ (counter.returned? move).toList ∧
      Session.closings (counter.move move).session.history =
        Session.closings counter.session.history ++ (counter.dropped? move).toList := by
  unfold accepted? returned? dropped?
  cases made : counter.made? move with
  | none => simp [(move_of_unmade made).2]
  | some other =>
    rw [move_of_made made]
    exact counter.session.move_recorded other

private theorem move_step (counter : Counter α β) (move : Move α β) : counter.session.Step
    (counter.move move).session := by
  unfold Counter.move
  split
  · rename_i call _
    exact counter.session.move_step (.receive call.thread call.deadline)
  · exact .waited _
  · exact .refl counter.session
  · exact counter.session.move_step _
  · exact .refl counter.session

private theorem moves_keep {kept : Session α β → Prop}
    (step : ∀ session after, kept session → session.Step after → kept after)
    (initial : kept counter.session) (list : List (Move α β)) : kept (counter.moves list).session := by
  induction list generalizing counter with
  | nil => exact initial
  | cons move rest ih => exact ih (step _ _ initial (counter.move_step move))

private theorem shut_moves (closed : counter.session.exchange.queue.closed = true) (list : List (Move α β)) :
    (counter.moves list).session.exchange.queue.closed = true := by
  let shut (session : Session α β) : Prop := session.exchange.queue.closed = true
  have step (session after : Session α β) (closed : shut session) (step : session.Step after) : shut after :=
    step.shut closed
  exact moves_keep step closed list

/-- A run from the start. -/
def reached (now : Instant) (list : List (Move α β)) : Counter α β := (start now).moves list

/-- The entries as which posts have been accepted, in the order of their acceptance. -/
def accepted (now : Instant) (list : List (Move α β)) : List (Queue.Entry (Parcel α)) :=
  (start now).outcomes accepted? list

/-- The entries with which consumers have come back. -/
def returned (now : Instant) (list : List (Move α β)) : List (Queue.Entry (Parcel α)) :=
  (start now).outcomes returned? list

/-- What each close has given up. -/
def closings (now : Instant) (list : List (Move α β)) : List (List (Queue.Entry (Parcel α))) :=
  (start now).outcomes dropped? list

variable (now : Instant)

private theorem reached_books (list : List (Move α β)) : (reached now list).session.Books :=
  moves_keep (fun _ _ books step => books.step step) (Session.start_books now) list

private theorem admitted_reached (list : List (Move α β)) :
    Session.admitted (reached now list).session.history = accepted now list :=
  outcomes_eq (fun counter => Session.admitted counter.session.history)
    (fun counter move => (counter.recorded move).1) (start now) list

private theorem taken_reached (list : List (Move α β)) :
    Session.taken (reached now list).session.history = returned now list :=
  outcomes_eq (fun counter => Session.taken counter.session.history)
    (fun counter move => (counter.recorded move).2.1) (start now) list

private theorem discarded_reached (list : List (Move α β)) :
    Session.discarded (reached now list).session.history = (closings now list).flatten := by
  rw [Session.discarded_eq]
  congr 1
  exact outcomes_eq (fun counter => Session.closings counter.session.history)
    (fun counter move => (counter.recorded move).2.2) (start now) list

/-- All that is queued leaves after an entry that has left. -/
def Behind (counter : Counter α β) (first : Queue.Entry (Parcel α)) : Prop :=
  ∀ entry ∈ counter.session.exchange.queue.entries, entry.Follows first

private theorem popped_of_returned {move : Move α β} (came : counter.returned? move = some entry) :
    counter.session.exchange.queue.pop? = some (entry, (counter.move move).session.exchange.queue) := by
  obtain ⟨made, same, came⟩ := Option.bind_eq_some_iff.mp came
  rw [move_of_made same]
  exact Session.returned?_eq_some came

private theorem behind_returned {move : Move α β} (numbered : counter.session.exchange.queue.Numbered)
    (came : counter.returned? move = some first) : (counter.move move).Behind first := by
  intro entry left
  obtain ⟨found, after⟩ := Queue.pop?_eq_some (popped_of_returned came)
  rw [after] at left
  obtain ⟨present, apart⟩ := List.mem_filter.mp left
  refine numbered.front_precedes found present ?_
  rintro rfl
  simp at apart

theorem Behind.move (behind : counter.Behind first) {move : Move α β} (none : counter.accepted? move = none) :
    (counter.move move).Behind first := by
  intro entry left
  apply behind
  cases made : counter.made? move with
  | none => rwa [(move_of_unmade made).1] at left
  | some other =>
    rw [move_of_made made] at left
    exact Session.entries_move (by simpa [accepted?, made] using none) left

theorem Behind.moves (behind : counter.Behind first) (none : counter.outcomes accepted? list = []) :
    (counter.moves list).Behind first := by
  induction list generalizing counter with
  | nil => exact behind
  | cons move rest ih =>
    obtain ⟨head, tail⟩ := List.append_eq_nil_iff.mp none
    exact ih (behind.move (by simpa using head)) tail

/-- The item of a post. -/
def Move.item? : Move α β → Option α
  | .aside move => move.item?
  | .enter _ | .recheck _ | .overtake _ => none

theorem accepted?_eq_some {move : Move α β} (accepted : counter.accepted? move = some entry) :
    counter.session.exchange.queue.closed = false ∧ move.item? = some entry.item.item := by
  obtain ⟨made, same, accepted⟩ := Option.bind_eq_some_iff.mp accepted
  obtain ⟨unclosed, _, item⟩ := Session.accepted?_eq_some accepted
  refine ⟨unclosed, ?_⟩
  unfold made? at same
  split at same
  all_goals cases same
  · cases item
  · exact item

theorem refusal?_eq_some {move : Move α β} {failure : Failure} (refused : counter.refusal? move = some failure) :
    failure.fault = .queueClosed ∧ counter.accepted? move = none ∧
      (counter.move move).session = counter.session := by
  obtain ⟨made, same, refused⟩ := Option.bind_eq_some_iff.mp refused
  obtain ⟨fault, _, unaccepted, unchanged⟩ := Session.refusal?_eq_some refused
  refine ⟨fault, ?_, ?_⟩
  · simpa [accepted?, same] using unaccepted
  · rw [move_of_made same, unchanged]

/-- What is so of the entries of a run. -/
structure Custody (now : Instant) (list : List (Move α β)) : Prop where
  -- The accepted entries are those that are queued, those with which consumers have come back, and those that
  -- closes have given up.
  shared : (accepted now list).Perm ((reached now list).session.exchange.queue.entries ++
    (returned now list ++ (closings now list).flatten))
  numbered : (accepted now list).map (·.arrival) = List.range (accepted now list).length
  once : ∀ entry ∈ accepted now list,
    Queue.tally entry.arrival (reached now list).session.exchange.queue.entries +
      (Queue.tally entry.arrival (returned now list) +
        Queue.tally entry.arrival (closings now list).flatten) = 1
  count : (accepted now list).length = (returned now list).length +
    ((closings now list).map List.length).sum + (reached now list).session.exchange.queue.size
  refused : ∀ move failure, (reached now list).refusal? move = some failure →
    failure.fault = .queueClosed ∧ (reached now list).accepted? move = none ∧
      ((reached now list).move move).session = (reached now list).session
  unposted : ∀ item, (∀ earlier move later, list = earlier ++ move :: later → move.item? = some item →
    ∃ failure, (reached now earlier).refusal? move = some failure) →
      ∀ entry ∈ returned now list, entry.item.item ≠ item
  shut : .aside .close ∈ list → ∀ move, (reached now list).accepted? move = none
  -- Of two entries with which consumers come back while none is accepted, the later one is less urgent, or as
  -- urgent and accepted later.
  ordered : ∀ earlier move between next later first entry,
    list = earlier ++ move :: (between ++ next :: later) →
      (reached now earlier).returned? move = some first →
        ((reached now earlier).move move).outcomes accepted? between = [] →
          (((reached now earlier).move move).moves between).returned? next = some entry → entry.Follows first

private theorem unaccepted_of_closed (closed : counter.session.exchange.queue.closed = true) (move : Move α β) :
    counter.accepted? move = none := by
  cases accepted : counter.accepted? move with
  | none => rfl
  | some entry =>
    rw [(accepted?_eq_some accepted).1] at closed
    cases closed

private theorem closed_of_mem (closes : .aside .close ∈ list) :
    (counter.moves list).session.exchange.queue.closed = true := by
  obtain ⟨earlier, later, rfl⟩ := List.append_of_mem closes
  rw [moves, List.foldl_append, List.foldl_cons]
  exact shut_moves rfl later

/-- Every accepted entry is kept, and kept once, in every interleaving of producers, consumers and those who
close the queue. -/
theorem every_entry_kept_once (list : List (Move α β)) : Custody now list := by
  have books := reached_books now list
  have arrivals := books.arrivals
  have shared := books.shared
  rw [admitted_reached] at arrivals shared
  rw [taken_reached, discarded_reached] at shared
  refine ⟨shared, ?_, ?_, ?_, fun _ _ => refusal?_eq_some, ?_, ?_, ?_⟩
  · have given := congrArg List.length arrivals
    rw [List.length_map, List.length_range] at given
    rw [arrivals, given]
  · intro entry member
    rw [← admitted_reached] at member
    have tally := books.tally member
    rwa [taken_reached, discarded_reached] at tally
  · have lengths := shared.length_eq
    rw [List.length_append, List.length_append, List.length_flatten] at lengths
    rw [lengths, Queue.size]
    omega
  · intro item refused entry came
    rintro rfl
    -- What a consumer comes back with has been accepted by some post, and that post was not refused.
    have member := shared.mem_iff.mpr (List.mem_append_right _ (List.mem_append_left _ came))
    obtain ⟨earlier, move, later, split, accepted⟩ := mem_outcomes.mp member
    obtain ⟨failure, refusal⟩ := refused earlier move later split (accepted?_eq_some accepted).2
    have unaccepted := (refusal?_eq_some refusal).2.1
    rw [reached, accepted] at unaccepted
    cases unaccepted
  · exact fun closes => unaccepted_of_closed (closed_of_mem closes)
  · intro earlier move between next later first entry _ one none two
    have behind := (behind_returned (reached_books now earlier).numbered one).moves none
    obtain ⟨found, _⟩ := Queue.pop?_eq_some (popped_of_returned two)
    exact behind entry (Queue.front?_mem found)

end Exchange.Counter

end TaskKernel
