import TaskKernel.Proofs.Queue.Session

/-!
The books of an exchange in use. Every admitted entry is queued, taken or discarded, and nothing is so
twice; every slot waits in the queue, waits with an open responder, or has been filled, once.
-/
namespace TaskKernel

/-- How many entries have a number of arrival. -/
def Queue.tally {α : Type} (arrival : Nat) (entries : List (Queue.Entry α)) : Nat :=
  entries.countP (·.arrival == arrival)

namespace Exchange

variable {α β : Type}

/-- What a caller can do at its slot while the clock shows `now`. -/
inductive CallerStep (now : Instant) : Slot β → Slot β → Prop
  | leave (response : Response β) (slot : Slot β) (filled : slot.answer = some response)
      (awake : slot.caller = .looking ∨ slot.caller = .expired) :
      CallerStep now slot { slot with caller := .gone response }
  | giveUp (slot : Slot β) (empty : slot.answer = none) (late : slot.caller = .expired) :
      CallerStep now slot { slot with caller := .gone .timedOut }
  | park (slot : Slot β) (empty : slot.answer = none) : CallerStep now slot { slot with caller := .parked }
  | wake (slot : Slot β) (parked : slot.caller = .parked) :
      CallerStep now slot { slot with caller := .looking }
  | expire (slot : Slot β) (parked : slot.caller = .parked)
      (overdue : slot.deadline.any (· ≤ now) = true) : CallerStep now slot { slot with caller := .expired }
  | stay (slot : Slot β) : CallerStep now slot slot

private theorem look_step (now : Instant) (slot : Slot β) :
    CallerStep now slot { slot with caller := looked slot } := by
  unfold looked
  split
  · exact .leave _ slot ‹_› (.inl ‹_›)
  · exact .park slot ‹_›
  · exact .leave _ slot ‹_› (.inr ‹_›)
  · exact .giveUp slot ‹_› ‹_›
  · exact .stay slot

/-- The slot after it has been filled. -/
def filled (response : Response β) (slot : Slot β) : Slot β :=
  { slot with
    answer := some (slot.answer.getD response)
    caller := match slot.caller with
      | .parked => .looking
      | other => other }

@[simp] theorem fill_queue (exchange : Exchange α β) (number : Nat) (response : Response β) :
    (exchange.fill number response).queue = exchange.queue := rfl

theorem fill_slots (exchange : Exchange α β) (number : Nat) (response : Response β) :
    (exchange.fill number response).slots = exchange.slots.modify number (filled response) := rfl

namespace Session

/-- What a move can do. -/
inductive Step (session : Session α β) : Session α β → Prop
  | waited (waiting : Sync.WaitSet) :
      Step session { session with exchange := { session.exchange with waiting } }
  | posted (priority : Priority) (item : α) (pick : Nat)
      (unclosed : session.exchange.queue.closed = false) :
      Step session ({ session with exchange := session.exchange.admitted priority ⟨item, none⟩ pick }.note
        (.admitted ⟨priority, session.exchange.queue.arrivals, ⟨item, none⟩⟩ none))
  | called (priority : Priority) (item : α) (deadline : Option Instant) (pick : Nat)
      (unclosed : session.exchange.queue.closed = false) :
      Step session ({ session with
        exchange := session.exchange.admittedCaller priority item deadline pick }.note
        (.admitted ⟨priority, session.exchange.queue.arrivals, ⟨item, some session.exchange.slots.size⟩⟩
          deadline))
  | handed (thread : ThreadKey) (entry : Queue.Entry (Parcel α)) (queue : Queue (Parcel α))
      (waiting : Sync.WaitSet) (popped : session.exchange.queue.pop? = some (entry, queue)) :
      Step session
        ({ session with exchange := { session.exchange with queue, waiting } }.hand thread entry)
  | closed : Step session (session.move .close)
  | settled (slot : Nat) (ruling : Ruling β) (held : ⟨slot, false, false⟩ ∈ session.responders) :
      Step session (session.settle slot ruling)
  | dropped (responder : Responder) (held : responder ∈ session.responders) :
      Step session (session.drop responder)
  | caller (number : Nat) (change : Slot β → Slot β)
      (allowed : ∀ slot, CallerStep session.now slot (change slot)) :
      Step session { session with
        exchange := { session.exchange with slots := session.exchange.slots.modify number change } }
  | passed (now : Instant) (later : session.now ≤ now) : Step session { session with now }

theorem Step.refl (session : Session α β) : session.Step session := .waited session.exchange.waiting

theorem move_step (session : Session α β) (move : Move α β) : session.Step (session.move move) := by
  cases move with
  | push priority item pick =>
    rcases session.exchange.push_cases priority item pick with ⟨_, pushed⟩ | ⟨unclosed, pushed⟩
    · simpa only [Session.move, pushed] using .refl session
    · simpa only [Session.move, pushed] using .posted priority item pick unclosed
  | call priority item deadline pick =>
    rcases session.exchange.call_cases priority item deadline pick with ⟨_, called⟩ | ⟨unclosed, called⟩
    · simpa only [Session.move, called] using .refl session
    · simpa only [Session.move, called] using .called priority item deadline pick unclosed
  | tryReceive thread =>
    rcases session.exchange.tryReceive_cases with ⟨_, taken⟩ | ⟨entry, queue, popped, taken⟩
    · simpa only [Session.move, taken] using .refl session
    · simpa only [Session.move, taken] using
        .handed thread entry queue session.exchange.waiting popped
  | receive thread deadline =>
    rcases session.exchange.receive_cases thread deadline with ⟨_, result⟩ |
      ⟨_, ⟨entry, queue, popped, result⟩ | ⟨_, _, result⟩ | ⟨_, _, _, result⟩⟩
    · simpa only [Session.move, result] using .refl session
    · simpa only [Session.move, result] using .handed thread entry queue _ popped
    · simpa only [Session.move, result] using .waited _
    · simpa only [Session.move, result] using .waited _
  | close => exact .closed
  | settle slot ruling =>
    simp only [Session.move]
    split
    · exact .settled slot ruling ‹_›
    · exact .refl session
  | drop responder =>
    simp only [Session.move]
    split
    · exact .dropped responder ‹_›
    · exact .refl session
  | look slot => exact .caller slot _ (look_step session.now)
  | rouseCaller number =>
    refine .caller number _ ?_
    intro slot
    split
    · exact .wake slot ‹_›
    · exact .stay slot
  | expireCaller number =>
    refine .caller number _ ?_
    intro slot
    split
    · split
      · exact .expire slot ‹_› ‹_›
      · exact .stay slot
    · exact .stay slot
  | rouse thread => exact .waited _
  | expire thread => exact .waited _
  | passTo now =>
    simp only [Session.move]
    split
    · exact .passed now ‹_›
    · exact .refl session

theorem moves_keep {kept : Session α β → Prop}
    (step : ∀ session after, kept session → session.Step after → kept after)
    {session : Session α β} (initial : kept session) (list : List (Move α β)) :
    kept (session.moves list) := by
  induction list generalizing session with
  | nil => exact initial
  | cons move rest ih => exact ih (step _ _ initial (session.move_step move))

private theorem Step.history {session after : Session α β} (step : session.Step after) :
    session.history <+: after.history := by
  cases step with
  | waited | caller | passed => exact List.prefix_rfl
  | posted | called | handed | closed | settled | dropped => exact List.prefix_append _ _

theorem moves_history (session : Session α β) (list : List (Move α β)) :
    session.history <+: (session.moves list).history := by
  let kept (after : Session α β) : Prop := session.history <+: after.history
  have step (before after : Session α β) (early : kept before) (step : before.Step after) : kept after :=
    early.trans step.history
  exact moves_keep step List.prefix_rfl list

@[simp] theorem slotsOf_nil : slotsOf ([] : List (Queue.Entry (Parcel α))) = [] := rfl

@[simp] theorem slotsOf_append (first second : List (Queue.Entry (Parcel α))) :
    slotsOf (first ++ second) = slotsOf first ++ slotsOf second := List.filterMap_append

@[simp] theorem slotsOf_cons (entry : Queue.Entry (Parcel α)) (rest : List (Queue.Entry (Parcel α))) :
    slotsOf (entry :: rest) = entry.item.slot.toList ++ slotsOf rest := by
  cases slot : entry.item.slot <;> simp [slotsOf, slot]

@[simp] theorem openSlots_append (first second : List Responder) :
    openSlots (first ++ second) = openSlots first ++ openSlots second := by simp [openSlots]

@[simp] theorem openSlots_fresh (slots : List Nat) (discarded : Bool) :
    openSlots (slots.map (⟨·, discarded, false⟩)) = slots := by
  simp [openSlots, List.filter_map, Function.comp_def]

private theorem openSlots_nil : openSlots [] = [] := rfl

private theorem openSlots_open (slot : Nat) (discarded : Bool) (rest : List Responder) :
    openSlots (⟨slot, discarded, false⟩ :: rest) = slot :: openSlots rest := rfl

private theorem openSlots_done (slot : Nat) (discarded : Bool) (rest : List Responder) :
    openSlots (⟨slot, discarded, true⟩ :: rest) = openSlots rest := rfl

private theorem count_openSlots_erase {responders : List Responder} {responder : Responder}
    (held : responder ∈ responders) (number : Nat) :
    (openSlots responders).count number =
      (openSlots [responder]).count number + (openSlots (responders.erase responder)).count number := by
  have moved : (openSlots responders).Perm (openSlots ([responder] ++ responders.erase responder)) :=
    ((List.perm_cons_erase held).filter _).map _
  rw [moved.count_eq, openSlots_append, List.count_append]

/-- What the history says agrees with what the exchange holds. -/
structure Books (session : Session α β) : Prop where
  numbered : session.exchange.queue.Numbered
  arrivals : (admitted session.history).map (·.arrival) = List.range session.exchange.queue.arrivals
  shared : (admitted session.history).Perm
    (session.exchange.queue.entries ++ (taken session.history ++ discarded session.history))
  numbers : slotsOf (admitted session.history) = List.range session.exchange.slots.size
  once : (slotsOf session.exchange.queue.entries ++ (openSlots session.responders ++
    (fills session.history).map Prod.fst)).Perm (List.range session.exchange.slots.size)

theorem start_books (now : Instant) : (start now : Session α β).Books where
  numbered := Queue.empty_numbered
  arrivals := rfl
  shared := .nil
  numbers := rfl
  once := .nil

private theorem Books.admitted {session : Session α β} (books : session.Books) (priority : Priority)
    (parcel : Parcel α) (deadline : Option Instant) (pick : Nat) (slots : Array (Slot β))
    (numbers : List.range slots.size = List.range session.exchange.slots.size ++ parcel.slot.toList) :
    Books ({ session with
      exchange := { session.exchange.admitted priority parcel pick with slots } }.note
        (.admitted ⟨priority, session.exchange.queue.arrivals, parcel⟩ deadline)) := by
  refine ⟨books.numbered.appended _ _, ?_, ?_, ?_, ?_⟩
  · simp [note, books.arrivals, Queue.appended, List.range_succ]
  · simp only [note, admitted_append, taken_append, discarded_append]
    refine (books.shared.append_right _).trans ?_
    simp only [Queue.appended, admitted_queue, Event.admission?, Event.taken?, Event.discards,
      Option.toList_some, Option.toList_none, List.map_cons, List.map_nil, List.append_nil,
      List.append_assoc]
    refine .append_left _ ?_
    rw [← List.append_assoc]
    exact List.perm_append_comm
  · simp [note, books.numbers, numbers]
  · have once := List.perm_iff_count.mp books.once
    refine List.perm_iff_count.mpr fun number => ?_
    have before := once number
    simp only [note, numbers, admitted_queue, Queue.appended, fills_append, Event.fill?, slotsOf_append,
      slotsOf_cons, slotsOf_nil, Option.toList_none, List.append_nil, List.count_append] at before ⊢
    omega

private theorem Books.handed {session : Session α β} (books : session.Books) (thread : ThreadKey)
    {entry : Queue.Entry (Parcel α)} {queue : Queue (Parcel α)} (waiting : Sync.WaitSet)
    (popped : session.exchange.queue.pop? = some (entry, queue)) :
    Books ({ session with exchange := { session.exchange with queue, waiting } }.hand thread entry) := by
  obtain ⟨earlier, later, entries, rfl, _⟩ := books.numbered.pop_divided popped
  refine ⟨books.numbered.pop popped, ?_, ?_, ?_, ?_⟩
  · simpa [hand] using books.arrivals
  · have shared := books.shared
    rw [entries] at shared
    have moved : ([entry] ++ (later ++ taken session.history)).Perm
        (later ++ taken session.history ++ [entry]) := List.perm_append_comm
    simp only [hand, admitted_append, taken_append, discarded_append]
    simpa using shared.trans
      (by simpa using (moved.append_right (discarded session.history)).append_left earlier)
  · simpa [hand] using books.numbers
  · have once := List.perm_iff_count.mp books.once
    refine List.perm_iff_count.mpr fun number => ?_
    have before := once number
    simp only [entries, hand, fills_append, Event.fill?, slotsOf_append, slotsOf_cons, openSlots_append,
      openSlots_fresh, Option.toList_none, List.append_nil, List.count_append] at before ⊢
    omega

private theorem Books.closed {session : Session α β} (books : session.Books) : (session.move .close).Books := by
  refine ⟨Queue.close_numbered _, ?_, ?_, ?_, ?_⟩
  · simpa [Session.move, close, Queue.close] using books.arrivals
  · have moved := books.shared.trans List.perm_append_comm
    simpa [Session.move, close, Queue.close] using moved
  · simpa [Session.move, close, Queue.close] using books.numbers
  · have once := List.perm_iff_count.mp books.once
    refine List.perm_iff_count.mpr fun number => ?_
    have before := once number
    simp only [Session.move, close, Queue.close, fills_append, Event.fill?, slotsOf_nil, openSlots_append,
      openSlots_fresh, Option.toList_none, List.append_nil, List.nil_append, List.count_append] at before ⊢
    omega

private theorem Books.settled {session : Session α β} (books : session.Books) {slot : Nat}
    (ruling : Ruling β) (held : ⟨slot, false, false⟩ ∈ session.responders) :
    (session.settle slot ruling).Books := by
  refine ⟨books.numbered, ?_, ?_, ?_, ?_⟩
  · simpa [settle] using books.arrivals
  · simpa [settle] using books.shared
  · simpa [settle, fill] using books.numbers
  · have once := List.perm_iff_count.mp books.once
    refine List.perm_iff_count.mpr fun number => ?_
    have before := once number
    have erased := count_openSlots_erase held number
    simp only [openSlots_nil, openSlots_open] at erased
    simp only [settle, fill_queue, fill_slots, Array.size_modify, openSlots_done, fills_append,
      Event.fill?, Option.toList_some, List.map_append, List.map_cons, List.map_nil, List.count_append]
      at before ⊢
    omega

private theorem Books.dropped {session : Session α β} (books : session.Books) {responder : Responder}
    (held : responder ∈ session.responders) : (session.drop responder).Books := by
  obtain ⟨slot, discarded, done⟩ := responder
  have once := List.perm_iff_count.mp books.once
  cases done with
  | true =>
    refine ⟨books.numbered, ?_, ?_, ?_, ?_⟩
    · simpa [drop] using books.arrivals
    · simpa [drop] using books.shared
    · simpa [drop] using books.numbers
    · refine List.perm_iff_count.mpr fun number => ?_
      have before := once number
      have erased := count_openSlots_erase held number
      simp only [openSlots_nil, openSlots_done, List.count_nil] at erased
      simp only [drop, if_true, fills_append, Event.fill?, Option.toList_none, List.append_nil,
        List.count_append] at before ⊢
      omega
  | false =>
    refine ⟨books.numbered, ?_, ?_, ?_, ?_⟩
    · simpa [drop] using books.arrivals
    · simpa [drop] using books.shared
    · simpa [drop, fill] using books.numbers
    · refine List.perm_iff_count.mpr fun number => ?_
      have before := once number
      have erased := count_openSlots_erase held number
      simp only [openSlots_nil, openSlots_open] at erased
      simp only [drop, Bool.false_eq_true, if_false, fill_queue, fill_slots, Array.size_modify, fills_append,
        Event.fill?, Option.toList_some, List.map_append, List.map_cons, List.map_nil, List.count_append]
        at before ⊢
      omega

theorem Books.step {session after : Session α β} (books : session.Books) (step : session.Step after) :
    after.Books := by
  cases step with
  | waited waiting => exact ⟨books.numbered, books.arrivals, books.shared, books.numbers, books.once⟩
  | posted priority item pick unclosed => exact books.admitted _ _ _ _ _ (by simp)
  | called priority item deadline pick unclosed =>
    exact books.admitted _ _ _ _ _ (by simp [List.range_succ])
  | handed thread entry queue waiting popped => exact books.handed thread waiting popped
  | closed => exact books.closed
  | settled slot ruling held => exact books.settled ruling held
  | dropped responder held => exact books.dropped held
  | caller number change allowed =>
    exact ⟨books.numbered, books.arrivals, books.shared, by simpa using books.numbers,
      by simpa using books.once⟩
  | passed now later => exact ⟨books.numbered, books.arrivals, books.shared, books.numbers, books.once⟩

theorem moves_books (now : Instant) (list : List (Move α β)) : ((start now).moves list).Books :=
  moves_keep (fun _ _ books step => Books.step books step) (start_books now) list

section

variable {session : Session α β} {first second entry : Queue.Entry (Parcel α)}

theorem Books.distinct (books : session.Books) :
    ((Session.admitted session.history).map (·.arrival)).Nodup := books.arrivals ▸ List.nodup_range

theorem Books.same_arrival (books : session.Books) (one : first ∈ Session.admitted session.history)
    (two : second ∈ Session.admitted session.history) (same : first.arrival = second.arrival) :
    first = second := by
  let alike (left right : Queue.Entry (Parcel α)) : Prop := left.arrival = right.arrival
  have apart : (Session.admitted session.history).Pairwise fun left right => ¬ alike left right :=
    List.pairwise_map.mp books.distinct
  exact eq_of_alike apart Eq.symm one two same

theorem Books.arrival_lt (books : session.Books) (member : entry ∈ Session.admitted session.history) :
    entry.arrival < session.exchange.queue.arrivals := by
  have number := List.mem_map_of_mem (f := fun entry : Queue.Entry (Parcel α) => entry.arrival) member
  rw [books.arrivals] at number
  exact List.mem_range.mp number

theorem Books.admitted_of_taken (books : session.Books) (past : entry ∈ taken session.history) :
    entry ∈ Session.admitted session.history :=
  books.shared.mem_iff.mpr (List.mem_append_right _ (List.mem_append_left _ past))

theorem Books.admitted_of_queued (books : session.Books) (queued : entry ∈ session.exchange.queue.entries) :
    entry ∈ Session.admitted session.history := books.shared.mem_iff.mpr (List.mem_append_left _ queued)

/-- An admitted entry is queued, taken or discarded, one of these and once. -/
theorem Books.tally (books : session.Books) (member : entry ∈ Session.admitted session.history) :
    Queue.tally entry.arrival session.exchange.queue.entries +
      (Queue.tally entry.arrival (taken session.history) +
        Queue.tally entry.arrival (discarded session.history)) = 1 := by
  have once := books.distinct.count (a := entry.arrival)
  rw [if_pos (List.mem_map_of_mem member), List.count_eq_countP, List.countP_map, books.shared.countP_eq,
    List.countP_append, List.countP_append] at once
  exact once

end

end Session

end Exchange

end TaskKernel
