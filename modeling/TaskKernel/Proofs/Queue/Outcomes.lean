import TaskKernel.Proofs.Queue.Accounting

/-!
What the moves of an exchange come to, for those who make them. A post is accepted as an entry or refused,
a consumer comes back with an entry or without, and a close gives up what is left. The history of a session
agrees with all of that.
-/
namespace TaskKernel.Exchange.Session

variable {α β : Type} {session : Session α β} {move : Move α β} {entry : Queue.Entry (Parcel α)}

/-- The item of a post. -/
def Move.item? : Move α β → Option α
  | push _ item _ | call _ item _ _ => some item
  | tryReceive _ | receive .. | close | settle .. | drop _ | look _ | rouseCaller _ | expireCaller _ | rouse _
  | expire _ | passTo _ => none

/-- The entry as which a post is accepted. -/
def accepted? (session : Session α β) : Move α β → Option (Queue.Entry (Parcel α))
  | .push priority item pick =>
    match session.exchange.push priority item pick with
    | .error _ => none
    | .ok _ => some ⟨priority, session.exchange.queue.arrivals, ⟨item, none⟩⟩
  | .call priority item deadline pick =>
    match session.exchange.call priority item deadline pick with
    | .error _ => none
    | .ok (slot, _) => some ⟨priority, session.exchange.queue.arrivals, ⟨item, some slot⟩⟩
  | _ => none

/-- Why a post is refused. -/
def refusal? (session : Session α β) : Move α β → Option Failure
  | .push priority item pick =>
    match session.exchange.push priority item pick with
    | .error failure => some failure
    | .ok _ => none
  | .call priority item deadline pick =>
    match session.exchange.call priority item deadline pick with
    | .error failure => some failure
    | .ok _ => none
  | _ => none

/-- The entry with which a consumer comes back. -/
def returned? (session : Session α β) : Move α β → Option (Queue.Entry (Parcel α))
  | .tryReceive _ => session.exchange.tryReceive.1
  | .receive thread deadline =>
    match (session.exchange.receive thread deadline).1 with
    | .received entry => some entry
    | .parked | .nothing => none
  | _ => none

/-- What a close gives up. -/
def dropped? (session : Session α β) : Move α β → Option (List (Queue.Entry (Parcel α)))
  | .close => some session.exchange.close.1
  | _ => none

theorem accepted?_eq_some (accepted : session.accepted? move = some entry) :
    session.exchange.queue.closed = false ∧ entry.arrival = session.exchange.queue.arrivals ∧
      move.item? = some entry.item.item := by
  cases move with
  | push priority item pick =>
    rcases session.exchange.push_cases priority item pick with ⟨_, pushed⟩ | ⟨unclosed, pushed⟩
    · simp [accepted?, pushed] at accepted
    · simp only [accepted?, pushed, Option.some.injEq] at accepted
      subst accepted
      exact ⟨unclosed, rfl, rfl⟩
  | call priority item deadline pick =>
    rcases session.exchange.call_cases priority item deadline pick with ⟨_, called⟩ | ⟨unclosed, called⟩
    · simp [accepted?, called] at accepted
    · simp only [accepted?, called, Option.some.injEq] at accepted
      subst accepted
      exact ⟨unclosed, rfl, rfl⟩
  | _ => cases accepted

theorem refusal?_eq_some {failure : Failure} (refused : session.refusal? move = some failure) :
    failure.fault = .queueClosed ∧ session.exchange.queue.closed = true ∧ session.accepted? move = none ∧
      session.move move = session := by
  cases move with
  | push priority item pick =>
    rcases session.exchange.push_cases priority item pick with ⟨closed, pushed⟩ | ⟨_, pushed⟩
    · simp only [refusal?, pushed, Option.some.injEq] at refused
      subst refused
      simp [accepted?, Session.move, pushed, closed]
    · simp [refusal?, pushed] at refused
  | call priority item deadline pick =>
    rcases session.exchange.call_cases priority item deadline pick with ⟨closed, called⟩ | ⟨_, called⟩
    · simp only [refusal?, called, Option.some.injEq] at refused
      subst refused
      simp [accepted?, Session.move, called, closed]
    · simp [refusal?, called] at refused
  | _ => cases refused

theorem Step.shut {after : Session α β} (step : session.Step after)
    (closed : session.exchange.queue.closed = true) : after.exchange.queue.closed = true := by
  cases step with
  | waited | settled | caller | passed => exact closed
  | posted _ _ _ unclosed | called _ _ _ _ unclosed =>
    rw [unclosed] at closed
    cases closed
  | handed thread entry queue waiting popped => exact (Queue.closed_pop popped).trans closed
  | closed => rfl
  | dropped =>
    simp only [drop]
    split <;> exact closed

/-- A consumer comes back with the entry that goes first. -/
theorem returned?_eq_some (returned : session.returned? move = some entry) :
    session.exchange.queue.pop? = some (entry, (session.move move).exchange.queue) := by
  cases move with
  | tryReceive thread =>
    rcases session.exchange.tryReceive_cases with ⟨_, result⟩ | ⟨first, queue, popped, result⟩
    · simp [returned?, result] at returned
    · simp only [returned?, result, Option.some.injEq] at returned
      simpa [Session.move, result, hand, ← returned] using popped
  | receive thread deadline =>
    rcases session.exchange.receive_cases thread deadline with ⟨_, result⟩ |
      ⟨_, ⟨first, queue, popped, result⟩ | ⟨_, _, result⟩ | ⟨_, _, _, result⟩⟩
    · simp [returned?, result] at returned
    · simp only [returned?, result, Option.some.injEq] at returned
      simpa [Session.move, result, hand, ← returned] using popped
    · simp [returned?, result] at returned
    · simp [returned?, result] at returned
  | _ => cases returned

theorem entries_move (none : session.accepted? move = none) :
    (session.move move).exchange.queue.entries ⊆ session.exchange.queue.entries := by
  cases move with
  | push priority item pick =>
    rcases session.exchange.push_cases priority item pick with ⟨_, pushed⟩ | ⟨_, pushed⟩
    · simp [Session.move, pushed]
    · simp [accepted?, pushed] at none
  | call priority item deadline pick =>
    rcases session.exchange.call_cases priority item deadline pick with ⟨_, called⟩ | ⟨_, called⟩
    · simp [Session.move, called]
    · simp [accepted?, called] at none
  | tryReceive thread =>
    rcases session.exchange.tryReceive_cases with ⟨_, result⟩ | ⟨entry, queue, popped, result⟩
    · simp [Session.move, result]
    · simpa [Session.move, result, hand] using Queue.pop?_subset popped
  | receive thread deadline =>
    rcases session.exchange.receive_cases thread deadline with ⟨_, result⟩ |
      ⟨_, ⟨entry, queue, popped, result⟩ | ⟨_, _, result⟩ | ⟨_, _, _, result⟩⟩
    · simp [Session.move, result]
    · simpa [Session.move, result, hand] using Queue.pop?_subset popped
    · simp [Session.move, result]
    · simp [Session.move, result]
  | close => simp [Session.move, close, Queue.close]
  | settle slot ruling =>
    simp only [Session.move]
    split <;> simp [settle]
  | drop responder =>
    simp only [Session.move, drop]
    split
    · split <;> simp
    · simp
  | passTo now =>
    simp only [Session.move]
    split <;> simp
  | look | rouseCaller | expireCaller | rouse | expire => exact List.Subset.refl _

/-- What a close has given up. -/
@[simp] def Event.dropped? : Event α β → Option (List (Queue.Entry (Parcel α)))
  | closed entries => some entries
  | admitted .. | taken .. | settled .. | dropped _ => none

/-- What each close has given up. -/
def closings (history : List (Event α β)) : List (List (Queue.Entry (Parcel α))) :=
  history.filterMap Event.dropped?

@[simp] theorem closings_append (history : List (Event α β)) (event : Event α β) :
    closings (history ++ [event]) = closings history ++ event.dropped?.toList := by
  cases event <;> simp [closings]

theorem discarded_eq (history : List (Event α β)) : discarded history = (closings history).flatten := by
  induction history with
  | nil => rfl
  | cons event rest ih =>
    simp only [discarded, closings, List.flatMap_cons] at ih ⊢
    cases event <;> simp [ih, List.filterMap_cons]

theorem move_recorded (session : Session α β) (move : Move α β) :
    admitted (session.move move).history = admitted session.history ++ (session.accepted? move).toList ∧
      taken (session.move move).history = taken session.history ++ (session.returned? move).toList ∧
      closings (session.move move).history = closings session.history ++ (session.dropped? move).toList := by
  cases move with
  | push priority item pick =>
    rcases session.exchange.push_cases priority item pick with ⟨_, pushed⟩ | ⟨_, pushed⟩ <;>
      simp [Session.move, accepted?, returned?, dropped?, note, pushed]
  | call priority item deadline pick =>
    rcases session.exchange.call_cases priority item deadline pick with ⟨_, called⟩ | ⟨_, called⟩ <;>
      simp [Session.move, accepted?, returned?, dropped?, note, called]
  | tryReceive thread =>
    rcases session.exchange.tryReceive_cases with ⟨_, result⟩ | ⟨entry, queue, _, result⟩ <;>
      simp [Session.move, accepted?, returned?, dropped?, hand, result]
  | receive thread deadline =>
    rcases session.exchange.receive_cases thread deadline with ⟨_, result⟩ |
      ⟨_, ⟨entry, queue, _, result⟩ | ⟨_, _, result⟩ | ⟨_, _, _, result⟩⟩ <;>
      simp [Session.move, accepted?, returned?, dropped?, hand, result]
  | close => simp [Session.move, accepted?, returned?, dropped?]
  | settle slot ruling =>
    simp only [Session.move, accepted?, returned?, dropped?]
    split <;> simp [settle]
  | drop responder =>
    simp only [Session.move, accepted?, returned?, dropped?]
    split <;> simp [drop]
  | passTo now =>
    simp only [Session.move, accepted?, returned?, dropped?]
    split <;> simp
  | look | rouseCaller | expireCaller | rouse | expire => simp [Session.move, accepted?, returned?, dropped?]

end TaskKernel.Exchange.Session
