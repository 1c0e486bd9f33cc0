import TaskKernel.Proofs.Timer.Session

/-!
A sweep of the timers that are due at one instant. What fires is taken from the front of what was due at
the start, and what is cancelled is passed over; whatever is armed meanwhile is due later, so the sweep has
only so much to do.
-/
namespace TaskKernel.TimerSet.Session

variable {σ : Type} {session after initial : Session σ} {now : Instant} {events : List (Event σ)}

/-- A move of a sweep at an instant: only what is due then fires, and the clock is never read before. -/
def Move.Within (now : Instant) : Move σ → Prop
  | .allocate | .create .. | .cancel _ => True
  | .arm _ clock | .finish clock => now ≤ clock
  | .fire began => began = now
  | .clear => False

/-- The timers that have fired, in the order of time. -/
def firedIds (events : List (Event σ)) : List TimerId := (ticks events).map (·.timer)

/-- Whether a timer is cancelled before it fires. -/
def cancelledFirst (id : TimerId) : List (Event σ) → Bool
  | [] => false
  | .fired firing :: rest => firing.tick.timer ≠ id && cancelledFirst id rest
  | .cancelled other _ :: rest => other = id || cancelledFirst id rest
  | .armed _ :: rest | .cleared _ :: rest => cancelledFirst id rest

@[simp] theorem firedIds_append (events : List (Event σ)) (event : Event σ) :
    firedIds (events ++ [event]) = firedIds events ++ (event.tick?.map (·.timer)).toList := by
  rw [firedIds, ticks_append, List.map_append, firedIds]
  cases event.tick? <;> rfl

theorem firedIds_cons (event : Event σ) (events : List (Event σ)) :
    firedIds (event :: events) = (event.tick?.map (·.timer)).toList ++ firedIds events := by
  rw [firedIds, ticks, List.filterMap_cons]
  cases event.tick? <;> rfl

theorem cancelledFirst_append (id : TimerId) (events : List (Event σ)) (event : Event σ) :
    cancelledFirst id (events ++ [event]) =
      (cancelledFirst id events || (decide (id ∉ firedIds events) && cancelledFirst id [event])) := by
  induction events with
  | nil => simp [firedIds, ticks, cancelledFirst]
  | cons first rest ih =>
    cases first with
    | armed | cleared => exact ih
    | fired firing =>
      by_cases same : firing.tick.timer = id
      · simp [cancelledFirst, same, firedIds_cons]
      · have other : ¬ id = firing.tick.timer := fun equal => same equal.symm
        simp [cancelledFirst, ih, same, other, firedIds_cons]
    | cancelled other known =>
      by_cases same : other = id
      · simp [cancelledFirst, same]
      · simp [cancelledFirst, ih, same, firedIds_cons]

/-- What a move of a sweep does to what is due. -/
inductive Advance (now : Instant) (session after : Session σ) : Prop
  | quiet (history : after.history = session.history) (due : after.set.due now = session.set.due now)
  | armed (timer : Timer σ) (ahead : session.Ahead timer.id)
      (history : after.history = session.history ++ [.armed timer])
      (due : after.set.due now = session.set.due now)
  | fired (firing : Firing σ) (armed : Armed σ) (same : firing.tick.timer = armed.timer.id)
      (history : after.history = session.history ++ [.fired firing])
      (due : session.set.due now = armed :: after.set.due now)
  | cancelled (id : TimerId) (known : Bool) (history : after.history = session.history ++ [.cancelled id known])
      (due : after.set.due now = (session.set.due now).filter (·.timer.id ≠ id))

private theorem due_congr {first second : TimerSet σ} (same : first.armed = second.armed) (now : Instant) :
    first.due now = second.due now := by rw [due, due, same]

private theorem Sound.advance (sound : session.Sound) (finite : now < Instant.last) {move : Move σ}
    (within : move.Within now) : Advance now session (session.move move) := by
  cases move with
  | allocate => exact .quiet rfl rfl
  | create interval repeats action operation =>
    simp only [Session.move]
    split <;> exact .quiet rfl rfl
  | arm id clock =>
    simp only [Session.move]
    split
    · exact .quiet rfl rfl
    · rename_i timer found
      have member := List.mem_of_find?_eq_some found
      have ahead : session.Ahead timer.id := .inl (List.mem_map_of_mem member)
      exact .armed timer ahead rfl (due_arm (sound.lasting timer (.inl member)) within finite)
  | fire began =>
    obtain rfl : began = now := within
    simp only [Session.move]
    split
    · rename_i firing set _ fires
      obtain ⟨armed, _, same, due⟩ := sound.distinct.due_fire fires
      exact .fired firing armed same rfl due
    · exact .quiet rfl rfl
  | cancel id =>
    refine .cancelled id _ rfl ?_
    simp only [Session.move, note, cancel]
    split
    · rename_i marked
      -- The timer that is out is not armed, so there is nothing of it to pass over.
      have out := marked.symm.trans sound.marked
      obtain ⟨timer, current, equal⟩ := Option.map_eq_some_iff.mp out.symm
      subst equal
      symm
      apply List.filter_eq_self.mpr
      intro armed member
      exact decide_eq_true (sound.not_armed_of_out current armed (mem_due.mp member).1)
    · exact sound.distinct.due_remove id now
  | finish clock =>
    simp only [Session.move, finish]
    split
    · rename_i timer out
      split
      · exact .quiet rfl (due_congr rfl now)
      · refine .quiet rfl ?_
        rw [due_arm (sound.lasting timer (.inr (.inl out))) within finite]
        exact due_congr rfl now
    · exact .quiet rfl rfl
  | clear => exact within.elim

private theorem Advance.length_le (advance : Advance now session after) :
    (after.set.due now).length ≤ (session.set.due now).length := by
  cases advance with
  | quiet history due | armed timer ahead history due => exact Nat.le_of_eq (congrArg List.length due)
  | fired firing armed same history due =>
    rw [due]
    exact Nat.le_succ _
  | cancelled id known history due =>
    rw [due]
    exact List.length_filter_le _ _

theorem Sound.due_length_le (sound : session.Sound) (finite : now < Instant.last) (list : List (Move σ))
    (within : ∀ move ∈ list, move.Within now) :
    ((session.moves list).set.due now).length ≤ (session.set.due now).length := by
  induction list generalizing session with
  | nil => exact Nat.le_refl _
  | cons move rest ih =>
    rw [List.forall_mem_cons] at within
    have first := (sound.advance finite within.1).length_le
    have others := ih (sound.step (session.move_step move)) within.2
    exact Nat.le_trans others first

private theorem Sound.dueIds_nodup (sound : session.Sound) (now : Instant) : (session.set.dueIds now).Nodup :=
  List.pairwise_map.mpr (sound.distinct.due_apart now)

/-- How far a sweep has come that began with a session, when these events have happened. -/
structure Swept (now : Instant) (initial session : Session σ) (events : List (Event σ)) : Prop where
  history : session.history = initial.history ++ events
  order : (initial.set.dueIds now).filter (fun id => !cancelledFirst id events) =
    firedIds events ++ session.set.dueIds now
  ahead : ∀ id, session.Ahead id → initial.Ahead id
  armed : ∀ timer, .armed timer ∈ events → initial.Ahead timer.id

theorem Swept.start (now : Instant) (session : Session σ) : Swept now session session [] where
  history := (List.append_nil _).symm
  order := by simp [cancelledFirst, firedIds, ticks]
  ahead _ ahead := ahead
  armed _ past := by cases past

theorem Swept.nodup (swept : Swept now initial session events) (sound : initial.Sound) :
    (firedIds events ++ session.set.dueIds now).Nodup := by
  rw [← swept.order]
  exact (sound.dueIds_nodup now).filter _

private theorem Swept.cancel_order (swept : Swept now initial session events) (sound : initial.Sound) (id : TimerId)
    (known : Bool) :
    (initial.set.dueIds now).filter (fun other => !cancelledFirst other (events ++ [.cancelled id known])) =
      firedIds events ++ ((session.set.due now).filter (·.timer.id ≠ id)).map (·.timer.id) := by
  obtain ⟨_, _, apart⟩ := List.nodup_append.mp (swept.nodup sound)
  have twice : (initial.set.dueIds now).filter
      (fun other => !cancelledFirst other (events ++ [.cancelled id known])) =
      ((initial.set.dueIds now).filter fun other => !cancelledFirst other events).filter
        fun other => !(decide (other ∉ firedIds events) && decide (id = other)) := by
    rw [List.filter_filter]
    congr 1
    funext other
    rw [cancelledFirst_append, Bool.not_or, Bool.and_comm]
    simp [cancelledFirst]
  rw [twice, swept.order, List.filter_append]
  congr 1
  · apply List.filter_eq_self.mpr
    intro other fires
    simp [fires]
  · rw [dueIds, List.filter_map]
    refine congrArg _ (List.filter_congr fun armed member => ?_)
    have unfired : armed.timer.id ∉ firedIds events := by
      intro fires
      exact apart _ fires _ (List.mem_map_of_mem (f := fun armed : Armed σ => armed.timer.id) member) rfl
    simp [unfired, eq_comm]

theorem Swept.step (swept : Swept now initial session events) (sound : initial.Sound)
    (advance : Advance now session after) (ahead : ∀ id, after.Ahead id → session.Ahead id) :
    ∃ more, Swept now initial after (events ++ more) := by
  have earlier : ∀ id, after.Ahead id → initial.Ahead id := fun id late => swept.ahead id (ahead id late)
  have old (event : Event σ) (other : ∀ timer, event ≠ .armed timer) (timer : Timer σ)
      (past : .armed timer ∈ events ++ [event]) : initial.Ahead timer.id := by
    rcases List.mem_append.mp past with old | new
    · exact swept.armed timer old
    · exact absurd (List.mem_singleton.mp new).symm (other timer)
  have history {event : Event σ} (noted : after.history = session.history ++ [event]) :
      after.history = initial.history ++ (events ++ [event]) := by
    rw [noted, swept.history, List.append_assoc]
  cases advance with
  | quiet same due =>
    refine ⟨[], ?_, ?_, earlier, ?_⟩
    · rw [same, swept.history, List.append_nil]
    · rw [List.append_nil, swept.order, dueIds, dueIds, due]
    · rw [List.append_nil]
      exact swept.armed
  | armed timer new noted due =>
    refine ⟨[.armed timer], history noted, ?_, earlier, ?_⟩
    · simp only [cancelledFirst_append, cancelledFirst, Bool.and_false, Bool.or_false, firedIds_append,
        Event.tick?, Option.map_none, Option.toList_none, List.append_nil]
      rw [swept.order, dueIds, dueIds, due]
    · intro other past
      rcases List.mem_append.mp past with old | same
      · exact swept.armed other old
      · cases List.mem_singleton.mp same
        exact swept.ahead timer.id new
  | fired firing entry same noted due =>
    refine ⟨[.fired firing], history noted, ?_, earlier, old _ nofun⟩
    simp only [cancelledFirst_append, cancelledFirst, Bool.and_false, Bool.or_false, firedIds_append,
      Event.tick?, Option.map_some, Option.toList_some]
    rw [swept.order, dueIds, dueIds, due, List.map_cons, same, List.append_assoc]
    rfl
  | cancelled id known noted due =>
    refine ⟨[.cancelled id known], history noted, ?_, earlier, old _ nofun⟩
    rw [swept.cancel_order sound, firedIds_append, Event.tick?, Option.map_none, Option.toList_none, List.append_nil,
      dueIds, due]

theorem Swept.moves (swept : Swept now initial session events) (whole : initial.Sound) (sound : session.Sound)
    (finite : now < Instant.last) (list : List (Move σ)) (within : ∀ move ∈ list, move.Within now) :
    ∃ more, Swept now initial (session.moves list) (events ++ more) := by
  induction list generalizing session events with
  | nil => exact ⟨[], (List.append_nil events).symm ▸ swept⟩
  | cons move rest ih =>
    rw [List.forall_mem_cons] at within
    have step := session.move_step move
    obtain ⟨first, one⟩ := swept.step whole (sound.advance finite within.1) fun id ahead => ahead.before step
    obtain ⟨more, all⟩ := ih one (sound.step step) within.2
    exact ⟨first ++ more, (List.append_assoc events first more) ▸ all⟩

/-- What is armed in a sweep does not fire in it. -/
theorem Swept.armed_not_fired (swept : Swept now initial session events) (sound : initial.Sound)
    {timer : Timer σ} (armed : .armed timer ∈ events) : timer.id ∉ firedIds events := by
  intro fires
  have member : timer.id ∈ initial.set.dueIds now := by
    have kept : timer.id ∈ firedIds events ++ session.set.dueIds now := List.mem_append_left _ fires
    rw [← swept.order] at kept
    exact (List.mem_filter.mp kept).1
  obtain ⟨entry, due, same⟩ := List.mem_map.mp member
  exact sound.not_armed_of_ahead (swept.armed timer armed) entry (mem_due.mp due).1 same

end TaskKernel.TimerSet.Session
