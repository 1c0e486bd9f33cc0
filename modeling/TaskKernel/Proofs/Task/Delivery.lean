import TaskKernel.Proofs.Task.Ledger
import TaskKernel.Proofs.Task.Progress

/-!
What becomes of the messages of a task. Each is queued, handled or dropped, one of these and once, and who
waits for it hears the truth about it.
-/
namespace TaskKernel.Task

variable {σ π ρ υ : Type} {handler : Handler σ π ρ υ} {course : Course σ π ρ υ}

/-- What holds of a task with this handler and of its diary all along. -/
structure Kept (handler : Handler σ π ρ υ) (course : Course σ π ρ υ) : Prop where
  reached : Reached course
  ledger : Ledger course.host.task course.diary
  candid : Candid course.host.task course.diary
  handler : course.host.task.handler = handler

private theorem handler_step {task next : Task σ π ρ υ} {diary later : Diary σ π ρ}
    (step : Step task diary next later) : next.handler = task.handler := by
  cases step <;> rfl

theorem Kept.move (kept : Kept handler course) (move : Host.Move σ π υ) :
    Kept handler (course.move move) := by
  have step := kept.reached.followed.step move
  have mirrored := kept.reached.followed.mirrored
  exact {
    reached := kept.reached.move move
    ledger := kept.ledger.step mirrored kept.reached.engaged step
    candid := kept.candid.step mirrored kept.reached.engaged step
    handler := (handler_step step).trans kept.handler }

theorem Kept.moves (kept : Kept handler course) (list : List (Host.Move σ π υ)) :
    Kept handler (course.moves list) := by
  induction list generalizing course with
  | nil => exact kept
  | cons move rest ih => exact ih (kept.move move)

theorem start_kept {kernel : Kernel} {thread : ThreadKey} {settings : Settings υ} {state : σ}
    {host : Host σ π ρ υ} (created : (Host.create kernel thread settings handler state).1 = .ok host) :
    Kept handler (Course.start host) := by
  obtain ⟨life, initial, _, _, fresh⟩ := create_cases created
  refine ⟨start_reached created, ⟨rfl, rfl, rfl, ?_⟩, ⟨?_, ?_, ?_⟩, ?_⟩
  · simp [Course.start, Diary.blank]
  · simp [Course.start, fresh, Task.create, Place.response?]
  · simp [Course.start, Diary.blank, Exchange.Session.start]
  · simp [Course.start, Diary.blank, Exchange.Session.start]
  · simp [Course.start, fresh, Task.create]

theorem Followed.books (followed : Followed course) : course.diary.session.Books := by
  obtain ⟨now, list, same⟩ := followed.session
  exact same ▸ Exchange.Session.moves_books now list

theorem Followed.origins (followed : Followed course) : course.diary.session.Origins := by
  obtain ⟨now, list, same⟩ := followed.session
  exact same ▸ Exchange.Session.moves_origins now list

theorem Followed.truthful (followed : Followed course) : course.diary.session.Truthful := by
  obtain ⟨now, list, same⟩ := followed.session
  exact same ▸ Exchange.Session.moves_truthful now list

/-- What has been admitted to the queue of the task so far, each with the deadline of its caller. -/
def Course.admissions (course : Course σ π ρ υ) : List (Envelope σ π × Option Instant) :=
  Exchange.Session.admissions course.diary.session.history

theorem Course.moves_admissions (course : Course σ π ρ υ) (list : List (Host.Move σ π υ)) :
    course.admissions <+: (course.moves list).admissions := by
  obtain ⟨more, same⟩ := course.moves_session list
  rw [admissions, admissions, same]
  exact (course.diary.session.moves_history more).filterMap _

variable {entry : Envelope σ π} {message : Message π} {deadline : Option Instant} {number : Nat}

theorem admitted_of_admission (admission : (entry, deadline) ∈ course.admissions) :
    entry ∈ Exchange.Session.admitted course.diary.session.history :=
  List.mem_map_of_mem (f := Prod.fst) admission

theorem admission_of_admitted (admitted : entry ∈ Exchange.Session.admitted course.diary.session.history) :
    ∃ deadline, (entry, deadline) ∈ course.admissions := by
  obtain ⟨⟨_, deadline⟩, admission, rfl⟩ := List.mem_map.mp admitted
  exact ⟨deadline, admission⟩

theorem Course.move_admitted (course : Course σ π ρ υ) (move : Host.Move σ π υ)
    (admitted : entry ∈ Exchange.Session.admitted course.diary.session.history) :
    entry ∈ Exchange.Session.admitted (course.move move).diary.session.history := by
  obtain ⟨deadline, admission⟩ := admission_of_admitted admitted
  exact admitted_of_admission ((course.moves_admissions [move]).subset admission)

theorem Followed.admitted_of_queued (followed : Followed course)
    (queued : entry ∈ course.host.task.exchange.queue.entries) :
    entry ∈ Exchange.Session.admitted course.diary.session.history :=
  followed.books.admitted_of_queued (followed.mirrored.exchange ▸ queued)

theorem Kept.taken_of_handled (kept : Kept handler course) (past : entry ∈ handled course.diary.history) :
    entry ∈ Exchange.Session.taken course.diary.session.history := by
  rw [← kept.ledger.taken] at past
  exact (List.mem_filter.mp past).1

private theorem Kept.admitted_of_handled (kept : Kept handler course)
    (past : entry ∈ handled course.diary.history) :
    entry ∈ Exchange.Session.admitted course.diary.session.history :=
  kept.reached.followed.books.admitted_of_taken (kept.taken_of_handled past)

private theorem Kept.tally_handled (kept : Kept handler course) (admission : (entry, deadline) ∈ course.admissions)
    (item : entry.item.item = .deliver message) :
    Queue.tally entry.arrival (handled course.diary.history) =
      Queue.tally entry.arrival (Exchange.Session.taken course.diary.session.history) := by
  have books := kept.reached.followed.books
  rw [← kept.ledger.taken, Queue.tally, Queue.tally, List.countP_filter]
  refine List.countP_congr fun other present => ?_
  simp only [Bool.and_eq_true, beq_iff_eq, and_iff_left_iff_imp]
  intro same
  -- Whatever has been taken under the same number is this very message, so no order is counted.
  have member := books.admitted_of_taken present
  rw [books.same_arrival member (admitted_of_admission admission) same, item]
  rfl

/-- What has become of an envelope with a message. -/
structure Placed (course : Course σ π ρ υ) (entry : Envelope σ π) (message : Message π) : Prop where
  once : Queue.tally entry.arrival course.host.task.exchange.queue.entries +
    (Queue.tally entry.arrival (handled course.diary.history) +
      Queue.tally entry.arrival (dropped course.diary.history)) = 1
  own : ∀ other given, .began (.handling (some other) given) ∈ course.diary.history →
    other.arrival = entry.arrival → other = entry ∧ given = message
  -- Once the thread has left its loop and closed the queue, it has been handled to the end or dropped.
  out : course.host.task.place.isPast = true →
    handled course.diary.history = finished course.diary.history ∧
    Queue.tally entry.arrival (finished course.diary.history) +
      Queue.tally entry.arrival (dropped course.diary.history) = 1

private theorem mem_handled {history : List (Event σ π ρ)} :
    entry ∈ handled history ↔ ∃ message, .began (.handling (some entry) message) ∈ history := by
  rw [handled, List.mem_filterMap]
  constructor
  · rintro ⟨event, past, given⟩
    cases event with
    | began activity =>
      cases activity with
      | handling found message =>
        cases given
        exact ⟨message, past⟩
      | starting | callingBack | exiting => cases given
    | ended | closed => cases given
  · rintro ⟨message, past⟩
    exact ⟨_, past, rfl⟩

theorem Doing.past {quitting asked : Bool} {activity : Option (Activity σ π)} {place : Place σ π ρ υ}
    (doing : Doing handler quitting asked activity place) (past : place.isPast = true) :
    activity.bind Activity.envelope? = none := by
  cases doing with
  | starting | ticking | callingBack | handling => cases past
  | exiting | nothing => rfl

theorem Kept.placed (kept : Kept handler course) (admission : (entry, deadline) ∈ course.admissions)
    (item : entry.item.item = .deliver message) : Placed course entry message := by
  have followed := kept.reached.followed
  have once := followed.books.tally (admitted_of_admission admission)
  rw [followed.mirrored.exchange, ← kept.tally_handled admission item, kept.ledger.discarded] at once
  refine ⟨once, ?_, ?_⟩
  · intro other given past same
    have member := kept.admitted_of_handled (mem_handled.mpr ⟨given, past⟩)
    obtain rfl := followed.books.same_arrival member (admitted_of_admission admission) same
    have fits : other.item.item = .deliver given := kept.ledger.fits _ past other rfl
    rw [item] at fits
    cases fits
    exact ⟨rfl, rfl⟩
  · intro past
    have settled : handled course.diary.history = finished course.diary.history := by
      rw [kept.ledger.current, kept.reached.engaged.past past]
      exact List.append_nil _
    rw [kept.reached.cleared.entries past, settled] at once
    exact ⟨settled, by simpa [Queue.tally] using once⟩

/-- What the caller that waits at a slot for the end of its message hears agrees with what has become of
the message. -/
structure Answered (handler : Handler σ π ρ υ) (course : Course σ π ρ υ) (entry : Envelope σ π)
    (message : Message π) (deadline : Option Instant) (number : Nat) : Prop where
  placed : Placed course entry message
  replied : ∀ reply, course.host.task.exchange.outcome? number = some (.handled reply) →
    Queue.tally entry.arrival (handled course.diary.history) = 1 ∧
    (∃ asked, .ended (.handling (some entry) message) (.returned reply) asked ∈ course.diary.history) ∧
    (handler.handle message).ComesTo (.returned reply)
  failed : ∀ reason, course.host.task.exchange.outcome? number = some (.failed reason) →
    Queue.tally entry.arrival (handled course.diary.history) = 1 ∧ ∃ cause, cause.reason = reason ∧
    (∃ asked, .ended (.handling (some entry) message) (.panicked cause) asked ∈ course.diary.history) ∧
    (handler.handle message).ComesTo (.panicked cause)
  -- The handler has not been called for the message, and never is.
  abandoned : course.host.task.exchange.outcome? number = some .abandoned →
    ∀ list, Queue.tally entry.arrival (handled (course.moves list).diary.history) = 0
  timedOut : course.host.task.exchange.outcome? number = some .timedOut →
    ∃ instant, deadline = some instant ∧ instant ≤ course.host.kernel.now
  told : course.host.task.place = .ended →
    ∃ response, course.host.task.exchange.answer? number = some response

variable {response : Response ρ}

theorem mem_finished {history : List (Event σ π ρ)} {message : Message π} {ending : Ending (Option ρ)}
    {asked : Bool} (past : .ended (.handling (some entry) message) ending asked ∈ history) :
    entry ∈ finished history := List.mem_filterMap.mpr ⟨_, past, rfl⟩

theorem Kept.handled_of_finished (kept : Kept handler course)
    (past : entry ∈ finished course.diary.history) : entry ∈ handled course.diary.history := by
  rw [kept.ledger.current]
  exact List.mem_append_left _ past

theorem tally_pos {entries : List (Envelope σ π)} (member : entry ∈ entries) :
    0 < Queue.tally entry.arrival entries :=
  List.countP_pos_iff.mpr ⟨entry, member, by simp⟩

private theorem Kept.concluded (kept : Kept handler course) (admission : (entry, deadline) ∈ course.admissions)
    (item : entry.item = ⟨.deliver message, some number⟩) {ending : Ending (Option ρ)}
    (concluded : Concluded course.diary.history number ending) :
    Queue.tally entry.arrival (handled course.diary.history) = 1 ∧
    (∃ asked, .ended (.handling (some entry) message) ending asked ∈ course.diary.history) ∧
    (handler.handle message).ComesTo ending := by
  obtain ⟨other, given, asked, past, slot⟩ := concluded
  have given := kept.handled_of_finished (mem_finished past)
  have member := admitted_of_admission admission
  have owner := kept.admitted_of_handled given
  obtain rfl := kept.reached.followed.books.same_owner owner member slot (by rw [item])
  obtain ⟨fits, comes⟩ := kept.ledger.fits _ past
  have same := fits other rfl
  rw [item] at same
  cases same
  refine ⟨?_, ⟨asked, past⟩, kept.handler ▸ comes⟩
  have once := (kept.placed admission (by rw [item])).once
  have some := tally_pos given
  omega

theorem Kept.returned (kept : Kept handler course) (admission : (entry, deadline) ∈ course.admissions)
    (item : entry.item = ⟨.deliver message, some number⟩)
    (gone : course.host.task.exchange.outcome? number = some response) :
    course.diary.session.exchange.answer? number = some response ∨
      response = .timedOut ∧ deadline.any (· ≤ course.host.kernel.now) = true := by
  have followed := kept.reached.followed
  rw [← followed.mirrored.exchange] at gone
  have returned := followed.truthful.returned admission (by rw [item]) gone
  rwa [followed.clock] at returned

private theorem Kept.dropped_of_abandoned (kept : Kept handler course)
    (admission : (entry, deadline) ∈ course.admissions) (item : entry.item = ⟨.deliver message, some number⟩)
    (abandoned : course.diary.session.exchange.answer? number = some .abandoned) :
    entry ∈ dropped course.diary.history := by
  have followed := kept.reached.followed
  obtain ⟨discarded, past⟩ := followed.truthful.abandoned_iff.mp abandoned
  obtain rfl : discarded = true := kept.candid.dropped _ past
  have owner := (followed.origins.dropped _ past).owner followed.books (admitted_of_admission admission)
    (by rw [item])
  rw [← kept.ledger.discarded]
  exact owner

private theorem response_rulingOf (ending : Ending (Option ρ)) : (rulingOf ending).response = responseOf ending := by
  cases ending <;> rfl

/-- A slot is filled when the call for its message has ended, or when its message has been dropped. -/
theorem Kept.answer_cases (kept : Kept handler course) (admission : (entry, deadline) ∈ course.admissions)
    (item : entry.item = ⟨.deliver message, some number⟩)
    (answer : course.diary.session.exchange.answer? number = some response) :
    (∃ ending asked, .ended (.handling (some entry) message) ending asked ∈ course.diary.history ∧
      response = responseOf ending) ∨ (entry ∈ dropped course.diary.history ∧ response = .abandoned) := by
  rcases kept.reached.followed.truthful.answered.mp answer with ⟨ruling, settled, rfl⟩ | ⟨_, _, rfl⟩
  · obtain ⟨ending, rfl, concluded⟩ := kept.candid.settled _ _ settled
    obtain ⟨_, ⟨asked, ended⟩, _⟩ := kept.concluded admission item concluded
    exact .inl ⟨ending, asked, ended, response_rulingOf ending⟩
  · exact .inr ⟨kept.dropped_of_abandoned admission item answer, rfl⟩

private theorem dropped_later {before after : List (Event σ π ρ)} (early : before <+: after)
    (past : entry ∈ dropped before) : entry ∈ dropped after := by
  obtain ⟨event, member, drops⟩ := List.mem_flatMap.mp past
  exact List.mem_flatMap.mpr ⟨event, early.subset member, drops⟩

theorem Reached.filled (reached : Reached course) (ended : course.host.task.place = .ended)
    (given : number < course.host.task.exchange.slots.size) :
    ∃ response, course.host.task.exchange.answer? number = some response := by
  have followed := reached.followed
  have given := List.mem_range.mpr given
  rw [← followed.mirrored.exchange, ← followed.books.once.mem_iff, followed.mirrored.responders,
    followed.mirrored.exchange, reached.cleared.entries (by rw [ended]; rfl), ended] at given
  obtain ⟨fill, past, rfl⟩ := List.mem_map.mp given
  have answer := (followed.truthful.answers _ _).mpr past
  rw [followed.mirrored.exchange] at answer
  exact ⟨_, answer⟩

theorem Kept.told (kept : Kept handler course) (admission : (entry, deadline) ∈ course.admissions)
    (item : entry.item = ⟨.deliver message, some number⟩) (ended : course.host.task.place = .ended) :
    ∃ response, course.host.task.exchange.answer? number = some response := by
  have followed := kept.reached.followed
  have given : number ∈ Exchange.slotsOf (Exchange.Session.admitted course.diary.session.history) :=
    List.mem_filterMap.mpr ⟨entry, admitted_of_admission admission, by rw [item]⟩
  rw [followed.books.numbers, followed.mirrored.exchange] at given
  exact kept.reached.filled ended (List.mem_range.mp given)

theorem Kept.answered (kept : Kept handler course) (admission : (entry, deadline) ∈ course.admissions)
    (item : entry.item = ⟨.deliver message, some number⟩) :
    Answered handler course entry message deadline number := by
  have truthful := kept.reached.followed.truthful
  have message : entry.item.item = .deliver message := by rw [item]
  refine ⟨kept.placed admission message, ?_, ?_, ?_, ?_, kept.told admission item⟩
  · intro reply gone
    rcases kept.returned admission item gone with answered | ⟨timedOut, _⟩
    · obtain ⟨ending, same, concluded⟩ := kept.candid.settled _ _ ((truthful.handled_iff reply).mp answered)
      cases ending <;> cases same
      exact kept.concluded admission item concluded
    · cases timedOut
  · intro reason gone
    rcases kept.returned admission item gone with answered | ⟨timedOut, _⟩
    · obtain ⟨ending, same, concluded⟩ := kept.candid.settled _ _ ((truthful.failed_iff reason).mp answered)
      cases ending with
      | returned reply => cases same
      | panicked cause =>
        cases same
        obtain ⟨once, ended, comes⟩ := kept.concluded admission item concluded
        exact ⟨once, cause, rfl, ended, comes⟩
    · cases timedOut
  · intro gone list
    rcases kept.returned admission item gone with answered | ⟨timedOut, _⟩
    · -- The message has been dropped and stays so, which leaves nothing of its tally for the handler.
      have past := kept.dropped_of_abandoned admission item answered
      have drops := tally_pos (dropped_later (kept.reached.followed.history list) past)
      have remains := (course.moves_admissions list).subset admission
      have once := ((kept.moves list).placed remains message).once
      omega
    · cases timedOut
  · intro gone
    rcases kept.returned admission item gone with answered | ⟨_, overdue⟩
    · exact absurd answered truthful.never_timedOut
    · cases deadline with
      | none => cases overdue
      | some instant => exact ⟨instant, rfl, of_decide_eq_true overdue⟩

/-- The envelope in which a message is posted now. -/
def Course.envelope (course : Course σ π ρ υ) (message : Message π) (slot : Option Nat) : Envelope σ π :=
  ⟨message.priority, course.host.task.exchange.queue.arrivals, ⟨.deliver message, slot⟩⟩

theorem Followed.push_cases (followed : Followed course) (command : Command σ π) :
    (∃ failure, course.host.push command = (.error failure, course.host) ∧
      course.diary.deal (.push command.priority command 0) = course.diary) ∨
    ((course.host.push command).1 = .ok () ∧
      Exchange.Session.admissions (course.diary.deal (.push command.priority command 0)).session.history =
        course.admissions ++
          [(⟨command.priority, course.host.task.exchange.queue.arrivals, ⟨command, none⟩⟩, none)]) := by
  simp only [Host.push, Diary.deal, Exchange.Session.move, Course.admissions, followed.mirrored.exchange]
  rcases course.host.task.exchange.push_cases command.priority command 0 with ⟨_, pushed⟩ | ⟨_, pushed⟩
  · exact .inl ⟨_, by rw [pushed], by rw [pushed]⟩
  · exact .inr ⟨by rw [pushed], by simp [pushed, Exchange.Session.note]⟩

theorem Followed.post_cases (followed : Followed course) (message : Message π) :
    (∃ failure, course.host.post message = (.error failure, course.host) ∧
      (course.move (.post message)).diary = course.diary) ∨
    ((course.host.post message).1 = .ok () ∧
      (course.move (.post message)).admissions =
        course.admissions ++ [(course.envelope message none, none)]) :=
  followed.push_cases (.deliver message)

theorem Followed.call_cases (followed : Followed course) (thread : ThreadKey) (message : Message π)
    (timeout : Option Delay) :
    (∃ failure, (course.host.call thread message timeout).1 = .error failure ∧
      (course.host.call thread message timeout).2.task = course.host.task ∧
      (course.move (.call thread message timeout)).diary = course.diary) ∨
    ∃ number, (course.host.call thread message timeout).1 = .ok number ∧
      (course.move (.call thread message timeout)).admissions = course.admissions ++
        [(course.envelope message (some number), timeout.map (Clock.deadline course.host.kernel.now))] := by
  have clock := course.host.kernel.isCurrent_now thread course.host.task.life.handle
  simp only [Host.call, Course.move, Host.write, Diary.deal, Exchange.Session.move, Course.admissions,
    followed.mirrored.exchange]
  generalize course.host.kernel.isCurrent thread course.host.task.life.handle = asked at clock ⊢
  obtain ⟨current, after⟩ := asked
  cases current with
  | true => exact .inl ⟨_, rfl, rfl, rfl⟩
  | false =>
    simp only at clock ⊢
    rw [clock]
    rcases course.host.task.exchange.call_cases message.priority (.deliver message)
      (timeout.map (Clock.deadline course.host.kernel.now)) 0 with ⟨_, called⟩ | ⟨_, called⟩
    · exact .inl ⟨_, by rw [called], by rw [called], by simp [called]⟩
    · exact .inr ⟨_, by rw [called], by simp [called, Exchange.Session.note, Course.envelope]⟩

/-- What is so of the messages of a task with this handler, now and in every continuation. -/
structure Delivers (handler : Handler σ π ρ υ) (course : Course σ π ρ υ) : Prop where
  known : course.admissions.map (·.1.arrival) = List.range course.host.task.exchange.queue.arrivals
  given : ∀ entry message, .began (.handling (some entry) message) ∈ course.diary.history →
    entry.item.item = .deliver message ∧ ∃ deadline, (entry, deadline) ∈ course.admissions
  accepted : ∀ entry deadline message, (entry, deadline) ∈ course.admissions →
    entry.item.item = .deliver message → ∀ list, Placed (course.moves list) entry message
  posted : ∀ message, (course.host.post message).1 = .ok () →
    (course.move (.post message)).admissions = course.admissions ++ [(course.envelope message none, none)]
  unposted : ∀ message failure, (course.host.post message).1 = .error failure →
    (course.host.post message).2.task = course.host.task ∧
    (course.move (.post message)).diary = course.diary
  called : ∀ thread message timeout number, (course.host.call thread message timeout).1 = .ok number →
    let entry := course.envelope message (some number)
    let deadline := timeout.map (Clock.deadline course.host.kernel.now)
    let after := course.move (.call thread message timeout)
    after.admissions = course.admissions ++ [(entry, deadline)] ∧
      ∀ list, Answered handler (after.moves list) entry message deadline number
  uncalled : ∀ thread message timeout failure, (course.host.call thread message timeout).1 = .error failure →
    (course.host.call thread message timeout).2.task = course.host.task ∧
    (course.move (.call thread message timeout)).diary = course.diary
  ownRefused : ∀ message timeout now given, ∃ failure effects,
    course.host.task.serve now given (.waitSelf message timeout) =
      .answered failure ⟨course.host.task, given, effects⟩

theorem Kept.known (kept : Kept handler course) :
    course.admissions.map (·.1.arrival) = List.range course.host.task.exchange.queue.arrivals := by
  have arrivals := kept.reached.followed.books.arrivals
  rw [kept.reached.followed.mirrored.exchange, Exchange.Session.admitted, List.map_map] at arrivals
  exact arrivals

private theorem Kept.given (kept : Kept handler course)
    (past : .began (.handling (some entry) message) ∈ course.diary.history) :
    entry.item.item = .deliver message ∧ ∃ deadline, (entry, deadline) ∈ course.admissions := by
  have member := kept.admitted_of_handled (mem_handled.mpr ⟨message, past⟩)
  exact ⟨kept.ledger.fits _ past _ rfl, admission_of_admitted member⟩

private theorem Kept.delivers (kept : Kept handler course) : Delivers handler course := by
  have followed := kept.reached.followed
  refine {
    known := kept.known
    given := fun entry message past => kept.given past
    accepted := ?_
    posted := ?_
    unposted := ?_
    called := ?_
    uncalled := ?_
    ownRefused := fun message timeout now given => ⟨_, _, rfl⟩ }
  · intro entry deadline message admission item list
    exact (kept.moves list).placed ((course.moves_admissions list).subset admission) item
  · intro message accepted
    rcases followed.post_cases message with ⟨failure, refused, _⟩ | ⟨_, admissions⟩
    · rw [refused] at accepted
      cases accepted
    · exact admissions
  · intro message failure refused
    rcases followed.post_cases message with ⟨_, same, diary⟩ | ⟨accepted, _⟩
    · exact ⟨by rw [same], diary⟩
    · rw [refused] at accepted
      cases accepted
  · intro thread message timeout number accepted
    rcases followed.call_cases thread message timeout with ⟨failure, refused, _⟩ |
      ⟨other, called, admissions⟩
    · rw [refused] at accepted
      cases accepted
    · rw [called] at accepted
      cases accepted
      intro entry deadline after
      refine ⟨admissions, fun list => ?_⟩
      have admission : (entry, deadline) ∈ after.admissions := by
        rw [admissions]
        exact List.mem_append_right _ (List.mem_singleton.mpr rfl)
      exact ((kept.move _).moves list).answered ((after.moves_admissions list).subset admission) rfl
  · intro thread message timeout failure refused
    rcases followed.call_cases thread message timeout with ⟨_, _, same, diary⟩ | ⟨number, accepted, _⟩
    · exact ⟨same, diary⟩
    · rw [refused] at accepted
      cases accepted

/-- Every message of a task is handled once or dropped, and its sender hears which, in every
interleaving. -/
theorem every_message_accounted_for {kernel : Kernel} {thread : ThreadKey} {settings : Settings υ}
    {state : σ} {host : Host σ π ρ υ}
    (created : (Host.create kernel thread settings handler state).1 = .ok host)
    (list : List (Host.Move σ π υ)) : Delivers handler ((Course.start host).moves list) :=
  ((start_kept created).moves list).delivers

/-- One caller times out before its message is handled, and another is abandoned because the handler then
quits. -/
theorem late_and_abandoned_accounted_for : ∃ host : Host Nat Nat Nat Unit,
    (Host.create Worker.kernel 7 (Worker.settings none) Worker.leaving 0).1 = .ok host ∧
    let course := (Course.start host).moves
      ([.call 8 (Message.user 1 (some 5)) (some .zero), .call 9 (Message.user 2 none) none, .look 0,
        .expireCaller 0, .look 0, .begin 7 false, .commit] ++ List.replicate 18 .serve ++ [.look 1])
    course.host.task.exchange.outcome? 0 = some .timedOut ∧
    course.host.task.exchange.outcome? 1 = some .abandoned ∧
    (handled course.diary.history).map (·.arrival) = [0] ∧
    (dropped course.diary.history).map (·.arrival) = [1] ∧ Delivers Worker.leaving course := by
  have created : (Host.create Worker.kernel 7 (Worker.settings none) Worker.leaving 0).1 = .ok _ := rfl
  exact ⟨_, created, by decide +kernel, by decide +kernel, by decide +kernel, by decide +kernel,
    every_message_accounted_for created _⟩

end TaskKernel.Task
