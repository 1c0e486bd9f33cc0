import TaskKernel.Proofs.Task.Delivery
import TaskKernel.Proofs.Task.Quitting

/-!
What a join leaves behind for those who can still send to the task. A task that has run to its end has
closed its queue and has let every caller go. One that was never started leaves its queue open, although
nobody is left to serve it.
-/
namespace TaskKernel.Task

variable {σ π ρ υ : Type} {task : Task σ π ρ υ} {host : Host σ π ρ υ} {course : Course σ π ρ υ}

/-- Where no step is left for the thread. -/
inductive Place.Final : Place σ π ρ υ → Prop
  | lost : Final .lost
  | ended : Final .ended

private theorem Place.Final.ne_idle {place : Place σ π ρ υ} (final : place.Final) : place ≠ .idle := by
  cases final <;> nofun

private theorem step?_final (final : task.place.Final) (now : Instant) (given : Nat) :
    task.step? now given = none := by
  generalize stands : task.place = place at final
  cases final <;> simp [step?, stands]

private theorem Host.move_final (final : host.task.place.Final) (move : Host.Move σ π υ) :
    (host.move move).task.place = host.task.place := by
  refine (Host.move_still_of_no_step final.ne_idle ?_).place
  rintro ⟨_, progress, steps⟩
  rw [Host.Steps, step?_final final] at steps
  cases steps

private theorem Host.moves_final (final : host.task.place.Final) (list : List (Host.Move σ π υ)) :
    (host.moves list).task.place = host.task.place := by
  induction list generalizing host with
  | nil => rfl
  | cons move rest ih =>
    have same := Host.move_final final move
    exact (ih (same.symm ▸ final)).trans same

theorem Host.push_cases (host : Host σ π ρ υ) (command : Command σ π) :
    (host.isClosed = true ∧ host.push command = (.error ⟨.queueClosed, .queuePush⟩, host)) ∨
    (host.isClosed = false ∧ ∃ exchange,
      host.push command = (.ok (), { host with task := { host.task with exchange } })) := by
  rcases host.task.exchange.push_cases command.priority command 0 with ⟨closed, pushed⟩ | ⟨unclosed, pushed⟩
  · exact .inl ⟨closed, by rw [Host.push, pushed]⟩
  · exact .inr ⟨unclosed, _, by rw [Host.push, pushed]⟩

theorem Host.addTimer_cases (host : Host σ π ρ υ) (interval : Delay) (repeats : Repeat)
    (action : TimerAction σ) :
    (interval.isZero = true ∧ ∃ failure, host.addTimer interval repeats action = (.error failure, host)) ∨
    (interval.isZero = false ∧ ∃ (counted : Host σ π ρ υ) (command : Command σ π) (id : TimerId),
      counted.task = host.task ∧ host.addTimer interval repeats action =
        ((counted.push command).1.map fun _ => id, (counted.push command).2)) := by
  simp only [Host.addTimer, Timer.create]
  cases zero : interval.isZero with
  | true => exact .inl ⟨rfl, _, rfl⟩
  | false => exact .inr ⟨rfl, { host with kernel := host.kernel.allocateTimer.2 }, _, _, rfl, rfl⟩

theorem Host.call_cases (host : Host σ π ρ υ) (thread : ThreadKey) (message : Message π)
    (timeout : Option Delay) : ∃ kernel,
    ((host.kernel.isCurrent thread host.task.life.handle).1 = true ∧ ∃ failure,
      host.call thread message timeout = (.error failure, { host with kernel })) ∨
    (host.isClosed = true ∧
      host.call thread message timeout = (.error ⟨.queueClosed, .queuePushAndWait⟩, { host with kernel })) ∨
    (host.isClosed = false ∧ ∃ number exchange, host.call thread message timeout =
      (.ok number, { host with kernel, task := { host.task with exchange } })) := by
  simp only [Host.call]
  generalize host.kernel.isCurrent thread host.task.life.handle = asked
  obtain ⟨current, after⟩ := asked
  cases current with
  | true => exact ⟨_, .inl ⟨rfl, _, rfl⟩⟩
  | false =>
    refine ⟨after, .inr ?_⟩
    simp only
    rcases host.task.exchange.call_cases message.priority (.deliver message)
      (timeout.map (Clock.deadline after.now)) 0 with ⟨closed, called⟩ | ⟨unclosed, called⟩
    · exact .inl ⟨closed, by rw [called]⟩
    · exact .inr ⟨unclosed, _, _, by rw [called]⟩

/-- A thread that is new, and that nobody is starting, has not begun to run. -/
def Unbegun (task : Task σ π ρ υ) : Prop :=
  task.life.state = .new → task.life.starting = false → task.place = .idle ∨ task.place = .lost

private theorem Unbegun.same {next : Task σ π ρ υ} (unbegun : task.Unbegun)
    (state : next.life.state = task.life.state) (starting : next.life.starting = task.life.starting)
    (place : next.place = task.place) : next.Unbegun := by
  intro new resting
  rw [place]
  exact unbegun (state ▸ new) (starting ▸ resting)

theorem Unbegun.begin (unbegun : task.Unbegun) (detached : Bool) : (task.begin detached).2.1.Unbegun := by
  have cases := task.life.begin_cases detached task.hasHandler
  unfold Task.begin
  simp only
  split
  · rename_i accepted
    rcases cases with ⟨refusal, refused, _⟩ | ⟨_, _, begun⟩
    · rw [accepted] at refused
      cases refused
    · -- The lock is held until the start is complete.
      intro _ resting
      simp only [begun] at resting
      cases resting
  · exact fun _ _ => .inr rfl
  · rename_i refusal _ declined refused
    rcases cases with ⟨_, _, marked, life⟩ | ⟨_, _, begun⟩
    · exact unbegun.same (by rw [life]) (by rw [life]) rfl
    · rw [begun] at declined
      cases declined

private theorem Unbegun.abandon (unbegun : task.Unbegun) : task.abandon.Unbegun := by
  unfold Task.abandon
  split
  · exact fun _ _ => .inr rfl
  · exact unbegun
  · exact unbegun

private theorem Unbegun.join (unbegun : task.Unbegun) : task.join.2.1.Unbegun := by
  unfold Task.join
  split
  · exact unbegun.abandon
  · exact unbegun.abandon
  · split <;> exact unbegun

private theorem Unbegun.touched (unbegun : task.Unbegun) {move : Host.Move σ π υ} {after : Task σ π ρ υ}
    (touched : Touched task move after) : after.Unbegun := by
  cases touched with
  | begun thread detached => exact unbegun.begin detached
  | joined thread => exact unbegun.join
  | abandoned => exact unbegun.abandon
  | committed =>
    intro new
    cases new
  | prioritized thread priority life effects changed =>
    simp only [Lifecycle.setPriority] at changed
    split at changed <;> cases changed
    exact unbegun
  | spared | dealt | permitted => exact unbegun

private theorem life_of_step {now : Instant} {given : Nat} {progress : Progress σ π ρ υ} {diary : Diary σ π ρ}
    (mirrored : Mirrored task diary) (served : task.step? now given = some progress) :
    progress.task.life = task.life ∨ progress.task.life.state = .terminated := by
  cases turn_of_step? served with
  | ran inside advanced =>
    left
    rcases advance_cases mirrored.exchange (fun _ => none) advanced with ⟨_, _, _, after⟩ |
      ⟨_, _, _, _, _, _, _, _, _, after⟩ | ⟨_, after, _⟩ <;> rw [after]
  | took entry queue =>
    left
    unfold take
    split <;> rfl
  | ordered slot command =>
    left
    cases command <;> rfl
  | left life place terminated => exact .inr (Lifecycle.Over.of_terminate terminated).1
  | entered | started | armed | swept | drained | fired | rearmed | gaveUp | parked | answered | closed | told
    | exited | disposed | reported => exact .inl rfl

private theorem Followed.unbegun_step (followed : Followed course) (unbegun : course.host.task.Unbegun)
    {progress : Progress σ π ρ υ} (steps : course.host.Steps progress) : progress.task.Unbegun := by
  intro new resting
  rcases life_of_step followed.mirrored steps with same | terminated
  · -- It could not have taken a step from where it stood.
    rw [same] at new resting
    rw [Host.Steps, step?] at steps
    rcases unbegun new resting with place | place <;> simp [place] at steps
  · rw [terminated] at new
    cases new

private theorem Followed.unbegun_move (followed : Followed course) (unbegun : course.host.task.Unbegun)
    (move : Host.Move σ π υ) : (course.move move).host.task.Unbegun := by
  show (course.host.move move).task.Unbegun
  cases serves : move.isServe with
  | false => exact unbegun.touched (course.host.move_touched serves)
  | true =>
    obtain rfl := Host.Move.eq_serve serves
    cases steps : course.host.task.step? course.host.kernel.now course.host.kernel.timers with
    | none =>
      rw [Host.serve_of_blocked (by rw [Host.step?, steps]; rfl)]
      exact unbegun
    | some progress =>
      rw [Host.Steps.after steps]
      exact followed.unbegun_step unbegun steps

private theorem Followed.unbegun (followed : Followed course) (unbegun : course.host.task.Unbegun)
    (list : List (Host.Move σ π υ)) : (course.moves list).host.task.Unbegun := by
  induction list generalizing course with
  | nil => exact unbegun
  | cons move rest ih => exact ih (followed.move move) (followed.unbegun_move unbegun move)

private theorem create_unbegun {kernel : Kernel} {thread : ThreadKey} {settings : Settings υ}
    {handler : Handler σ π ρ υ} {state : σ}
    (created : (Host.create kernel thread settings handler state).1 = .ok host) : host.task.Unbegun := by
  obtain ⟨life, initial, _, _, fresh⟩ := create_cases created
  rw [fresh]
  exact fun _ _ => .inl rfl

/-- Whoever turns to the task is told that this is no state for it, and nothing has been done. -/
structure Host.Refuses (host : Host σ π ρ υ) : Prop where
  post : ∀ message, ∃ failure, host.post message = (.error failure, host) ∧ failure.kind = .invalidState
  cancelTimer : ∀ id, ∃ failure,
    host.cancelTimer id = (.error failure, host) ∧ failure.kind = .invalidState
  addTimer : ∀ interval repeats action, ∃ failure,
    (host.addTimer interval repeats action).1 = .error failure ∧
    (host.addTimer interval repeats action).2.task = host.task ∧
    (interval.isZero = false → failure.kind = .invalidState)
  call : ∀ thread message timeout, ∃ failure, (host.call thread message timeout).1 = .error failure ∧
    (host.call thread message timeout).2.task = host.task ∧
    ((host.kernel.isCurrent thread host.task.life.handle).1 = false → failure.kind = .invalidState)

/-- Whoever turns to the task is heard. -/
structure Host.Accepts (host : Host σ π ρ υ) : Prop where
  post : ∀ message, (host.post message).1 = .ok ()
  cancelTimer : ∀ id, (host.cancelTimer id).1 = .ok ()
  addTimer : ∀ interval repeats action, interval.isZero = false →
    ∃ id, (host.addTimer interval repeats action).1 = .ok id
  call : ∀ thread message timeout, (host.kernel.isCurrent thread host.task.life.handle).1 = false →
    ∃ number, (host.call thread message timeout).1 = .ok number

private theorem Host.push_of_closed (host : Host σ π ρ υ) (closed : host.isClosed = true) (command : Command σ π) :
    host.push command = (.error ⟨.queueClosed, .queuePush⟩, host) := by
  rcases host.push_cases command with ⟨_, refused⟩ | ⟨unclosed, _⟩
  · exact refused
  · cases closed.symm.trans unclosed

private theorem Host.push_of_open (host : Host σ π ρ υ) (unclosed : host.isClosed = false) (command : Command σ π) :
    (host.push command).1 = .ok () := by
  rcases host.push_cases command with ⟨closed, _⟩ | ⟨_, _, pushed⟩
  · cases closed.symm.trans unclosed
  · rw [pushed]

private theorem Host.refuses_of_closed (closed : host.isClosed = true) : host.Refuses where
  post message := ⟨_, host.push_of_closed closed _, rfl⟩
  cancelTimer id := ⟨_, host.push_of_closed closed _, rfl⟩
  addTimer interval repeats action := by
    rcases host.addTimer_cases interval repeats action with
      ⟨zero, _, refused⟩ | ⟨_, counted, command, _, same, pushed⟩
    · exact ⟨_, by rw [refused], by rw [refused], by simp [zero]⟩
    · have refused := counted.push_of_closed (by rwa [Host.isClosed, same]) command
      exact ⟨_, by rw [pushed, refused]; rfl, by rw [pushed, refused, same], fun _ => rfl⟩
  call thread message timeout := by
    obtain ⟨_, ⟨own, failure, called⟩ | ⟨_, called⟩ | ⟨unclosed, _⟩⟩ := host.call_cases thread message timeout
    · exact ⟨failure, by rw [called], by rw [called], by simp [own]⟩
    · exact ⟨_, by rw [called], by rw [called], fun _ => rfl⟩
    · cases closed.symm.trans unclosed

private theorem Host.accepts_of_open (unclosed : host.isClosed = false) : host.Accepts where
  post message := host.push_of_open unclosed _
  cancelTimer id := host.push_of_open unclosed _
  addTimer interval repeats action sound := by
    rcases host.addTimer_cases interval repeats action with
      ⟨zero, _⟩ | ⟨_, counted, command, id, same, pushed⟩
    · cases zero.symm.trans sound
    · have accepted := counted.push_of_open (by rwa [Host.isClosed, same]) command
      exact ⟨id, by rw [pushed, accepted]; rfl⟩
  call thread message timeout other := by
    obtain ⟨_, ⟨own, _⟩ | ⟨closed, _⟩ | ⟨_, number, _, called⟩⟩ := host.call_cases thread message timeout
    · cases own.symm.trans other
    · cases closed.symm.trans unclosed
    · exact ⟨number, by rw [called]⟩

/-- Nothing is left of the task for those who can still send to it. -/
structure Host.Released (host : Host σ π ρ υ) : Prop where
  closed : host.isClosed = true
  pending : host.pending = 0
  refuses : host.Refuses
  returns : ∀ (number : Nat) (slot : Slot ρ), host.task.exchange.slots[number]? = some slot →
    slot.answer ≠ none ∧ ∃ response, Exchange.looked slot = .gone response

/-- The task goes on taking in what nobody will ever serve. -/
structure Host.Stranded (host : Host σ π ρ υ) : Prop where
  unclosed : host.isClosed = false
  accepts : host.Accepts
  waits : ∀ (number : Nat) (slot : Slot ρ), host.task.exchange.slots[number]? = some slot →
    slot.answer = none ∧ ∀ response, Exchange.looked slot = .gone response →
      response = .timedOut ∧ slot.deadline.any (· ≤ host.kernel.now) = true

private theorem Followed.sound (followed : Followed course) {number : Nat} {slot : Slot ρ}
    (present : course.host.task.exchange.slots[number]? = some slot) :
    Exchange.SlotSound course.host.kernel.now slot := by
  rw [← followed.clock]
  exact followed.truthful.sound number slot (followed.mirrored.exchange ▸ present)

private theorem Reached.released (reached : Reached course) (ended : course.host.task.place = .ended) :
    course.host.Released := by
  have past : course.host.task.place.isPast = true := by
    rw [ended]
    rfl
  have closed : course.host.isClosed = true := reached.cleared.closed.trans past
  refine ⟨closed, ?_, Host.refuses_of_closed closed, ?_⟩
  · rw [Host.pending, Queue.size, reached.cleared.entries past, List.length_nil]
  · intro number slot present
    obtain ⟨given, _⟩ := Array.getElem?_eq_some_iff.mp present
    obtain ⟨response, answered⟩ := reached.filled ended given
    obtain ⟨found, same, held⟩ := Exchange.answer?_eq_some.mp answered
    obtain rfl : slot = found := Option.some.inj (present.symm.trans same)
    have filled : slot.answer ≠ none := by
      rw [held]
      nofun
    exact ⟨filled, (reached.followed.sound present).looked_filled filled⟩

private theorem Kept.unanswered {handler : Handler σ π ρ υ} (kept : Kept handler course)
    (blank : course.diary.history = []) (number : Nat) :
    course.host.task.exchange.answer? number = none := by
  have followed := kept.reached.followed
  refine Option.eq_none_iff_forall_ne_some.mpr fun response answered => ?_
  rw [← followed.mirrored.exchange] at answered
  rcases followed.truthful.answered.mp answered with ⟨ruling, settled, _⟩ | ⟨discarded, past, _⟩
  · obtain ⟨_, _, _, _, _, called, _⟩ := kept.candid.settled _ _ settled
    rw [blank] at called
    cases called
  · obtain rfl : discarded = true := kept.candid.dropped _ past
    obtain ⟨_, _, drops⟩ := followed.origins.dropped _ past
    rw [if_pos rfl, kept.ledger.discarded, blank] at drops
    cases drops

private theorem Kept.stranded {handler : Handler σ π ρ υ} (kept : Kept handler course)
    (lost : course.host.task.place = .lost) : course.host.Stranded := by
  have unclosed : course.host.isClosed = false := by
    rw [Host.isClosed, kept.reached.cleared.closed, lost]
    rfl
  have blank : course.diary.history = [] := by
    have recorded := kept.reached.recorded
    rwa [lost] at recorded
  refine ⟨unclosed, Host.accepts_of_open unclosed, ?_⟩
  intro number slot present
  have empty : slot.answer = none := by
    have unanswered := kept.unanswered blank number
    rwa [Exchange.answer?, present, Option.bind_some] at unanswered
  exact ⟨empty, fun response gone => (kept.reached.followed.sound present).looked_empty empty gone⟩

/-- The owner joins the task that it has, and hears of this outcome. -/
structure Host.Joins (host : Host σ π ρ υ) (thread : ThreadKey) (outcome : RunOutcome σ) : Prop where
  owned : host.task.abandoned = false
  resting : host.task.life.starting = false
  heard : (host.join thread).1 = .outcome outcome

/-- A join comes back at once when nobody has started the thread, and otherwise when it has ended. -/
theorem join_cases {outcome : RunOutcome σ} (heard : task.join.1 = .outcome outcome) :
    (outcome = .notStarted ∧ task.life.state = .new ∧ task.join.2.1 = task.abandon) ∨
    (outcome = .completed task.surface.state ∧ task.place = .ended) := by
  unfold join Lifecycle.joining at heard ⊢
  by_cases new : task.life.state = .new
  · simp only [if_pos new, Thread.Joined.outcome.injEq] at heard ⊢
    exact .inl ⟨heard.symm, new, trivial⟩
  · rw [if_neg new] at heard
    by_cases detached : task.life.detached = true
    · rw [if_pos detached] at heard
      cases heard
    · rw [if_neg detached] at heard
      simp only at heard
      split at heard
      · cases heard
        exact .inr ⟨rfl, ‹_›⟩
      · cases heard

theorem Host.Joins.move {thread : ThreadKey} {outcome : RunOutcome σ} (joins : host.Joins thread outcome) :
    host.move (.join thread) = (host.join thread).2 := by
  simp [Host.move, Host.asOwner, joins.owned, joins.resting]

private theorem Host.Joins.cases {thread : ThreadKey} {outcome : RunOutcome σ} (joins : host.Joins thread outcome)
    (unbegun : host.task.Unbegun) :
    (outcome = .notStarted ∧ (host.move (.join thread)).task.place = .lost) ∨
    (outcome = .completed host.task.surface.state ∧ (host.move (.join thread)).task.place = .ended) := by
  rcases join_cases joins.heard with ⟨rfl, new, given⟩ | ⟨rfl, ended⟩
  · refine .inl ⟨rfl, ?_⟩
    have task : (host.join thread).2.task = host.task.abandon := given
    rw [joins.move, task]
    rcases unbegun new joins.resting with place | place <;> simp [abandon, place]
  · exact .inr ⟨rfl, (Host.move_final (ended ▸ .ended) _).trans ended⟩

/-- What the task is for its senders after a join with this outcome. -/
structure Host.LeftBy (host : Host σ π ρ υ) (outcome : RunOutcome σ) : Prop where
  contained : ∀ reason, outcome ≠ .failed reason
  released : outcome ≠ .notStarted → host.Released
  stranded : outcome = .notStarted → host.Stranded

private theorem Kept.left_by {handler : Handler σ π ρ υ} {thread : ThreadKey} {outcome : RunOutcome σ}
    (kept : Kept handler course) (unbegun : course.host.task.Unbegun)
    (joins : course.host.Joins thread outcome) (list : List (Host.Move σ π υ)) :
    ((course.move (.join thread)).moves list).host.LeftBy outcome := by
  have later : Kept handler ((course.move (.join thread)).moves list) := (kept.move _).moves list
  have stays (final : (course.host.move (.join thread)).task.place.Final) :
      ((course.move (.join thread)).moves list).host.task.place =
        (course.host.move (.join thread)).task.place := by
    rw [Course.host_moves]
    exact Host.moves_final final list
  rcases joins.cases unbegun with ⟨rfl, lost⟩ | ⟨rfl, ended⟩
  · exact ⟨nofun, absurd rfl, fun _ => later.stranded ((stays (lost ▸ .lost)).trans lost)⟩
  · exact ⟨nofun, fun _ => later.reached.released ((stays (ended ▸ .ended)).trans ended), nofun⟩

/-- A join that brings the handler back leaves a task that has let everybody go, in every interleaving. One
of a task that was never started leaves a task that strands them. -/
theorem every_join_releases_or_strands {kernel : Kernel} {creator thread : ThreadKey}
    {settings : Settings υ} {handler : Handler σ π ρ υ} {state : σ} {outcome : RunOutcome σ}
    (created : (Host.create kernel creator settings handler state).1 = .ok host)
    (list : List (Host.Move σ π υ)) (joins : (host.moves list).Joins thread outcome)
    (more : List (Host.Move σ π υ)) :
    (host.moves (list ++ .join thread :: more)).LeftBy outcome := by
  have kept := start_kept created
  have unbegun := kept.reached.followed.unbegun (create_unbegun created) list
  have same (list : List (Host.Move σ π υ)) : ((Course.start host).moves list).host = host.moves list :=
    Course.host_moves (Course.start host) list
  have divided : (Course.start host).moves (list ++ .join thread :: more) =
      (((Course.start host).moves list).move (.join thread)).moves more := List.foldl_append
  rw [← same] at joins ⊢
  rw [divided]
  exact (kept.moves list).left_by unbegun joins more

/-- One caller has its answer, and another is abandoned because the handler quits with the first message. -/
theorem quit_task_releases : ∃ host : Host Nat Nat Nat Unit,
    (Host.create Worker.kernel 7 (Worker.settings none) Worker.leaving 0).1 = .ok host ∧
    let list : List (Host.Move Nat Nat Unit) := [.call 8 (Message.user 1 (some 5)) none, .look 0,
      .call 9 (Message.user 2 none) none, .look 1, .begin 7 false, .commit] ++ List.replicate 16 .serve
    (host.moves list).task.exchange.slots.toList.map (·.answer) = [some (.handled (some 5)), some .abandoned] ∧
    (host.moves list).Joins 7 (.completed 0) ∧
      ∀ more, (host.moves (list ++ .join 7 :: more)).LeftBy (.completed 0) := by
  have created : (Host.create Worker.kernel 7 (Worker.settings none) Worker.leaving 0).1 = .ok _ := rfl
  refine ⟨_, created, by decide +kernel, ?joins, every_join_releases_or_strands created _ ?joins⟩
  exact ⟨by decide +kernel, by decide +kernel, by decide +kernel⟩

/-- A caller without a deadline waits at a task that is then joined without having been started. The queue
stays open, and the caller is left where it is. -/
theorem unstarted_join_strands_caller : ∃ host : Host Nat Nat Nat Unit,
    (Host.create Worker.kernel 7 (Worker.settings none) Worker.echoing 0).1 = .ok host ∧
    let waited := host.moves [.call 8 (Message.user 1 (some 5)) none, .look 0]
    let joined := waited.move (.join 7)
    waited.Joins 7 .notStarted ∧ joined.isClosed = false ∧
      (joined.post (Message.user 2 none)).1 = .ok () ∧
      joined.task.exchange.slots[0]? = some ⟨none, none, .parked⟩ :=
  ⟨_, rfl, ⟨rfl, rfl, rfl⟩, rfl, rfl, rfl⟩

end TaskKernel.Task
