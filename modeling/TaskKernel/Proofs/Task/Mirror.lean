import TaskKernel.Proofs.Task.Moves

/-!
The diary of a task mirrors it all along, so that what is kept by every step is kept by every
interleaving, and what holds of every session holds of the session of the diary.
-/
namespace TaskKernel.Task

variable {σ π ρ υ α : Type} {task : Task σ π ρ υ} {diary : Diary σ π ρ}

/-- What the moves of others leave alone. -/
structure OuterFrame (session after : Exchange.Session (Command σ π) ρ) : Prop where
  responders : after.responders = session.responders
  history : after.history = session.history ∨
    ∃ entry deadline, after.history = session.history ++ [.admitted entry deadline]
  closed : after.exchange.queue.closed = session.exchange.queue.closed
  shut : session.exchange.queue.closed = true → after.exchange.queue = session.exchange.queue
  messages : ∀ entry ∈ after.exchange.queue.entries, entry ∈ session.exchange.queue.entries ∨
    (entry.item.slot ≠ none → ∃ message, entry.item.item = .deliver message)

private theorem OuterFrame.of_same {session after : Exchange.Session (Command σ π) ρ}
    (responders : after.responders = session.responders) (history : after.history = session.history)
    (queue : after.exchange.queue = session.exchange.queue) : OuterFrame session after where
  responders := responders
  history := .inl history
  closed := by rw [queue]
  shut _ := queue
  messages entry member := .inl (queue ▸ member)

theorem outer_frame (session : Exchange.Session (Command σ π) ρ)
    (move : Exchange.Session.Move (Command σ π) ρ) (outer : Outer move) :
    OuterFrame session (session.move move) := by
  cases move with
  | push priority command pick =>
    rcases session.exchange.push_cases priority command pick with ⟨_, pushed⟩ | ⟨unclosed, pushed⟩
    · simp only [Exchange.Session.move, pushed]
      exact .of_same rfl rfl rfl
    · simp only [Exchange.Session.move, pushed]
      refine ⟨rfl, .inr ⟨_, _, rfl⟩, rfl, fun closed => ?_, ?_⟩
      · rw [unclosed] at closed
        cases closed
      · intro entry member
        refine (List.mem_append.mp member).imp id fun new waits => ?_
        rw [List.mem_singleton.mp new] at waits
        exact absurd rfl waits
  | call priority command deadline pick =>
    obtain ⟨message, rfl⟩ := outer
    rcases session.exchange.call_cases priority (.deliver message) deadline pick with ⟨_, called⟩ |
      ⟨unclosed, called⟩
    · simp only [Exchange.Session.move, called]
      exact .of_same rfl rfl rfl
    · simp only [Exchange.Session.move, called]
      refine ⟨rfl, .inr ⟨_, _, rfl⟩, rfl, fun closed => ?_, ?_⟩
      · rw [unclosed] at closed
        cases closed
      · intro entry member
        refine (List.mem_append.mp member).imp id fun new _ => ?_
        rw [List.mem_singleton.mp new]
        exact ⟨message, rfl⟩
  | look | rouseCaller | expireCaller | rouse | expire => exact .of_same rfl rfl rfl
  | passTo later =>
    simp only [Exchange.Session.move]
    split <;> exact .of_same rfl rfl rfl
  | tryReceive | receive | close | settle | drop => exact outer.elim

theorem ask_frame (diary : Diary σ π ρ) (call : HandlerCall σ π υ) :
    OuterFrame diary.session (diary.ask call).session := by
  cases call with
  | post message => exact outer_frame diary.session (.push message.priority (.deliver message) 0) trivial
  | plain | waitSelf | addTimer | addCallback | cancelTimer | freshTimer | armedCount | quit | isQuitting
    | tickPriority | pending | isClosed | userData | setUserData => exact .of_same rfl rfl rfl

theorem finish_session (diary : Diary σ π ρ) (ending : Ending (Option ρ)) :
    (diary.finish ending).session = diary.session := by
  unfold Diary.finish
  split <;> rfl

private theorem Mirrored.framed (mirrored : Mirrored task diary) {after : Task σ π ρ υ} {next : Diary σ π ρ}
    (frame : OuterFrame diary.session next.session) (exchange : next.session.exchange = after.exchange)
    (responders : task.place.responders = after.place.responders) (sound : after.place.Sound) :
    Mirrored after next := by
  refine ⟨exchange, by rw [frame.responders, mirrored.responders, responders], ?_, sound⟩
  intro entry member waits
  rw [← exchange] at member
  rcases frame.messages entry member with old | new
  · exact mirrored.messages entry (mirrored.exchange ▸ old) waits
  · exact new waits

private theorem Place.Passes.kept {quitting : Bool} {place after : Place σ π ρ υ}
    (passes : place.Passes quitting after) : place.responders = after.responders ∧ after.Sound := by
  cases passes with
  | rearmed | answered => cases quitting <;> exact ⟨rfl, trivial⟩
  | lost | begun | entered | swept | drained | ordered => exact ⟨rfl, trivial⟩

private theorem Place.WindsDown.kept {place after : Place σ π ρ υ} (winds : place.WindsDown after) :
    place.responders = after.responders ∧ after.Sound := by
  cases winds <;> exact ⟨rfl, trivial⟩

private theorem Place.Asks.kept {call : HandlerCall σ π υ} {place : Place σ π ρ υ}
    {resume : call.Answer → Place σ π ρ υ} (asks : place.Asks call resume) (answer : call.Answer) :
    place.responders = (resume answer).responders ∧ (resume answer).Sound := by
  cases asks <;> exact ⟨rfl, trivial⟩

private theorem Place.Ends.kept {quitting : Bool} {ending : Ending (Option ρ)} {place after : Place σ π ρ υ}
    (ends : place.Ends quitting ending after) : place.responders = after.responders ∧ after.Sound := by
  cases ends with
  | starting => cases quitting <;> exact ⟨rfl, trivial⟩
  | handling => exact ⟨rfl, ending, rfl⟩
  | ticking | callingBack | exiting => exact ⟨rfl, trivial⟩

private theorem fire_kept (task : Task σ π ρ υ) (now : Instant) (firing : TimerSet.Firing σ) :
    (task.fire now firing).responders = [] ∧ (task.fire now firing).Sound := by
  unfold fire
  split <;> exact ⟨rfl, trivial⟩

private theorem Mirrored.hand (mirrored : Mirrored task diary) (receiving : task.place = .receiving)
    {entry : Queue.Entry (Parcel (Command σ π))} {queue : Queue (Parcel (Command σ π))}
    (popped : task.exchange.queue.pop? = some (entry, queue)) (waiting : Sync.WaitSet)
    {after : Task σ π ρ υ} {next : Diary σ π ρ}
    (exchange : after.exchange = { task.exchange with queue, waiting })
    (session : next.session = Exchange.Session.hand
      { diary.session with exchange := { task.exchange with queue, waiting } } consumer entry)
    (responders : after.place.responders = entry.item.slot.toList.map (⟨·, false, false⟩))
    (sound : after.place.Sound) : Mirrored after next := by
  refine ⟨by rw [session, exchange]; rfl, ?_, ?_, sound⟩
  · rw [session, responders, Exchange.Session.hand, mirrored.responders, receiving]
    rfl
  · intro other member waits
    rw [exchange, (Queue.pop?_eq_some popped).2] at member
    exact mirrored.messages other (List.mem_filter.mp member).1 waits

theorem Mirrored.step (mirrored : Mirrored task diary) {after : Task σ π ρ υ} {next : Diary σ π ρ}
    (step : Step task diary after next) : Mirrored after next := by
  have same : OuterFrame diary.session diary.session := .of_same rfl rfl rfl
  cases step with
  | aside life surface abandoned disposals stays =>
    exact mirrored.framed same mirrored.exchange rfl mirrored.sound
  | dealt move outer => exact mirrored.framed (outer_frame _ _ outer) rfl rfl mirrored.sound
  | passed life timers abandoned disposals place passes =>
    exact mirrored.framed same mirrored.exchange passes.kept.1 passes.kept.2
  | woundDown life disposals place winds ends =>
    exact mirrored.framed same mirrored.exchange winds.kept.1 winds.kept.2
  | started timers arming => exact mirrored.framed same mirrored.exchange (by rw [arming]; rfl) trivial
  | asked call resume asks answer surface timers userData untimed =>
    exact mirrored.framed (ask_frame diary call) rfl (asks.kept answer).1 (asks.kept answer).2
  | ended ending place ends =>
    have session := finish_session diary ending
    exact mirrored.framed (session ▸ same) (session ▸ mirrored.exchange) ends.kept.1 ends.kept.2
  | fired now firing timers draining =>
    obtain ⟨responders, sound⟩ := fire_kept task now firing
    exact mirrored.framed same mirrored.exchange (by rw [draining, responders]; rfl) sound
  | waited waiting place receiving goes =>
    refine mirrored.framed (.of_same rfl rfl ?_) rfl ?_ ?_
    · rw [mirrored.exchange]
    · rw [receiving]
      rcases goes with rfl | rfl <;> rfl
    · rcases goes with rfl | rfl <;> trivial
  | took entry queue waiting message receiving popped item =>
    exact mirrored.hand receiving popped waiting rfl rfl rfl trivial
  | ordered entry queue waiting receiving popped command =>
    refine mirrored.hand receiving popped waiting rfl rfl rfl ?_
    have member := Queue.front?_mem (Queue.pop?_eq_some popped).1
    show entry.item.slot = none
    cases slot : entry.item.slot with
    | none => rfl
    | some number =>
      obtain ⟨message, item⟩ := mirrored.messages entry member (by rw [slot]; nofun)
      exact absurd item (command message)
  | answered slot ending answering =>
    have session := reply_session mirrored answering
    refine ⟨rfl, ?_, ?_, ?_⟩
    · rw [session, afterCall]
      split <;> rfl
    · rw [session]
      exact mirrored.exchange ▸ mirrored.messages
    · rw [afterCall]
      split <;> trivial
  | closed closing =>
    refine ⟨rfl, ?_, ?_, trivial⟩
    · simp [Diary.deal, Exchange.Session.move, mirrored.responders, closing, mirrored.exchange,
        Place.responders, Exchange.close, Queue.close]
    · simp [Diary.deal, Exchange.Session.move, Exchange.close, Queue.close]
  | told slot slots dropped abandoning =>
    have session := drop_session mirrored abandoning
    refine ⟨rfl, ?_, ?_, trivial⟩
    · rw [session]
      rfl
    · rw [session]
      exact mirrored.exchange ▸ mirrored.messages
  | exited dropped abandoning =>
    exact mirrored.framed same mirrored.exchange (by rw [abandoning]; rfl) trivial

/-- A session goes on by moves, none of which lets time pass. -/
def Deals (session after : Exchange.Session (Command σ π) ρ) : Prop :=
  ∃ list, after = session.moves list ∧ ∀ move ∈ list, ∀ now, move ≠ .passTo now

theorem Deals.refl (session : Exchange.Session (Command σ π) ρ) : Deals session session :=
  ⟨[], rfl, by simp⟩

private theorem Deals.deal (diary : Diary σ π ρ) (move : Exchange.Session.Move (Command σ π) ρ)
    (timeless : ∀ now, move ≠ .passTo now) : Deals diary.session (diary.deal move).session := by
  refine ⟨[move], rfl, ?_⟩
  intro other member
  rwa [List.mem_singleton.mp member]

theorem Deals.trans {first second third : Exchange.Session (Command σ π) ρ}
    (one : Deals first second) (two : Deals second third) : Deals first third := by
  obtain ⟨before, rfl, early⟩ := one
  obtain ⟨after, rfl, late⟩ := two
  refine ⟨before ++ after, (Exchange.Session.moves_append first before after).symm, ?_⟩
  intro move member
  rcases List.mem_append.mp member with old | new
  · exact early move old
  · exact late move new

private theorem Deals.now {session after : Exchange.Session (Command σ π) ρ} (deals : Deals session after) :
    after.now = session.now := by
  obtain ⟨list, rfl, timeless⟩ := deals
  induction list generalizing session with
  | nil => rfl
  | cons move rest ih =>
    rw [List.forall_mem_cons] at timeless
    exact (ih timeless.2).trans (session.move_now move timeless.1)

private theorem reply_deals (diary : Diary σ π ρ) (slot : Nat) (response : Response ρ) :
    Deals diary.session (reply diary slot response).session := by
  cases response with
  | handled reply => exact (Deals.deal diary _ (by simp)).trans (Deals.deal _ _ (by simp))
  | failed reason => exact (Deals.deal diary _ (by simp)).trans (Deals.deal _ _ (by simp))
  | abandoned | timedOut => exact .refl _

private theorem call_deals (diary : Diary σ π ρ) (rest : HandlerCode σ π υ α) (reply : α → Option ρ) :
    Deals diary.session (diary.call rest reply).session := by
  unfold Diary.call
  split
  · exact finish_session diary _ ▸ .refl _
  · exact finish_session diary _ ▸ .refl _
  · unfold Diary.ask
    split
    · exact .deal diary _ (by simp)
    all_goals exact .refl _

private theorem write_deals (task : Task σ π ρ υ) (diary : Diary σ π ρ) :
    Deals diary.session (write task diary).session := by
  unfold write
  split
  · exact .refl _
  · exact call_deals diary _ _
  · exact call_deals diary _ _
  · exact call_deals diary _ _
  · exact call_deals diary _ _
  · exact call_deals diary _ _
  · split <;> exact .refl _
  · simp only
    have received := Deals.deal diary (.receive consumer task.timers.nextDeadline?) (by simp)
    split
    · split <;> exact received
    · exact received
    · exact received
  · exact reply_deals diary _ _
  · exact .deal diary .close (by simp)
  · exact .deal diary _ (by simp)
  all_goals exact .refl _

private theorem Host.write_deals (host : Host σ π ρ υ) (diary : Diary σ π ρ) (move : Host.Move σ π υ)
    (timeless : ∀ now, move ≠ .passTo now) : Deals diary.session (host.write diary move).session := by
  cases move with
  | passTo now => exact absurd rfl (timeless now)
  | post | cancelTimer | look | rouseCaller | expireCaller | rouse | expire => exact .deal diary _ (by simp)
  | call | addTimer =>
    simp only [Host.write]
    split
    · exact .refl _
    · exact .deal diary _ (by simp)
  | serve =>
    simp only [Host.write]
    split
    · exact Task.write_deals host.task diary
    · exact .refl _
  | begin | commit | join | abandon | setPriority | permit | allocateHandle | allocateTimer | identify
    | record => exact .refl _

/-- The diary mirrors the task and has its clock, and its session is one in use. -/
structure Followed (course : Course σ π ρ υ) : Prop where
  mirrored : Mirrored course.host.task course.diary
  clock : course.diary.session.now = course.host.kernel.now
  session : ∃ now list, course.diary.session = (Exchange.Session.start now).moves list

theorem Host.push_kernel (host : Host σ π ρ υ) (command : Command σ π) :
    (host.push command).2.kernel = host.kernel := by
  unfold Host.push
  split <;> rfl

theorem Host.move_now (host : Host σ π ρ υ) (move : Host.Move σ π υ) (timeless : ∀ now, move ≠ .passTo now) :
    (host.move move).kernel.now = host.kernel.now := by
  cases move with
  | passTo now => exact absurd rfl (timeless now)
  | begin thread detached =>
    simp only [Host.move, Host.asOwner]
    split
    · rfl
    · exact Kernel.carryOutAll_now _ _ _
  | commit =>
    simp only [Host.move]
    split <;> rfl
  | join thread =>
    simp only [Host.move, Host.asOwner]
    split
    · rfl
    · exact Kernel.carryOutAll_now _ _ _
  | abandon =>
    simp only [Host.move, Host.asOwner]
    split <;> rfl
  | setPriority thread priority =>
    simp only [Host.move, Host.asOwner]
    split
    · rfl
    · unfold Host.setPriority
      split
      · rfl
      · exact Kernel.carryOutAll_now _ _ _
  | post | cancelTimer => exact congrArg Kernel.now (Host.push_kernel host _)
  | call thread message timeout =>
    have clock := host.kernel.isCurrent_now thread host.task.life.handle
    simp only [Host.move, Host.call]
    generalize host.kernel.isCurrent thread host.task.life.handle = asked at clock ⊢
    obtain ⟨current, after⟩ := asked
    cases current with
    | true => exact (Kernel.carryOutAll_now _ _ _).trans clock
    | false =>
      simp only
      split <;> exact clock
  | addTimer interval repeats action =>
    simp only [Host.move, Host.addTimer]
    split
    · rfl
    · simp only [Host.push_kernel]
      rfl
  | serve =>
    simp only [Host.move, Host.step?]
    cases host.task.step? host.kernel.now host.kernel.timers with
    | none => rfl
    | some progress => exact Kernel.carryOutAll_now _ _ _
  | identify thread => exact Kernel.identify_now _ _
  | record thread level text => exact Kernel.record_now _ _ _ _
  | permit | look | rouseCaller | expireCaller | rouse | expire | allocateHandle | allocateTimer => rfl

variable {course : Course σ π ρ υ}

theorem Followed.step (followed : Followed course) (move : Host.Move σ π υ) :
    Step course.host.task course.diary (course.move move).host.task (course.move move).diary :=
  course.move_step followed.mirrored followed.clock move

private theorem Course.move_session (course : Course σ π ρ υ) (move : Host.Move σ π υ) :
    ∃ list, (course.move move).diary.session = course.diary.session.moves list := by
  by_cases timed : ∃ now, move = .passTo now
  · obtain ⟨now, rfl⟩ := timed
    exact ⟨[.passTo now], rfl⟩
  · obtain ⟨list, dealt, _⟩ := course.host.write_deals course.diary move fun now same => timed ⟨now, same⟩
    exact ⟨list, dealt⟩

theorem Course.moves_session (course : Course σ π ρ υ) (list : List (Host.Move σ π υ)) :
    ∃ more, (course.moves list).diary.session = course.diary.session.moves more := by
  induction list generalizing course with
  | nil => exact ⟨[], rfl⟩
  | cons move rest ih =>
    obtain ⟨first, one⟩ := course.move_session move
    obtain ⟨second, two⟩ := ih (course.move move)
    exact ⟨first ++ second, by rw [Exchange.Session.moves_append, ← one]; exact two⟩

theorem Followed.move (followed : Followed course) (move : Host.Move σ π υ) :
    Followed (course.move move) := by
  refine ⟨followed.mirrored.step (followed.step move), ?_, ?_⟩
  · by_cases timed : ∃ now, move = .passTo now
    · obtain ⟨now, rfl⟩ := timed
      simp only [Course.move, Host.move, Host.write, Diary.deal, Exchange.Session.move, followed.clock]
      split
      · rfl
      · exact followed.clock
    · have timeless : ∀ now, move ≠ .passTo now := fun now same => timed ⟨now, same⟩
      have deals := course.host.write_deals course.diary move timeless
      exact deals.now.trans (followed.clock.trans (course.host.move_now move timeless).symm)
  · obtain ⟨first, list, session⟩ := followed.session
    obtain ⟨more, dealt⟩ := course.move_session move
    exact ⟨first, list ++ more, by rw [dealt, session, Exchange.Session.moves_append]⟩

/-- What every step keeps is kept by every interleaving. -/
theorem Followed.keeps (followed : Followed course) {kept : Task σ π ρ υ → Diary σ π ρ → Prop}
    (step : ∀ task diary after next, Mirrored task diary → kept task diary →
      Step task diary after next → kept after next)
    (initial : kept course.host.task course.diary) (list : List (Host.Move σ π υ)) :
    kept (course.moves list).host.task (course.moves list).diary := by
  induction list generalizing course with
  | nil => exact initial
  | cons move rest ih =>
    exact ih (followed.move move) (step _ _ _ _ followed.mirrored initial (followed.step move))

theorem create_cases {kernel : Kernel} {thread : ThreadKey} {settings : Settings υ}
    {handler : Handler σ π ρ υ} {state : σ} {host : Host σ π ρ υ}
    (created : (Host.create kernel thread settings handler state).1 = .ok host) :
    ∃ life initial, life.state = .new ∧ life.starting = false ∧ host.task =
      Task.create life handler state initial settings.tickPriority settings.userData := by
  unfold Host.create at created
  simp only at created
  split at created
  · cases created
  · split at created
    · cases created
    · rename_i initial _ _ life built
      cases created
      obtain ⟨new, _, resting⟩ := Lifecycle.build_new built
      exact ⟨life, initial, new, resting, rfl⟩

theorem start_followed {host : Host σ π ρ υ} {life : Lifecycle} {handler : Handler σ π ρ υ} {state : σ}
    {initial : Option (Timer σ)} {tickPriority : Priority} {userData : Option υ}
    (fresh : host.task = Task.create life handler state initial tickPriority userData) :
    Followed (Course.start host) := by
  refine ⟨⟨?_, ?_, ?_, ?_⟩, rfl, host.kernel.now, [], rfl⟩
  · simp [Course.start, Diary.blank, Exchange.Session.start, fresh, Task.create]
  · simp [Course.start, Diary.blank, Exchange.Session.start, fresh, Task.create, Place.responders]
  · simp [Course.start, fresh, Task.create, Exchange.empty, Queue.empty]
  · simp [Course.start, fresh, Task.create, Place.Sound]

end TaskKernel.Task
