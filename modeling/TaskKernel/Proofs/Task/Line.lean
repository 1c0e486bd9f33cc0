import TaskKernel.Proofs.Queue.Sorting
import TaskKernel.Proofs.Task.Delivery
import TaskKernel.Proofs.Task.Scenes

/-!
The line of the messages that a task finds in its queue when it is started. Each is handled on what the one
before has left, and the first that ends the service cuts the line. As long as nobody orders timers, others only
add to the line, and only before the start.
-/
namespace TaskKernel

/-- Whether a move takes an entry into the queue, if the queue is open. -/
def Exchange.Session.Move.admits {α β : Type} : Move α β → Bool
  | .push .. | .call .. => true
  | .tryReceive _ | .receive .. | .close | .settle .. | .drop _ | .look _ | .rouseCaller _ | .expireCaller _
    | .rouse _ | .expire _ | .passTo _ => false

theorem Exchange.Session.move_admitted {α β : Type} (session : Session α β) {move : Move α β}
    (quiet : move.admits = false) : admitted (session.move move).history = admitted session.history := by
  cases move with
  | push | call => cases quiet
  | tryReceive thread =>
    simp only [Session.move]
    split <;> simp [hand]
  | receive thread deadline =>
    simp only [Session.move]
    split <;> simp [hand]
  | close => simp [Session.move]
  | settle slot ruling =>
    simp only [Session.move]
    split <;> simp [settle]
  | drop responder =>
    simp only [Session.move]
    split <;> simp [drop]
  | look | rouseCaller | expireCaller | rouse | expire => rfl
  | passTo now =>
    simp only [Session.move]
    split <;> rfl

namespace Task

variable {σ π ρ υ : Type}

/-- A message with the end of the handler's call for it. -/
structure Conclusion (σ π ρ : Type) where
  entry : Envelope σ π
  message : Message π
  ending : Ending (Option ρ)
  asked : Bool

/-- Whether the service ends with a message. -/
def Conclusion.quits (conclusion : Conclusion σ π ρ) : Bool := conclusion.asked || conclusion.message.kind.isQuit

@[simp] def Event.conclusion? : Event σ π ρ → Option (Conclusion σ π ρ)
  | .ended (.handling (some entry) message) ending asked => some ⟨entry, message, ending, asked⟩
  | .ended (.handling none _) .. | .ended .starting .. | .ended (.callingBack _) .. | .ended .exiting ..
    | .began _ | .closed _ => none

/-- The messages for which the call of the handler is over, in the order in which they were handled. -/
def conclusions (history : List (Event σ π ρ)) : List (Conclusion σ π ρ) := history.filterMap Event.conclusion?

@[simp] theorem conclusions_append (history : List (Event σ π ρ)) (event : Event σ π ρ) :
    conclusions (history ++ [event]) = conclusions history ++ event.conclusion?.toList := by
  rw [conclusions, List.filterMap_append, List.filterMap_cons]
  cases event.conclusion? <;> rfl

end Task

/-- What a call for a message begins with. -/
def Scene.facing {σ π υ : Type} (scene : Scene σ υ) (message : Message π) : Scene σ υ :=
  { scene with quits := message.kind.isQuit }

/-- The code of the last call of a handler. -/
def Handler.exitCode {σ π ρ υ : Type} (handler : Handler σ π ρ υ) : HandlerCode σ π υ Unit :=
  HandlerCode.ofBody handler.onExit

namespace Task

variable {σ π ρ υ α : Type}

/-- A message is handled while a number of others is behind it. -/
structure Handles (handler : Handler σ π ρ υ) (outlook : Outlook) (behind : Nat) (scene : Scene σ υ)
    (conclusion : Conclusion σ π ρ) (after : Scene σ υ) : Prop where
  item : conclusion.entry.item.item = .deliver conclusion.message
  plays : (handler.handle conclusion.message).Plays (outlook.serving behind) (scene.facing conclusion.message)
    conclusion.ending after
  ends : after.quits = conclusion.quits

/-- The first messages of a line are handled, one after the other, and the service goes on. -/
inductive Passed (handler : Handler σ π ρ υ) (outlook : Outlook) (line : List (Envelope σ π))
    (started : Scene σ υ) : List (Conclusion σ π ρ) → List (Envelope σ π) → Scene σ υ → Prop
  | start : Passed handler outlook line started [] line started
  | next {done : List (Conclusion σ π ρ)} {conclusion : Conclusion σ π ρ} {left : List (Envelope σ π)}
      {scene after : Scene σ υ} (passed : Passed handler outlook line started done (conclusion.entry :: left) scene)
      (handles : Handles handler outlook left.length scene conclusion after) (goesOn : after.quits = false) :
      Passed handler outlook line started (done ++ [conclusion]) left after

/-- The messages of a line are handled up to the first one that ends the service. -/
inductive Stopped (handler : Handler σ π ρ υ) (outlook : Outlook) (line : List (Envelope σ π))
    (started : Scene σ υ) : List (Conclusion σ π ρ) → List (Envelope σ π) → Scene σ υ → Prop
  | last {done : List (Conclusion σ π ρ)} {conclusion : Conclusion σ π ρ} {left : List (Envelope σ π)}
      {scene after : Scene σ υ} (passed : Passed handler outlook line started done (conclusion.entry :: left) scene)
      (handles : Handles handler outlook left.length scene conclusion after) (quits : after.quits = true) :
      Stopped handler outlook line started (done ++ [conclusion]) left after

variable {handler : Handler σ π ρ υ} {outlook : Outlook} {line left : List (Envelope σ π)}
  {started scene last fresh : Scene σ υ} {done : List (Conclusion σ π ρ)} {admitted : List (Envelope σ π)}

theorem Passed.split (passed : Passed handler outlook line started done left scene) :
    done.map (·.entry) ++ left = line := by
  induction passed with
  | start => rfl
  | next _ _ _ ih => simpa using ih

theorem Stopped.split (stopped : Stopped handler outlook line started done left last) :
    done.map (·.entry) ++ left = line := by
  cases stopped with
  | last passed => simpa using passed.split

/-- After the start of the handler, the first messages of those that were admitted have been handled. -/
def Underway (handler : Handler σ π ρ υ) (outlook : Outlook) (fresh : Scene σ υ) (admitted : List (Envelope σ π))
    (done : List (Conclusion σ π ρ)) (left : List (Envelope σ π)) (scene : Scene σ υ) : Prop :=
  ∃ ending started, handler.onStart.Plays (outlook.serving admitted.length) fresh ending started ∧
    Passed handler outlook (Queue.sorted admitted) started done left scene

/-- After the start of the handler, the messages have been handled up to the one that ends the service. -/
def Over (handler : Handler σ π ρ υ) (outlook : Outlook) (fresh : Scene σ υ) (admitted : List (Envelope σ π))
    (done : List (Conclusion σ π ρ)) (left : List (Envelope σ π)) (last : Scene σ υ) : Prop :=
  ∃ ending started, handler.onStart.Plays (outlook.serving admitted.length) fresh ending started ∧
    Stopped handler outlook (Queue.sorted admitted) started done left last

/-- A message is being handled. -/
structure Midway (handler : Handler σ π ρ υ) (outlook : Outlook) (fresh : Scene σ υ)
    (admitted : List (Envelope σ π)) (done : List (Conclusion σ π ρ)) (entry : Envelope σ π) (message : Message π)
    (entries : List (Envelope σ π)) (rest : HandlerCode σ π υ (Option ρ)) (before scene : Scene σ υ) : Prop where
  underway : Underway handler outlook fresh admitted done (entry :: Queue.sorted entries) before
  item : entry.item.item = .deliver message
  performs : (handler.handle message).Performs (outlook.serving (Queue.sorted entries).length)
    (before.facing message) rest scene

/-- How far the messages that were admitted have been handled, at each place. -/
def Standing (handler : Handler σ π ρ υ) (outlook : Outlook) (fresh : Scene σ υ) (admitted : List (Envelope σ π))
    (activity : Option (Activity σ π)) (done : List (Conclusion σ π ρ)) (entries : List (Envelope σ π))
    (scene : Scene σ υ) : Place σ π ρ υ → Prop
  | .lost => True
  | .idle | .entering | .arming => done = [] ∧ entries = admitted ∧ scene = fresh
  | .starting rest => done = [] ∧ entries = admitted ∧
    handler.onStart.Performs (outlook.serving admitted.length) fresh rest scene
  | .sweeping | .draining _ | .receiving =>
    Underway handler outlook fresh admitted done (Queue.sorted entries) scene
  | .handling slot rest => ∃ entry message before, entry.item.slot = slot ∧
    activity = some (.handling (some entry) message) ∧
    Midway handler outlook fresh admitted done entry message entries rest before scene
  | .answering .. => ∃ earlier conclusion before, done = earlier ++ [conclusion] ∧
    Underway handler outlook fresh admitted earlier (conclusion.entry :: Queue.sorted entries) before ∧
    Handles handler outlook (Queue.sorted entries).length before conclusion scene
  | .closing | .abandoning .. => ∃ left, Over handler outlook fresh admitted done left scene
  | .exiting rest => ∃ left last, Over handler outlook fresh admitted done left last ∧
    handler.exitCode.Performs outlook.leaving last rest scene
  | .disposing | .leaving | .reporting | .ended => ∃ left last ending,
    Over handler outlook fresh admitted done left last ∧
    handler.exitCode.Plays outlook.leaving last ending scene
  | .ticking .. | .callingBack .. | .rearming .. | .ordering .. => False

/-- An entry is a message with its own urgency. -/
structure Carries (entry : Envelope σ π) (message : Message π) : Prop where
  item : entry.item.item = .deliver message
  priority : entry.priority = message.priority

/-- The messages that a task has found in its queue, and how far it has handled them. -/
structure Lined (handler : Handler σ π ρ υ) (outlook : Outlook) (fresh : Scene σ υ) (admitted : List (Envelope σ π))
    (task : Task σ π ρ υ) (diary : Diary σ π ρ) : Prop where
  books : Exchange.Session.admitted diary.session.history = admitted
  handle : task.life.handle = outlook.handle
  name : task.life.name = outlook.name
  tickPriority : task.tickPriority = outlook.tickPriority
  timers : task.timers = TimerSet.empty
  initial : task.initial = none
  messages : ∀ entry ∈ admitted, ∃ message, Carries entry message
  begins : fresh.quits = false
  standing : Standing handler outlook fresh admitted diary.activity (conclusions diary.history)
    task.exchange.queue.entries task.scene task.place

/-- What no one but the thread itself changes. -/
structure Aloof (task after : Task σ π ρ υ) : Prop where
  handle : after.life.handle = task.life.handle
  name : after.life.name = task.life.name
  tickPriority : after.tickPriority = task.tickPriority
  timers : after.timers = task.timers
  initial : after.initial = task.initial
  scene : after.scene = task.scene

private theorem begin_aloof (task : Task σ π ρ υ) (detached : Bool) : Aloof task (task.begin detached).2.1 := by
  have same : (task.life.begin detached task.hasHandler).life.handle = task.life.handle ∧
      (task.life.begin detached task.hasHandler).life.name = task.life.name := by
    unfold Lifecycle.begin
    simp only
    split
    · exact ⟨rfl, rfl⟩
    · split
      · exact ⟨rfl, rfl⟩
      · split <;> exact ⟨rfl, rfl⟩
  unfold begin
  simp only
  split <;> exact ⟨same.1, same.2, rfl, rfl, rfl, rfl⟩

private theorem abandon_aloof (task : Task σ π ρ υ) : Aloof task task.abandon := by
  unfold abandon
  split <;> exact ⟨rfl, rfl, rfl, rfl, rfl, rfl⟩

private theorem join_aloof (task : Task σ π ρ υ) : Aloof task task.join.2.1 := by
  unfold join
  split
  · exact abandon_aloof task
  · exact abandon_aloof task
  · split <;> exact ⟨rfl, rfl, rfl, rfl, rfl, rfl⟩

private theorem Touched.aloof {task after : Task σ π ρ υ} {move : Host.Move σ π υ} (touched : Touched task move after) :
    Aloof task after := by
  cases touched with
  | begun thread detached => exact begin_aloof task detached
  | joined thread => exact join_aloof task
  | abandoned => exact abandon_aloof task
  | prioritized thread priority life effects changed =>
    simp only [Lifecycle.setPriority] at changed
    split at changed <;> cases changed
    exact ⟨rfl, rfl, rfl, rfl, rfl, rfl⟩
  | spared | committed | dealt | permitted => exact ⟨rfl, rfl, rfl, rfl, rfl, rfl⟩

/-- Whether a move of another than the thread posts to the task. -/
def Host.Move.sends : Host.Move σ π υ → Bool
  | .post _ | .call .. | .addTimer .. | .cancelTimer _ => true
  | .begin .. | .commit | .join _ | .abandon | .setPriority .. | .serve | .permit | .look _ | .rouseCaller _
    | .expireCaller _ | .rouse | .expire | .passTo _ | .allocateHandle | .allocateTimer | .identify _
    | .record .. => false

/-- Whether a move orders a timer or its end. -/
def Host.Move.isOrder : Host.Move σ π υ → Bool
  | .addTimer .. | .cancelTimer _ => true
  | .begin .. | .commit | .join _ | .abandon | .setPriority .. | .post _ | .call .. | .serve | .permit | .look _
    | .rouseCaller _ | .expireCaller _ | .rouse | .expire | .passTo _ | .allocateHandle | .allocateTimer
    | .identify _ | .record .. => false

private theorem begin_place {task : Task σ π ρ υ} (idle : task.place = .idle) (detached : Bool) :
    (task.begin detached).2.1.place = .idle ∨ (task.begin detached).2.1.place = .lost ∨
      (task.begin detached).2.1.place = .entering := by
  unfold begin
  simp only
  split
  · exact .inr (.inr rfl)
  · exact .inr (.inl rfl)
  · exact .inl idle

private theorem abandon_place {task : Task σ π ρ υ} (idle : task.place = .idle) : task.abandon.place = .lost := by
  simp only [abandon, idle]

theorem Host.move_place (host : Host σ π ρ υ) {move : Host.Move σ π υ} (other : move.isServe = false) :
    (host.move move).task.place = host.task.place ∨ host.task.place = .idle ∧ move.sends = false ∧
      ((host.move move).task.place = .lost ∨ (host.move move).task.place = .entering) := by
  have touched := host.move_touched other
  by_cases idle : host.task.place = .idle
  case neg => exact .inl (touched.still idle).place
  generalize (host.move move).task = after at touched
  cases touched with
  | begun thread detached =>
    exact (begin_place idle detached).imp (·.trans idle.symm) fun moved => ⟨idle, rfl, moved⟩
  | abandoned => exact .inr ⟨idle, rfl, .inl (abandon_place idle)⟩
  | joined thread =>
    unfold Task.join
    split
    · exact .inr ⟨idle, rfl, .inl (abandon_place idle)⟩
    · exact .inr ⟨idle, rfl, .inl (abandon_place idle)⟩
    · split <;> exact .inl rfl
  | spared | committed | prioritized | dealt | permitted => exact .inl rfl

/-- What comes to the queue and to its books at once. -/
structure Joined (session after : Exchange.Session (Command σ π) ρ) (more : List (Envelope σ π)) : Prop where
  messages : ∀ entry ∈ more, ∃ message, Carries entry message
  entries : after.exchange.queue.entries = session.exchange.queue.entries ++ more
  admitted : Exchange.Session.admitted after.history = Exchange.Session.admitted session.history ++ more

private theorem Joined.none {session after : Exchange.Session (Command σ π) ρ}
    (queue : after.exchange.queue.entries = session.exchange.queue.entries)
    (history : Exchange.Session.admitted after.history = Exchange.Session.admitted session.history) :
    Joined session after [] where
  messages := List.forall_mem_nil _
  entries := by rw [queue, List.append_nil]
  admitted := by rw [history, List.append_nil]

private theorem push_joins (session : Exchange.Session (Command σ π) ρ) (message : Message π) :
    ∃ more, Joined session (session.move (.push message.priority (.deliver message) 0)) more := by
  rcases session.exchange.push_cases message.priority (.deliver message) 0 with ⟨_, pushed⟩ | ⟨_, pushed⟩
  · exact ⟨[], .none (by simp only [Exchange.Session.move, pushed]) (by simp only [Exchange.Session.move, pushed])⟩
  · refine ⟨[⟨message.priority, session.exchange.queue.arrivals, ⟨.deliver message, none⟩⟩], ?_, ?_, ?_⟩
    · rw [List.forall_mem_singleton]
      exact ⟨message, rfl, rfl⟩
    · simp only [Exchange.Session.move, pushed]
      rfl
    · simp only [Exchange.Session.move, pushed, Exchange.Session.note, Exchange.Session.admitted_append]
      rfl

private theorem call_joins (session : Exchange.Session (Command σ π) ρ) (message : Message π)
    (deadline : Option Instant) :
    ∃ more, Joined session (session.move (.call message.priority (.deliver message) deadline 0)) more := by
  rcases session.exchange.call_cases message.priority (.deliver message) deadline 0 with ⟨_, called⟩ | ⟨_, called⟩
  · exact ⟨[], .none (by simp only [Exchange.Session.move, called]) (by simp only [Exchange.Session.move, called])⟩
  · refine ⟨[⟨message.priority, session.exchange.queue.arrivals,
      ⟨.deliver message, some session.exchange.slots.size⟩⟩], ?_, ?_, ?_⟩
    · rw [List.forall_mem_singleton]
      exact ⟨message, rfl, rfl⟩
    · simp only [Exchange.Session.move, called]
      rfl
    · simp only [Exchange.Session.move, called, Exchange.Session.note, Exchange.Session.admitted_append]
      rfl

private theorem Host.write_joins (host : Host σ π ρ υ) (diary : Diary σ π ρ) {move : Host.Move σ π υ}
    (other : move.isServe = false) (plain : move.isOrder = false) :
    (host.write diary move).history = diary.history ∧ (host.write diary move).activity = diary.activity ∧
      ∃ more, Joined diary.session (host.write diary move).session more ∧ (move.sends = false → more = []) := by
  cases move with
  | serve => cases other
  | addTimer | cancelTimer => cases plain
  | post message =>
    obtain ⟨more, joined⟩ := push_joins diary.session message
    exact ⟨rfl, rfl, more, joined, by simp [Host.Move.sends]⟩
  | call thread message timeout =>
    simp only [Host.write]
    split
    · exact ⟨rfl, rfl, [], .none rfl rfl, fun _ => rfl⟩
    · obtain ⟨more, joined⟩ :=
        call_joins diary.session message (timeout.map (Clock.deadline host.kernel.now))
      exact ⟨rfl, rfl, more, joined, by simp [Host.Move.sends]⟩
  | passTo now =>
    refine ⟨rfl, rfl, [], .none ?_ ?_, fun _ => rfl⟩
    all_goals
      simp only [Host.write, Diary.deal, Exchange.Session.move]
      split <;> rfl
  | begin | commit | join | abandon | setPriority | permit | look | rouseCaller | expireCaller | rouse | expire
    | allocateHandle | allocateTimer | identify | record => exact ⟨rfl, rfl, [], .none rfl rfl, fun _ => rfl⟩

/-- Messages are posted before the task is started, and timers are never ordered. -/
def Host.Admits (host : Host σ π ρ υ) (move : Host.Move σ π υ) : Prop :=
  move.isOrder = false ∧ (move.sends = true → host.task.place = .idle)

variable {course : Course σ π ρ υ}

theorem Lined.aside (lined : Lined handler outlook fresh admitted course.host.task course.diary)
    (followed : Followed course) {move : Host.Move σ π υ} (other : move.isServe = false)
    (admits : course.host.Admits move) : ∃ more, (move.sends = false → more = []) ∧
      Lined handler outlook fresh (admitted ++ more) (course.move move).host.task (course.move move).diary := by
  have aloof := (course.host.move_touched other).aloof
  obtain ⟨history, activity, more, joined, none⟩ := Host.write_joins course.host course.diary other admits.1
  have entries : (course.move move).host.task.exchange.queue.entries =
      course.host.task.exchange.queue.entries ++ more := by
    rw [← followed.mirrored.exchange, ← (followed.move move).mirrored.exchange]
    exact joined.entries
  refine ⟨more, none, ?_, aloof.handle.trans lined.handle, aloof.name.trans lined.name,
    aloof.tickPriority.trans lined.tickPriority, aloof.timers.trans lined.timers, aloof.initial.trans lined.initial,
    List.forall_mem_append.mpr ⟨lined.messages, joined.messages⟩, lined.begins, ?_⟩
  · rw [← lined.books]
    exact joined.admitted
  · have standing := lined.standing
    show Standing handler outlook fresh (admitted ++ more) (course.host.write course.diary move).activity
      (conclusions (course.host.write course.diary move).history)
      (course.move move).host.task.exchange.queue.entries (course.host.move move).task.scene
      (course.host.move move).task.place
    rw [entries, history, activity, aloof.scene]
    rcases Host.move_place course.host other with stays | ⟨idle, silent, moved⟩
    · rw [stays]
      cases sends : move.sends with
      | false =>
        rw [none sends, List.append_nil, List.append_nil]
        exact standing
      | true =>
        rw [admits.2 sends] at standing ⊢
        exact ⟨standing.1, by rw [standing.2.1], standing.2.2⟩
    · rw [none silent, List.append_nil, List.append_nil]
      rw [idle] at standing
      rcases moved with lost | entering
      · rw [lost]
        trivial
      · rw [entering]
        exact standing

end Task

end TaskKernel
