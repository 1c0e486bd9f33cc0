import TaskKernel.Proofs.Task.Line

/-!
A task that finds all its messages in its queue when it is started. Every step of its thread handles the line of
these messages in its order, whatever others do meanwhile but post.
-/
namespace TaskKernel.Task

variable {σ π ρ υ α : Type} {handler : Handler σ π ρ υ} {outlook : Outlook} {fresh : Scene σ υ}
  {admitted : List (Envelope σ π)} {course : Course σ π ρ υ}

/-- What is asked of a handler: it neither posts nor arms timers, and its start does not end the service. -/
structure Calm (handler : Handler σ π ρ υ) (outlook : Outlook) (fresh : Scene σ υ) : Prop where
  onStart : handler.onStart.Silent
  handle : ∀ message, (handler.handle message).Silent
  goesOn : ∀ pending ending started, handler.onStart.Plays (outlook.serving pending) fresh ending started →
    started.quits = false

variable {task next : Task σ π ρ υ} {diary later : Diary σ π ρ}

private theorem Lined.onward (lined : Lined handler outlook fresh admitted task diary)
    (handle : next.life.handle = task.life.handle) (name : next.life.name = task.life.name)
    (tickPriority : next.tickPriority = task.tickPriority) (timers : next.timers = TimerSet.empty)
    (initial : next.initial = none)
    (books : Exchange.Session.admitted later.session.history = Exchange.Session.admitted diary.session.history)
    (standing : Standing handler outlook fresh admitted later.activity (conclusions later.history)
      next.exchange.queue.entries next.scene next.place) :
    Lined handler outlook fresh admitted next later where
  books := books.trans lined.books
  handle := handle.trans lined.handle
  name := name.trans lined.name
  tickPriority := tickPriority.trans lined.tickPriority
  timers := timers
  initial := initial
  messages := lined.messages
  begins := lined.begins
  standing := standing

private theorem Lined.asleep (lined : Lined handler outlook fresh admitted task diary) {surface : Surface σ}
    (same : surface.state = task.surface.state)
    (books : Exchange.Session.admitted later.session.history = Exchange.Session.admitted diary.session.history)
    (history : later.history = diary.history) (activity : later.activity = diary.activity) :
    Lined handler outlook fresh admitted { task with surface } later := by
  refine lined.onward rfl rfl rfl lined.timers lined.initial books ?_
  have scene : Task.scene { task with surface } = task.scene := by
    rw [Task.scene, same]
    rfl
  rw [scene, history, activity]
  exact lined.standing

private theorem call_admitted (diary : Diary σ π ρ) {rest : HandlerCode σ π υ α}
    (silent : ∀ call next, rest = .ask call next → call.isSilent = true) (reply : α → Option ρ) :
    Exchange.Session.admitted (diary.call rest reply).session.history =
      Exchange.Session.admitted diary.session.history := by
  cases ended : rest.ending? with
  | some ending => rw [call_of_ended ended, finish_session]
  | none =>
    cases rest with
    | done => cases ended
    | ask call next =>
      rw [call_of_ask reply ended]
      have quiet := silent call next rfl
      cases call with
      | post | addTimer | addCallback => cases quiet
      | plain | waitSelf | cancelTimer | freshTimer | armedCount | quit | isQuitting | tickPriority | pending
        | isClosed | userData | setUserData => rfl

private theorem Lined.plods (lined : Lined handler outlook fresh admitted task diary) {rest : HandlerCode σ π υ α}
    {resume : HandlerCode σ π υ α → Place σ π ρ υ} {finish : Ending α → Place σ π ρ υ × List Effect}
    {reply : α → Option ρ} (silent : ∀ call next, rest = .ask call next → call.isSilent = true)
    (plods : Plods task rest resume finish next)
    (ends : ∀ ending, rest.ending? = some ending →
      Standing handler outlook fresh admitted (diary.finish (ending.map reply)).activity
        (conclusions (diary.finish (ending.map reply)).history) task.exchange.queue.entries task.scene (finish ending).1)
    (goesOn : ∀ (call : HandlerCall σ π υ) (follow : call.Answer → HandlerCode σ π υ α) (answer : call.Answer)
      (after : Scene σ υ), rest = .ask call follow → call.Yields task.outlook task.scene answer after →
        Standing handler outlook fresh admitted diary.activity (conclusions diary.history)
          task.exchange.queue.entries after (resume (follow answer))) :
    Lined handler outlook fresh admitted next (diary.call rest reply) := by
  have books := call_admitted diary silent reply
  cases plods with
  | ends ending ended =>
    refine lined.onward rfl rfl rfl lined.timers lined.initial books ?_
    rw [call_of_ended ended]
    exact ends ending ended
  | answered call follow answer surface userData quitting asks unended yields =>
    refine lined.onward rfl rfl rfl lined.timers lined.initial books ?_
    obtain ⟨history, activity⟩ := call_of_unended diary unended reply
    rw [history, activity]
    exact goesOn call follow answer _ asks yields
  | sleeps surface unended same =>
    obtain ⟨history, activity⟩ := call_of_unended diary unended reply
    exact lined.asleep same books history activity

private theorem Lined.outlook_serving (lined : Lined handler outlook fresh admitted task diary)
    (opened : task.exchange.queue.closed = false) :
    task.outlook = outlook.serving task.exchange.queue.entries.length := by
  rw [Task.outlook, lined.handle, lined.name, lined.tickPriority, opened]
  rfl

private theorem Lined.outlook_leaving (lined : Lined handler outlook fresh admitted task diary)
    (closed : task.exchange.queue.closed = true) (empty : task.exchange.queue.entries = []) :
    task.outlook = outlook.leaving := by
  rw [Task.outlook, lined.handle, lined.name, lined.tickPriority, closed, Queue.size, empty]
  rfl

private theorem finish_conclusions {activity : Activity σ π} (current : diary.activity = some activity)
    (ending : Ending (Option ρ)) : conclusions (diary.finish ending).history =
      conclusions diary.history ++ (Event.ended activity ending diary.asked).conclusion?.toList := by
  simp only [Diary.finish, current, conclusions_append]

theorem length_sorted {γ : Type} (entries : List (Queue.Entry γ)) :
    (Queue.sorted entries).length = entries.length := (Queue.sorted_perm entries).length_eq

private theorem Kept.open_of_serving (kept : Kept handler course) {place : Place σ π ρ υ}
    (stands : course.host.task.place = place) (serving : place.isPast = false) :
    course.host.task.exchange.queue.closed = false := by
  rw [kept.reached.cleared.closed, stands, serving]

private theorem Kept.lined_starting (kept : Kept handler course) (calm : Calm handler outlook fresh)
    (lined : Lined handler outlook fresh admitted course.host.task course.diary) {rest : HandlerCode σ π υ Unit}
    (place : course.host.task.place = .starting rest) {progress : Progress σ π ρ υ}
    (steps : course.host.Steps progress) :
    Lined handler outlook fresh admitted progress.task (write course.host.task course.diary) := by
  have standing := lined.standing
  rw [place] at standing
  obtain ⟨done, entries, performs⟩ := standing
  have silent := performs.silent calm.onStart
  have view := lined.outlook_serving (kept.open_of_serving place rfl)
  rw [entries] at view
  simp only [Host.Steps, step?, place] at steps
  rw [write, place]
  refine lined.plods silent (advance_plods lined.timers silent steps) ?_ ?_
  · intro ending ended
    have goesOn : course.host.task.quitting = false := calm.goesOn _ _ _ ⟨rest, performs, ended⟩
    have current : course.diary.activity = some .starting := by
      have engaged := kept.reached.engaged
      rw [Engaged, place] at engaged
      generalize course.diary.activity = activity at engaged
      cases engaged with
      | starting => rfl
      | nothing _ quiet => cases quiet
    rw [finish_conclusions current, afterCall, if_neg (by simp [goesOn]), done, entries]
    exact ⟨ending, course.host.task.scene, ⟨rest, performs, ended⟩, .start⟩
  · intro call follow answer after asks yields
    rw [view] at yields
    exact ⟨done, entries, (asks ▸ performs).next yields⟩

theorem Kept.deliver_of_queued (kept : Kept handler course)
    (lined : Lined handler outlook fresh admitted course.host.task course.diary) {entry : Envelope σ π}
    (queued : entry ∈ course.host.task.exchange.queue.entries) : ∃ message, entry.item.item = .deliver message := by
  obtain ⟨message, carries⟩ := lined.messages entry (lined.books ▸ kept.reached.followed.admitted_of_queued queued)
  exact ⟨message, carries.item⟩

private theorem Kept.numbered (kept : Kept handler course) : course.host.task.exchange.queue.Numbered :=
  kept.reached.followed.mirrored.exchange ▸ kept.reached.followed.books.numbered

private theorem receive_admitted (diary : Diary σ π ρ) (deadline : Option Instant) :
    Exchange.Session.admitted (diary.deal (.receive consumer deadline)).session.history =
      Exchange.Session.admitted diary.session.history := Exchange.Session.move_admitted diary.session rfl

private theorem Kept.lined_taking (kept : Kept handler course)
    (lined : Lined handler outlook fresh admitted course.host.task course.diary)
    (place : course.host.task.place = .receiving) {entry : Envelope σ π} {queue : Queue (Parcel (Command σ π))}
    {waiting : Sync.WaitSet} (popped : course.host.task.exchange.queue.pop? = some (entry, queue))
    (received : course.host.task.exchange.receive consumer course.host.task.timers.nextDeadline? =
      (.received entry, { course.host.task.exchange with queue, waiting })) :
    Lined handler outlook fresh admitted
      (take { course.host.task with exchange := { course.host.task.exchange with queue, waiting } } entry.item)
      (write course.host.task course.diary) := by
  have standing := lined.standing
  rw [place] at standing
  obtain ⟨found, _⟩ := Queue.pop?_eq_some popped
  obtain ⟨message, item⟩ := kept.deliver_of_queued lined (Queue.front?_mem found)
  simp only [write, place, received, item, take]
  refine lined.onward rfl rfl rfl lined.timers lined.initial (receive_admitted _ _) ?_
  have history : conclusions ((course.diary.deal (.receive consumer
      course.host.task.timers.nextDeadline?)).begin (.handling (some entry) message)).history =
        conclusions course.diary.history := by
    simp [Diary.begin, Diary.deal]
  rw [history]
  have underway : Underway handler outlook fresh admitted
    (conclusions course.diary.history) (Queue.sorted course.host.task.exchange.queue.entries)
    course.host.task.scene := standing
  rw [kept.numbered.sorted_pop popped] at underway
  refine ⟨entry, message, course.host.task.scene, rfl, rfl, underway, item, ?_⟩
  rw [kept.handler]
  exact .refl

private theorem Kept.lined_handling (kept : Kept handler course) (calm : Calm handler outlook fresh)
    (lined : Lined handler outlook fresh admitted course.host.task course.diary) {slot : Option Nat}
    {rest : HandlerCode σ π υ (Option ρ)} (place : course.host.task.place = .handling slot rest)
    {progress : Progress σ π ρ υ} (steps : course.host.Steps progress) :
    Lined handler outlook fresh admitted progress.task (write course.host.task course.diary) := by
  have standing := lined.standing
  rw [place] at standing
  obtain ⟨entry, message, before, slotted, current, midway⟩ := standing
  have silent := midway.performs.silent (calm.handle message)
  have view := lined.outlook_serving (kept.open_of_serving place rfl)
  rw [← length_sorted] at view
  have ends : course.host.task.quitting = (course.diary.asked || message.kind.isQuit) := by
    have engaged := kept.reached.engaged
    rw [Engaged, current, place] at engaged
    cases engaged with
    | handling _ _ _ _ _ ends => exact ends
  simp only [Host.Steps, step?, place] at steps
  rw [write, place]
  refine lined.plods silent (advance_plods lined.timers silent steps) ?_ ?_
  · intro ending ended
    rw [finish_conclusions current, Ending.map_id]
    exact ⟨_, ⟨entry, message, ending, _⟩, before, rfl, midway.underway, midway.item, ⟨rest, midway.performs, ended⟩,
      ends⟩
  · intro call follow answer after asks yields
    rw [view] at yields
    exact ⟨entry, message, before, slotted, current, midway.underway, midway.item,
      (asks ▸ midway.performs).next yields⟩

private theorem reply_admitted (diary : Diary σ π ρ) (slot : Nat) (response : Response ρ) :
    Exchange.Session.admitted (reply diary slot response).session.history =
      Exchange.Session.admitted diary.session.history := by
  cases response with
  | handled | failed =>
    exact (Exchange.Session.move_admitted _ rfl).trans (Exchange.Session.move_admitted _ rfl)
  | abandoned | timedOut => rfl

private theorem Lined.answering (lined : Lined handler outlook fresh admitted course.host.task course.diary)
    {slot : Option Nat} {response : Response ρ} (place : course.host.task.place = .answering slot response) :
    Lined handler outlook fresh admitted
      { course.host.task with
        exchange := course.host.task.exchange.answer slot response
        place := course.host.task.afterCall } (write course.host.task course.diary) := by
  have standing := lined.standing
  rw [place] at standing
  obtain ⟨earlier, conclusion, before, done, ⟨ending, started, starts, passed⟩, handles⟩ := standing
  have written : Exchange.Session.admitted (write course.host.task course.diary).session.history =
        Exchange.Session.admitted course.diary.session.history ∧
      (write course.host.task course.diary).history = course.diary.history := by
    cases slot with
    | none => simp [write, place]
    | some number => simp [write, place, reply_admitted, reply_history]
  refine lined.onward rfl rfl rfl lined.timers lined.initial written.1 ?_
  have queue : (course.host.task.exchange.answer slot response).queue = course.host.task.exchange.queue := by
    cases slot <;> rfl
  simp only [written.2, afterCall, done, queue]
  by_cases quits : course.host.task.quitting = true
  · rw [if_pos quits]
    exact ⟨_, ending, started, starts, .last passed handles quits⟩
  · rw [if_neg quits]
    exact ⟨ending, started, starts, .next passed handles (Bool.not_eq_true _ ▸ quits)⟩

private theorem Kept.lined_exiting (kept : Kept handler course)
    (lined : Lined handler outlook fresh admitted course.host.task course.diary) {rest : HandlerCode σ π υ Unit}
    (place : course.host.task.place = .exiting rest) {progress : Progress σ π ρ υ}
    (steps : course.host.Steps progress) :
    Lined handler outlook fresh admitted progress.task (write course.host.task course.diary) := by
  have standing := lined.standing
  rw [place] at standing
  obtain ⟨left, last, stopped, performs⟩ := standing
  have silent := performs.silent (HandlerCode.ofBody_silent handler.onExit)
  have cleared := kept.reached.cleared
  have past : course.host.task.place.isPast = true := by rw [place]; rfl
  have view := lined.outlook_leaving (cleared.closed.trans past) (cleared.entries past)
  simp only [Host.Steps, step?, place] at steps
  rw [write, place]
  refine lined.plods silent (advance_plods lined.timers silent steps) ?_ ?_
  · intro ending ended
    have current : course.diary.activity = some .exiting := by
      have engaged := kept.reached.engaged
      rw [Engaged, place] at engaged
      generalize course.diary.activity = activity at engaged
      cases engaged with
      | exiting => rfl
      | nothing _ quiet => cases quiet
    rw [finish_conclusions current]
    simp only [Event.conclusion?, Option.toList_none, List.append_nil]
    exact ⟨left, last, ending, stopped, rest, performs, ended⟩
  · intro call follow answer after asks yields
    rw [view] at yields
    exact ⟨left, last, stopped, (asks ▸ performs).next yields⟩

private theorem Kept.lined_arming (kept : Kept handler course)
    (lined : Lined handler outlook fresh admitted course.host.task course.diary)
    (place : course.host.task.place = .arming) :
    Lined handler outlook fresh admitted
      { course.host.task with
        initial := none
        quitting := false
        place := .starting course.host.task.handler.onStart } (write course.host.task course.diary) := by
  have standing := lined.standing
  rw [place] at standing
  obtain ⟨done, entries, same⟩ := standing
  rw [write, place]
  refine lined.onward rfl rfl rfl lined.timers rfl rfl ?_
  simp only [Diary.begin, conclusions_append, Event.conclusion?, Option.toList_none, List.append_nil]
  refine ⟨done, entries, ?_⟩
  have begins : Task.scene { course.host.task with quitting := false } = fresh := by
    rw [← same, Task.scene, Task.scene]
    have quits : course.host.task.quitting = fresh.quits := congrArg Scene.quits same
    rw [quits, lined.begins]
  rw [kept.handler]
  exact begins ▸ .refl

private theorem Kept.lined_abandoned (kept : Kept handler course)
    (lined : Lined handler outlook fresh admitted course.host.task course.diary) {dropped : Nat}
    (place : course.host.task.place = .abandoning [] dropped) :
    Lined handler outlook fresh admitted
      { course.host.task with place := .exiting (HandlerCode.ofBody course.host.task.handler.onExit) }
      (write course.host.task course.diary) := by
  have standing := lined.standing
  rw [place] at standing
  obtain ⟨left, stopped⟩ := standing
  rw [write, place]
  refine lined.onward rfl rfl rfl lined.timers lined.initial rfl ?_
  simp only [Diary.begin, conclusions_append, Event.conclusion?, Option.toList_none, List.append_nil]
  rw [kept.handler]
  exact ⟨left, _, stopped, .refl⟩

private theorem Kept.lined_serve (kept : Kept handler course) (calm : Calm handler outlook fresh)
    (lined : Lined handler outlook fresh admitted course.host.task course.diary) {progress : Progress σ π ρ υ}
    (steps : course.host.Steps progress) :
    Lined handler outlook fresh admitted progress.task (write course.host.task course.diary) := by
  have standing := lined.standing
  cases turn_of_step? steps with
  | started place => exact kept.lined_arming lined place
  | took entry queue place popped received => exact kept.lined_taking lined place popped received
  | answered slot response place => exact lined.answering place
  | exited dropped place => exact kept.lined_abandoned lined place
  | armed timer place initial =>
    rw [lined.initial] at initial
    cases initial
  | fired began firing timers place due =>
    rw [lined.timers] at due
    cases due
  | rearmed began timer place | ordered slot command place =>
    rw [place] at standing
    exact standing.elim
  | ran inside advanced =>
    cases inside with
    | starting rest place => exact kept.lined_starting calm lined place steps
    | handling slot rest place => exact kept.lined_handling calm lined place steps
    | exiting rest place => exact kept.lined_exiting lined place steps
    | ticking began timer rest place | callingBack began timer rest place =>
      rw [place] at standing
      exact standing.elim
  | entered place | swept place | disposed place | reported place =>
    rw [place] at standing
    rw [write, place]
    exact lined.onward rfl rfl rfl lined.timers lined.initial rfl standing
  | drained began place due =>
    rw [place] at standing
    simp only [write, place, due]
    exact lined.onward rfl rfl rfl lined.timers lined.initial rfl standing
  | gaveUp place empty futile received | parked place empty unclosed unexpired received =>
    rw [place] at standing
    simp only [write, place, received]
    exact lined.onward rfl rfl rfl lined.timers lined.initial (receive_admitted _ _) standing
  | closed place =>
    rw [place] at standing
    rw [write, place]
    refine lined.onward rfl rfl rfl rfl lined.initial (Exchange.Session.move_admitted _ rfl) ?_
    simp only [conclusions_append, Event.conclusion?, Option.toList_none, List.append_nil]
    exact standing
  | told slot slots dropped place =>
    rw [place] at standing
    rw [write, place]
    exact lined.onward rfl rfl rfl lined.timers lined.initial (Exchange.Session.move_admitted _ rfl) standing
  | left life place terminated =>
    rw [place] at standing
    rw [write, place]
    obtain ⟨_, rfl⟩ := Lifecycle.terminate?_eq_some terminated
    exact lined.onward rfl rfl rfl lined.timers lined.initial rfl standing

/-- Whether a call of the handler begins for a timer. -/
def Event.isTimed : Event σ π ρ → Bool
  | .began (.handling none _) | .began (.callingBack _) => true
  | .began (.handling (some _) _) | .began .starting | .began .exiting | .ended .. | .closed _ => false

private theorem untimed_step (step : Step task diary next later)
    (unfired : ∀ now firing, next.place ≠ task.fire now firing)
    (untimed : ∀ event ∈ diary.history, event.isTimed = false) : ∀ event ∈ later.history, event.isTimed = false := by
  have appended {event : Event σ π ρ} (fine : event.isTimed = false) :
      ∀ found ∈ diary.history ++ [event], found.isTimed = false :=
    List.forall_mem_append.mpr ⟨untimed, List.forall_mem_singleton.mpr fine⟩
  cases step with
  | aside | dealt | passed | woundDown | waited | ordered | told => exact untimed
  | asked call => exact (ask_history diary call).symm ▸ untimed
  | answered slot ending => exact (reply_history diary slot (responseOf ending)).symm ▸ untimed
  | ended ending place ends =>
    unfold Diary.finish
    split
    · exact untimed
    · exact appended rfl
  | fired now firing => exact absurd rfl (unfired now firing)
  | started | took | closed | exited => exact appended rfl

private theorem Lined.unfired (lined : Lined handler outlook fresh admitted next later) (now : Instant)
    (firing : TimerSet.Firing σ) : next.place ≠ task.fire now firing := by
  intro fires
  have standing := lined.standing
  rw [fires, fire] at standing
  split at standing <;> exact standing

/-- What holds of the task and of its diary all along. -/
structure Backlog (handler : Handler σ π ρ υ) (outlook : Outlook) (fresh : Scene σ υ)
    (admitted : List (Envelope σ π)) (course : Course σ π ρ υ) : Prop where
  kept : Kept handler course
  lined : Lined handler outlook fresh admitted course.host.task course.diary
  untimed : ∀ event ∈ course.diary.history, event.isTimed = false

/-- Nothing is posted but messages, and these before the task is started. -/
def Host.Early (host : Host σ π ρ υ) : List (Host.Move σ π υ) → Prop
  | [] => True
  | move :: rest => host.Admits move ∧ (host.move move).Early rest

theorem Course.serve_cases (course : Course σ π ρ υ) :
    (course.host.step? = none ∧ course.move .serve = course) ∨ ∃ progress, course.host.Steps progress ∧
      (course.move .serve).host.task = progress.task ∧
      (course.move .serve).diary = Task.write course.host.task course.diary := by
  cases steps : course.host.step? with
  | none =>
    refine .inl ⟨rfl, ?_⟩
    rw [Course.move, Host.serve_of_blocked steps, Host.write, steps]
    rfl
  | some after =>
    obtain ⟨progress, served, rfl⟩ := Option.map_eq_some_iff.mp steps
    refine .inr ⟨progress, served, Host.Steps.after served, ?_⟩
    rw [Course.move, Host.write, steps]
    rfl

private theorem Backlog.move_lined (backlog : Backlog handler outlook fresh admitted course)
    (calm : Calm handler outlook fresh) {move : Host.Move σ π υ} (admits : course.host.Admits move) :
    ∃ more, (move.sends = false → more = []) ∧
      Lined handler outlook fresh (admitted ++ more) (course.move move).host.task (course.move move).diary := by
  cases serves : move.isServe with
  | false => exact backlog.lined.aside backlog.kept.reached.followed serves admits
  | true =>
    obtain rfl := Host.Move.eq_serve serves
    refine ⟨[], fun _ => rfl, ?_⟩
    rw [List.append_nil]
    rcases course.serve_cases with ⟨_, same⟩ | ⟨progress, steps, task, diary⟩
    · rw [same]
      exact backlog.lined
    · rw [task, diary]
      exact backlog.kept.lined_serve calm backlog.lined steps

theorem Backlog.move (backlog : Backlog handler outlook fresh admitted course) (calm : Calm handler outlook fresh)
    {move : Host.Move σ π υ} (admits : course.host.Admits move) : ∃ more, (move.sends = false → more = []) ∧
      Backlog handler outlook fresh (admitted ++ more) (course.move move) := by
  obtain ⟨more, none, lined⟩ := backlog.move_lined calm admits
  have step := backlog.kept.reached.followed.step move
  exact ⟨more, none, backlog.kept.move move, lined, untimed_step step lined.unfired backlog.untimed⟩

theorem Backlog.moves (backlog : Backlog handler outlook fresh admitted course) (calm : Calm handler outlook fresh)
    {list : List (Host.Move σ π υ)} (early : course.host.Early list) :
    ∃ all, Backlog handler outlook fresh all (course.moves list) := by
  induction list generalizing course admitted with
  | nil => exact ⟨admitted, backlog⟩
  | cons move rest ih =>
    obtain ⟨more, _, next⟩ := backlog.move calm early.1
    exact ih next early.2

private theorem create_untimed {kernel : Kernel} {thread : ThreadKey} {settings : Settings υ} {state : σ}
    {host : Host σ π ρ υ} (created : (Host.create kernel thread settings handler state).1 = .ok host)
    (untimed : settings.periodic = none) : host.task.initial = none := by
  simp only [Host.create, untimed] at created
  split at created
  · cases created
  · cases created
    rfl

theorem start_backlog {kernel : Kernel} {thread : ThreadKey} {settings : Settings υ} {state : σ}
    {host : Host σ π ρ υ} (created : (Host.create kernel thread settings handler state).1 = .ok host)
    (untimed : settings.periodic = none) : Backlog handler host.task.outlook host.task.scene [] (Course.start host) := by
  have initial := create_untimed created untimed
  obtain ⟨life, timer, _, _, fresh⟩ := create_cases created
  refine ⟨start_kept created, ⟨rfl, rfl, rfl, rfl, ?_, initial, List.forall_mem_nil _, ?_, ?_⟩,
    List.forall_mem_nil _⟩
  · simp [Course.start, fresh, Task.create]
  · simp [scene, fresh, Task.create]
  · simp only [Course.start, fresh, Task.create]
    exact ⟨rfl, rfl, rfl⟩

end TaskKernel.Task
