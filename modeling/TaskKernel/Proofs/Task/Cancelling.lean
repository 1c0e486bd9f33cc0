import TaskKernel.Proofs.Task.Orders
import TaskKernel.Proofs.Task.Quitting

/-!
The end of a timer by order. When a message that was accepted after the order has been answered, the order
has been carried out or the timers have been given up, and no tick of the timer comes any more.
-/
namespace TaskKernel

variable {σ π ρ υ : Type}

private theorem Priority.le_realtime (priority : Priority) : priority ≤ .realtime := by
  cases priority <;> decide

theorem Command.timer?_eq_some {command : Command σ π} {timer : Timer σ} (hands : command.timer? = some timer) :
    command = .addTimer timer := by
  cases command with
  | addTimer => exact congrArg Command.addTimer (Option.some.inj hands)
  | deliver | cancelTimer => cases hands

/-- The number of the timer that an answer to the handler is about. -/
def HandlerCall.timer? : (call : HandlerCall σ π υ) → call.Answer → Option TimerId
  | .addTimer .., answer | .addCallback .., answer => Except.toOption answer
  | .plain _, _ | .post _, _ | .waitSelf .., _ | .cancelTimer _, _ | .freshTimer, _ | .armedCount, _ | .quit, _
    | .isQuitting, _ | .tickPriority, _ | .pending, _ | .isClosed, _ | .userData, _ | .setUserData _, _ => none

namespace Task

variable {task next : Task σ π ρ υ} {diary later : Diary σ π ρ} {entry other : Envelope σ π} {message : Message π}
  {handler : Handler σ π ρ υ} {course : Course σ π ρ υ} {id : TimerId}

/-- Whether the thread is yet to arm the timer that starts with the task. -/
def Place.isEarly : Place σ π ρ υ → Bool
  | .idle | .lost | .entering | .arming => true
  | .starting _ | .sweeping | .draining _ | .ticking .. | .callingBack .. | .rearming .. | .receiving
    | .handling .. | .answering .. | .ordering .. | .closing | .abandoning .. | .exiting _ | .disposing | .leaving | .reporting
    | .ended => false

/-- The timer that starts with a task waits no longer than its thread takes to get going. -/
def Opened (task : Task σ π ρ υ) : Prop := task.place.isEarly = true ∨ task.initial = none

private theorem Place.Passes.early {quitting : Bool} {place after : Place σ π ρ υ}
    (passes : place.Passes quitting after) (early : place.isEarly = true) : after.isEarly = true := by
  cases passes with
  | lost | begun | entered => rfl
  | swept | drained | rearmed | ordered | answered => cases early

private theorem Place.Asks.late {place : Place σ π ρ υ} {call : HandlerCall σ π υ}
    {resume : call.Answer → Place σ π ρ υ} (asks : place.Asks call resume) : place.isEarly = false := by
  cases asks <;> rfl

private theorem Place.Ends.late {quitting : Bool} {ending : Ending (Option ρ)} {place after : Place σ π ρ υ}
    (ends : place.Ends quitting ending after) : place.isEarly = false := by
  cases ends <;> rfl

private theorem Place.WindsDown.late {place after : Place σ π ρ υ} (winds : place.WindsDown after) :
    place.isEarly = false := by
  cases winds <;> rfl

private theorem Step.opened (step : Step task diary next later) (opened : Opened task) : Opened next := by
  have kept (late : task.place.isEarly = false) (same : next.initial = task.initial) : Opened next := by
    rcases opened with early | none
    · rw [late] at early
      cases early
    · exact .inr (same.trans none)
  cases step with
  | aside | dealt => exact opened
  | passed life timers abandoned disposals place passes => exact opened.imp passes.early id
  | woundDown life disposals place winds ends => exact kept winds.late rfl
  | started => exact .inr rfl
  | asked call resume asks => exact kept asks.late rfl
  | ended ending place ends => exact kept ends.late rfl
  | fired _ _ _ place | waited _ _ place | took _ _ _ _ place | ordered _ _ _ place | answered _ _ place
    | closed place | told _ _ _ place | exited _ place => exact kept (by rw [place]; rfl) rfl

private theorem serve_number {now : Instant} {given : Nat} {call : HandlerCall σ π υ} {answer : call.Answer}
    {progress : Progress σ π ρ υ} (served : task.serve now given call = .answered answer progress)
    (gets : call.timer? answer = some id) : id.number = progress.given := by
  have armed {interval : Delay} {repeats : Repeat} {action : TimerAction σ} {operation : Operation}
      (gets : (task.armNew now given interval repeats action operation).1.toOption = some id) :
      id.number = (task.armNew now given interval repeats action operation).2.given := by
    unfold armNew at gets ⊢
    split at gets <;> cases gets
    rename_i timer created
    simp only [TimerSet.Session.created_id created]
  cases call with
  | addTimer | addCallback =>
    cases served
    exact armed gets
  | plain | post | waitSelf | cancelTimer | freshTimer | armedCount | quit | isQuitting | tickPriority | pending
    | isClosed | userData | setUserData => cases gets

private theorem step?_of_asks {now : Instant} {given : Nat} {call : HandlerCall σ π υ}
    {resume : call.Answer → Place σ π ρ υ} (asks : task.place.Asks call resume) {answer : call.Answer}
    {progress : Progress σ π ρ υ} (served : task.serve now given call = .answered answer progress) :
    ∃ effects, task.step? now given =
      some ⟨{ progress.task with place := resume answer }, progress.given, effects⟩ := by
  refine ⟨progress.effects, ?_⟩
  generalize place : task.place = stands at asks
  cases asks <;> simp only [step?, place, advance, served]

namespace Host

variable {host : Host σ π ρ υ}

/-- The timer with this number has been made for a sender or for the handler by the end of these moves. -/
inductive Obtained (host : Host σ π ρ υ) : List (Move σ π υ) → TimerId → Prop
  | sent (before after : List (Move σ π υ)) {interval : Delay} {repeats : Repeat} {action : TimerAction σ}
      {id : TimerId} (answer : ((host.moves before).addTimer interval repeats action).1 = .ok id) :
      Obtained host (before ++ .addTimer interval repeats action :: after) id
  | asked (before after : List (Move σ π υ)) {call : HandlerCall σ π υ} {resume : call.Answer → Place σ π ρ υ}
      (asks : (host.moves before).task.place.Asks call resume) {answer : call.Answer}
      {progress : Progress σ π ρ υ} (served : (host.moves before).task.serve (host.moves before).kernel.now
        (host.moves before).kernel.timers call = .answered answer progress)
      {id : TimerId} (gets : call.timer? answer = some id) :
      Obtained host (before ++ .serve :: after) id

private theorem addTimer_issued {interval : Delay} {repeats : Repeat} {action : TimerAction σ}
    (answer : (host.addTimer interval repeats action).1 = .ok id) :
    id.number ≤ (host.move (.addTimer interval repeats action)).kernel.timers := by
  simp only [Host.move, Host.addTimer, Timer.create] at answer ⊢
  by_cases zero : interval.isZero = true
  · rw [if_pos zero] at answer
    cases answer
  · rw [if_neg zero] at answer ⊢
    simp only [Host.push, Command.priority] at answer ⊢
    rcases host.task.exchange.push_cases .realtime
      (.addTimer ⟨⟨host.kernel.timers + 1⟩, interval, repeats, 0, action⟩) 0 with ⟨_, pushed⟩ | ⟨_, pushed⟩
    · rw [pushed] at answer
      cases answer
    · rw [pushed] at answer ⊢
      cases answer
      exact Nat.le_refl _

private theorem serve_issued {call : HandlerCall σ π υ} {resume : call.Answer → Place σ π ρ υ}
    (asks : host.task.place.Asks call resume) {answer : call.Answer} {progress : Progress σ π ρ υ}
    (served : host.task.serve host.kernel.now host.kernel.timers call = .answered answer progress)
    (gets : call.timer? answer = some id) : id.number ≤ (host.move .serve).kernel.timers := by
  obtain ⟨effects, goes⟩ := step?_of_asks asks served
  have still := Kernel.carryOutAll_still { host.kernel with timers := progress.given } host.native effects
  simp only [Host.move, Host.step?, goes, Option.map_some, Option.getD_some]
  exact Nat.le_of_eq ((serve_number served gets).trans still.timers.symm)

end Host

namespace Watch

variable {watch : Watch σ π ρ υ} {order : Envelope σ π}

/-- How an order to cancel a timer stands that has been accepted. -/
structure Cancelling (watch : Watch σ π ρ υ) (id : TimerId) (order : Envelope σ π) : Prop where
  opened : Opened watch.course.host.task
  issued : id.number ≤ watch.course.host.kernel.timers
  item : order.item = ⟨.cancelTimer id, none⟩
  admitted : order ∈ Exchange.Session.admitted watch.course.diary.session.history
  last : ∀ other ∈ Exchange.Session.admitted watch.course.diary.session.history, order.arrival < other.arrival →
    ∀ timer, other.item.item = .addTimer timer → timer.id ≠ id
  carried : order ∈ Exchange.Session.taken watch.course.diary.session.history →
    watch.course.host.task.place = .ordering none (.cancelTimer id) ∨ watch.timers.Gone id
  passed : ∀ other ∈ Exchange.Session.taken watch.course.diary.session.history, order.arrival < other.arrival →
    watch.timers.Gone id

private theorem Cancelling.unmade (cancelling : watch.Cancelling id order) (whole : watch.Whole handler)
    (place : watch.course.host.task.place = .ordering none (.cancelTimer id))
    (past : order ∈ Exchange.Session.taken watch.course.diary.session.history) :
    id ∉ watch.timers.made.map (·.id) := by
  have reached := whole.kept.reached
  have books := reached.followed.books
  obtain ⟨refused, made, unclosed⟩ := whole.sound.keeps.made
  have none : refused = [] := unclosed (reached.cleared.closed.trans (by rw [place]; rfl))
  have initial : watch.course.host.task.initial = .none :=
    cancelling.opened.resolve_left (by rw [place]; nofun)
  intro member
  obtain ⟨timer, present, rfl⟩ := List.mem_map.mp member
  have waits : timer ∈ timersOf watch.course.host.task.exchange.queue.entries := by
    simpa [waiting, none, initial, place, Place.ordered?, Command.timer?] using made.mem_iff.mp present
  obtain ⟨other, queued, hands⟩ := List.mem_filterMap.mp waits
  have item : other.item.item = .addTimer timer := Command.timer?_eq_some hands
  have admitted := reached.followed.admitted_of_queued queued
  rcases Nat.lt_trichotomy other.arrival order.arrival with earlier | same | later
  · -- An order for the timer goes first and cannot be queued any more.
    have urgent : order.priority ≤ other.priority := by
      rw [whole.urgent other admitted, item]
      exact Priority.le_realtime order.priority
    have taken := tally_pos (reached.followed.turns.taken_before books past admitted earlier urgent)
    have waits := tally_pos queued
    have once := books.tally admitted
    rw [reached.followed.mirrored.exchange] at once
    omega
  · obtain rfl := books.same_arrival admitted cancelling.admitted same
    rw [cancelling.item] at item
    cases item
  · exact cancelling.last other admitted later timer item rfl

private theorem Cancelling.move_ordering (cancelling : watch.Cancelling id order) (whole : watch.Whole handler)
    (place : watch.course.host.task.place = .ordering none (.cancelTimer id))
    (past : order ∈ Exchange.Session.taken watch.course.diary.session.history) (move : Host.Move σ π υ) :
    (watch.move move).course.host.task.place = .ordering none (.cancelTimer id) ∨
      (watch.move move).timers.Gone id := by
  rcases Watch.move_ordering place move with still | carries
  · exact .inl still
  · have keeps := whole.sound.keeps
    have idle : watch.timers.out = none := by
      rw [keeps.out, place]
      rfl
    right
    rw [carries]
    simp only [timings, place, TimerSet.Session.moves, List.foldl_cons, List.foldl_nil]
    exact keeps.sound.cancel_gone (keeps.given ▸ cancelling.issued) idle (cancelling.unmade whole place past)

private theorem Cancelling.move_carried (cancelling : watch.Cancelling id order) (whole : watch.Whole handler)
    (move : Host.Move σ π υ)
    (past : order ∈ Exchange.Session.taken (watch.move move).course.diary.session.history) :
    (watch.move move).course.host.task.place = .ordering none (.cancelTimer id) ∨
      (watch.move move).timers.Gone id := by
  have followed := whole.kept.reached.followed
  rcases (followed.step move).taken followed.mirrored with same | ⟨receives, other, more, goes⟩
  · have before : order ∈ Exchange.Session.taken watch.course.diary.session.history := same ▸ past
    rcases cancelling.carried before with place | gone
    · exact cancelling.move_ordering whole place before move
    · exact .inr (gone.moves _)
  · have after : order ∈ Exchange.Session.taken watch.course.diary.session.history ++ [other] := more ▸ past
    rcases List.mem_append.mp after with old | new
    · rcases cancelling.carried old with place | gone
      · rw [receives] at place
        cases place
      · exact .inr (gone.moves _)
    · obtain rfl := List.mem_singleton.mp new
      rw [cancelling.item] at goes
      rcases goes with ⟨message, item, _⟩ | place
      · cases item
      · exact .inl place

private theorem Cancelling.le (cancelling : watch.Cancelling id order) (whole : watch.Whole handler)
    (priority : Priority) : priority ≤ order.priority := by
  rw [whole.urgent order cancelling.admitted, cancelling.item]
  exact Priority.le_realtime priority

/-- Nothing overtakes the order, so it has been carried out when something later is taken. -/
private theorem Cancelling.move_passed (cancelling : watch.Cancelling id order) (whole : watch.Whole handler)
    (move : Host.Move σ π υ)
    (past : other ∈ Exchange.Session.taken (watch.move move).course.diary.session.history)
    (later : order.arrival < other.arrival) : (watch.move move).timers.Gone id := by
  have followed := whole.kept.reached.followed
  have after := (followed.move move)
  rcases (followed.step move).taken followed.mirrored with same | ⟨receives, first, more, _⟩
  · exact (cancelling.passed other (same ▸ past) later).moves _
  · have taken : order ∈ Exchange.Session.taken (watch.course.move move).diary.session.history :=
      after.turns.taken_before after.books past (watch.course.move_admitted move cancelling.admitted) later
        (cancelling.le whole other.priority)
    rw [more] at taken
    rcases List.mem_append.mp (more ▸ past) with old | new
    · exact (cancelling.passed other old later).moves _
    · obtain rfl := List.mem_singleton.mp new
      rcases List.mem_append.mp taken with before | itself
      · rcases cancelling.carried before with place | gone
        · rw [receives] at place
          cases place
        · exact gone.moves _
      · rw [List.mem_singleton.mp itself] at later
        exact absurd later (Nat.lt_irrefl _)

private theorem Sound.move_issued (sound : watch.Sound) (move : Host.Move σ π υ) :
    watch.course.host.kernel.timers ≤ (watch.move move).course.host.kernel.timers := by
  rw [← sound.keeps.given, ← (sound.move move).keeps.given]
  exact watch.timers.moves_given _

theorem Cancelling.move (cancelling : watch.Cancelling id order) (whole : watch.Whole handler)
    (move : Host.Move σ π υ) : (watch.move move).Cancelling id order where
  opened := (whole.kept.reached.followed.step move).opened cancelling.opened
  issued := Nat.le_trans cancelling.issued (whole.sound.move_issued move)
  item := cancelling.item
  admitted := watch.course.move_admitted move cancelling.admitted
  last := by
    intro other admitted later timer item
    rcases watch.course.move_admits move other admitted with old | proper
    · exact cancelling.last other old later timer item
    · rintro rfl
      have number := proper.number timer item
      have issued := cancelling.issued
      omega
  carried := cancelling.move_carried whole move
  passed _ past later := cancelling.move_passed whole move past later

theorem Cancelling.moves (cancelling : watch.Cancelling id order) (whole : watch.Whole handler)
    (list : List (Host.Move σ π υ)) : (watch.moves list).Cancelling id order := by
  induction list generalizing watch with
  | nil => exact cancelling
  | cons move rest ih => exact ih (cancelling.move whole move) (whole.move move)

/-- What keeps a timer silent: it is gone, or the timers have been given up. -/
inductive Silenced (watch : Watch σ π ρ υ) (id : TimerId) : Prop
  | gone (gone : watch.timers.Gone id)
  | closed (entries : List (Envelope σ π)) (closed : .closed entries ∈ watch.course.diary.history)

theorem Silenced.move (silenced : watch.Silenced id) (sound : watch.Sound) (move : Host.Move σ π υ) :
    (watch.move move).Silenced id := by
  cases silenced with
  | gone gone => exact .gone (gone.moves _)
  | closed entries closed => exact .closed entries ((sound.reached.followed.history [move]).subset closed)

private theorem Silenced.move_spares (silenced : watch.Silenced id) (sound : watch.Sound) (move : Host.Move σ π υ) :
    TimerSet.Session.Spares id (Task.ticks watch.course.diary.history)
      (Task.ticks (watch.move move).course.diary.history) := by
  rw [sound.ticks, (sound.move move).ticks]
  cases silenced with
  | gone gone => exact gone.moves_spares _
  | closed entries closed =>
    have past := sound.reached.past_of_closed closed
    have calm (began : Instant) : watch.course.host.task.place ≠ .draining began := by
      intro place
      rw [place] at past
      cases past
    exact .of_eq (watch.timers.moves_ticks _ (Host.timings_unfiring calm move))

private theorem Silenced.moves_spares (silenced : watch.Silenced id) (sound : watch.Sound)
    (list : List (Host.Move σ π υ)) :
    TimerSet.Session.Spares id (Task.ticks watch.course.diary.history)
      (Task.ticks (watch.moves list).course.diary.history) := by
  induction list generalizing watch with
  | nil => exact .of_eq rfl
  | cons move rest ih =>
    exact (silenced.move_spares sound move).trans (ih (silenced.move sound move) (sound.move move))

private theorem Cancelling.silenced (cancelling : watch.Cancelling id order) (whole : watch.Whole handler)
    {deadline : Option Instant} (admission : (entry, deadline) ∈ watch.course.admissions) {number : Nat}
    (item : entry.item = ⟨.deliver message, some number⟩) (later : order.arrival < entry.arrival)
    {response : Response ρ} (answered : watch.course.host.task.exchange.outcome? number = some response)
    (heard : response ≠ .timedOut) : watch.Silenced id := by
  have kept := whole.kept
  have answer := (kept.returned admission item answered).resolve_right fun late => heard late.1
  rcases kept.answer_cases admission item answer with ⟨ending, asked, ended, _⟩ | ⟨drops, _⟩
  · have past := kept.taken_of_handled (kept.handled_of_finished (mem_finished ended))
    exact .gone (cancelling.passed entry past later)
  · obtain ⟨event, closed, _⟩ := List.mem_flatMap.mp drops
    cases event with
    | closed entries => exact .closed entries closed
    | began | ended => contradiction

private theorem Silenced.silent (silenced : watch.Silenced id) (sound : watch.Sound) (list : List (Host.Move σ π υ)) :
    ∃ events, (watch.moves list).course.diary.history = watch.course.diary.history ++ events ∧
      ∀ tick ∈ Task.ticks events, tick.timer ≠ id := by
  obtain ⟨more, ticks, others⟩ := silenced.moves_spares sound list
  obtain ⟨events, grown⟩ := sound.reached.followed.history list
  rw [← course_moves] at grown
  rw [← grown, Task.ticks, List.filterMap_append] at ticks
  have new : Task.ticks events = more := List.append_cancel_left ticks
  exact ⟨events, grown.symm, new ▸ others⟩

private theorem Cancelling.answered (cancelling : watch.Cancelling id order) (whole : watch.Whole handler)
    {caller : ThreadKey} {timeout : Option Delay} {number : Nat}
    (called : (watch.course.host.call caller message timeout).1 = .ok number) (list : List (Host.Move σ π υ))
    {response : Response ρ} (answered : ((watch.move (.call caller message timeout)).moves
      list).course.host.task.exchange.outcome? number = some response)
    (heard : response ≠ .timedOut) : ((watch.move (.call caller message timeout)).moves list).Silenced id := by
  have followed := whole.kept.reached.followed
  have after := whole.move (.call caller message timeout)
  have stands := (cancelling.move whole (.call caller message timeout)).moves after list
  rcases followed.call_cases caller message timeout with ⟨failure, refused, _⟩ | ⟨found, accepted, admissions⟩
  · rw [refused] at called
    cases called
  · obtain rfl : found = number := Except.ok.inj (accepted.symm.trans called)
    have later := followed.books.arrival_lt cancelling.admitted
    rw [followed.mirrored.exchange] at later
    have remains := (watch.course.move (.call caller message timeout)).moves_admissions list
    rw [admissions] at remains
    have admission := remains.subset (List.mem_append_right _ (List.mem_singleton.mpr rfl))
    have member := course_moves (watch.move (.call caller message timeout)) list ▸ admission
    exact stands.silenced (after.moves list) member rfl later answered heard

private theorem Sound.moves_issued (sound : watch.Sound) (list : List (Host.Move σ π υ)) :
    watch.course.host.kernel.timers ≤ (watch.moves list).course.host.kernel.timers := by
  induction list generalizing watch with
  | nil => exact Nat.le_refl _
  | cons move rest ih => exact Nat.le_trans (sound.move_issued move) (ih (sound.move move))

private theorem issued_of_obtained {host : Host σ π ρ υ} {list : List (Host.Move σ π υ)}
    (sound : ∀ list, ((start host).moves list).Sound) (obtained : host.Obtained list id) :
    id.number ≤ ((start host).moves list).course.host.kernel.timers := by
  have grows (before : List (Host.Move σ π υ)) (move : Host.Move σ π υ) (after : List (Host.Move σ π υ))
      (issued : id.number ≤ ((host.moves before).move move).kernel.timers) :
      id.number ≤ ((start host).moves (before ++ move :: after)).course.host.kernel.timers := by
    rw [← start_moves_host] at issued
    rw [moves, List.foldl_append]
    exact Nat.le_trans issued (((sound before).move move).moves_issued after)
  cases obtained with
  | sent before after answer => exact grows before _ after (Host.addTimer_issued answer)
  | asked before after asks served gets => exact grows before _ after (Host.serve_issued asks served gets)

private theorem start_opened {kernel : Kernel} {thread : ThreadKey} {settings : Settings υ} {state : σ}
    {host : Host σ π ρ υ} (created : (Host.create kernel thread settings handler state).1 = .ok host)
    (list : List (Host.Move σ π υ)) : Opened ((start host).moves list).course.host.task := by
  let kept (task : Task σ π ρ υ) (_ : Diary σ π ρ) : Prop := Opened task
  have step (task : Task σ π ρ υ) (diary : Diary σ π ρ) (next : Task σ π ρ υ) (later : Diary σ π ρ)
      (_ : Mirrored task diary) (before : kept task diary) (step : Step task diary next later) :
      kept next later := step.opened before
  have opened : Opened host.task := by
    obtain ⟨life, initial, _, _, fresh⟩ := create_cases created
    rw [fresh]
    exact .inl rfl
  rw [course_moves]
  exact (start_kept created).reached.followed.keeps step opened list

private theorem Whole.cancelling (whole : watch.Whole handler) (opened : Opened watch.course.host.task)
    (issued : id.number ≤ watch.course.host.kernel.timers)
    (accepted : (watch.course.host.cancelTimer id).1 = .ok ()) :
    ∃ order, (watch.move (.cancelTimer id)).Cancelling id order := by
  have followed := whole.kept.reached.followed
  have books := followed.books
  rcases followed.push_cases (.cancelTimer id) with ⟨failure, refused, _⟩ | ⟨_, admissions⟩
  · rw [Host.cancelTimer, refused] at accepted
    cases accepted
  · let order : Envelope σ π :=
      ⟨.realtime, watch.course.host.task.exchange.queue.arrivals, ⟨.cancelTimer id, none⟩⟩
    have first {other : Envelope σ π}
        (known : other ∈ Exchange.Session.admitted watch.course.diary.session.history) :
        other.arrival < order.arrival := by
      have bound := books.arrival_lt known
      rwa [followed.mirrored.exchange] at bound
    have admitted : Exchange.Session.admitted (watch.move (.cancelTimer id)).course.diary.session.history =
        Exchange.Session.admitted watch.course.diary.session.history ++ [order] := by
      have all := congrArg (List.map Prod.fst) admissions
      rwa [List.map_append] at all
    have taken : Exchange.Session.taken (watch.move (.cancelTimer id)).course.diary.session.history =
        Exchange.Session.taken watch.course.diary.session.history :=
      (outer_frame watch.course.diary.session (.push .realtime (.cancelTimer id) 0) trivial).taken
    refine ⟨order, (followed.step (.cancelTimer id)).opened opened, ?_, rfl, ?_, ?_, ?_, ?_⟩
    · exact Nat.le_trans issued (whole.sound.move_issued (.cancelTimer id))
    · rw [admitted]
      exact List.mem_append_right _ (List.mem_singleton.mpr rfl)
    · rw [admitted]
      intro other member later
      rcases List.mem_append.mp member with old | new
      · exact absurd later (Nat.lt_asymm (first old))
      · rw [List.mem_singleton.mp new] at later
        exact absurd later (Nat.lt_irrefl _)
    · rw [taken]
      intro past
      exact absurd (first (books.admitted_of_taken past)) (Nat.lt_irrefl _)
    · rw [taken]
      intro other past later
      exact absurd later (Nat.lt_asymm (first (books.admitted_of_taken past)))

/-- Once an order to cancel a timer has been accepted, and a message accepted after it has been answered by
anything but the lapse of time, no tick or callback of the timer is delivered any more. -/
theorem acknowledged_cancellation_final {kernel : Kernel} {thread : ThreadKey} {settings : Settings υ} {state : σ}
    {host : Host σ π ρ υ} (created : (Host.create kernel thread settings handler state).1 = .ok host)
    (before between later : List (Host.Move σ π υ)) (id : TimerId) (caller : ThreadKey) (message : Message π)
    (timeout : Option Delay) (number : Nat) (response : Response ρ) :
    let cancels := (start host).moves before
    let calls := (cancels.move (.cancelTimer id)).moves between
    let hears := (calls.move (.call caller message timeout)).moves later
    host.Obtained before id → (cancels.course.host.cancelTimer id).1 = .ok () →
    (calls.course.host.call caller message timeout).1 = .ok number →
    hears.course.host.task.exchange.outcome? number = some response → response ≠ .timedOut →
    ∀ list, ∃ events, (hears.moves list).course.diary.history = hears.course.diary.history ++ events ∧
      ∀ tick ∈ Task.ticks events, tick.timer ≠ id := by
  intro cancels calls hears obtained accepted called answered heard list
  have whole := (start_whole created).moves before
  have issued := issued_of_obtained (start_whole created |>.moves · |>.sound) obtained
  obtain ⟨order, cancelling⟩ := whole.cancelling (start_opened created before) issued accepted
  have calling := (whole.move (.cancelTimer id)).moves between
  have waits := cancelling.moves (whole.move (.cancelTimer id)) between
  have silenced := waits.answered calling called later answered heard
  have hearing := (calling.move (.call caller message timeout)).moves later
  exact silenced.silent hearing.sound list

/-- A sender's timer is cancelled while the handler is called for its first tick. -/
theorem cancellation_amid_tick_final : ∃ host : Host Nat Nat Nat Unit,
    (Host.create Worker.kernel 7 (Worker.settings none) Worker.echoing 0).1 = .ok host ∧
    let cancels := (start host).moves [.begin 7 false, .commit, .serve, .serve, .serve,
      .addTimer ⟨1, 0, by decide⟩ .forever .dispatch, .serve, .serve, .serve, .serve, .passTo ⟨5, 0, by decide⟩,
      .serve, .serve]
    let hears := ((cancels.move (.cancelTimer ⟨1⟩)).move (.call 7 ⟨.user 2, some 4, .low⟩ none)).moves
      (List.replicate 10 .serve ++ [.look 0])
    (Task.ticks cancels.course.diary.history).map (·.timer) = [⟨1⟩] ∧
    ∀ list, ∃ events, (hears.moves list).course.diary.history = hears.course.diary.history ++ events ∧
      ∀ tick ∈ Task.ticks events, tick.timer ≠ ⟨1⟩ := by
  have created : (Host.create Worker.kernel 7 (Worker.settings none) Worker.echoing 0).1 = .ok _ := rfl
  have accepted {α : Type} {result : Except Failure α} {value : α} (some : result.toOption = some value) :
      result = .ok value := by
    cases result <;> cases some
    rfl
  refine ⟨_, created, by decide +kernel,
    acknowledged_cancellation_final created _ [] _ ⟨1⟩ 7 _ none 0 (.handled (some 4)) ?_ ?_ ?_ ?_ nofun⟩
  · exact .sent [.begin 7 false, .commit, .serve, .serve, .serve] _ (accepted (by decide +kernel))
  · exact accepted (by decide +kernel)
  · exact accepted (by decide +kernel)
  · decide +kernel

end Watch

end Task

end TaskKernel
