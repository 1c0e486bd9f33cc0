import TaskKernel.Proofs.Queue.Callers
import TaskKernel.Proofs.Task.Service

/-!
The exit of a task. Once its thread has closed the queue there are no timers and no entries any more, and
none come back.
-/
namespace TaskKernel.Task

variable {σ π ρ υ α : Type}

/-- Whether the thread has closed its queue. -/
def Place.isPast : Place σ π ρ υ → Bool
  | .abandoning .. | .exiting _ | .disposing | .leaving | .reporting | .ended => true
  | .idle | .lost | .entering | .arming | .starting _ | .sweeping | .draining _ | .ticking .. | .callingBack ..
    | .rearming .. | .receiving | .handling .. | .answering .. | .ordering .. | .closing => false

/-- A queue that has been closed stays empty, and the timers that have been given up stay so. -/
structure Cleared (task : Task σ π ρ υ) : Prop where
  closed : task.exchange.queue.closed = task.place.isPast
  entries : task.place.isPast = true → task.exchange.queue.entries = []
  timers : task.place.isPast = true → task.timers = TimerSet.empty
  life : task.place = .reporting ∨ task.place = .ended → task.life.Over

section

variable {handler : Handler σ π ρ υ} {quitting asked : Bool} {activity : Option (Activity σ π)}
  {place after : Place σ π ρ υ}

theorem Place.Passes.past (passes : place.Passes quitting after) :
    place.isPast = false ∧ after.isPast = false := by
  cases passes with
  | rearmed | answered => cases quitting <;> exact ⟨rfl, rfl⟩
  | lost | begun | entered | swept | drained | ordered => exact ⟨rfl, rfl⟩

theorem Place.WindsDown.past (winds : place.WindsDown after) :
    place.isPast = true ∧ after.isPast = true := by
  cases winds <;> exact ⟨rfl, rfl⟩

private theorem Place.Asks.past {call : HandlerCall σ π υ} {resume : call.Answer → Place σ π ρ υ}
    (asks : place.Asks call resume) (answer : call.Answer) :
    (resume answer).isPast = place.isPast := by
  cases asks <;> rfl

private theorem Place.Ends.past {ending : Ending (Option ρ)} (ends : place.Ends quitting ending after) :
    after.isPast = place.isPast := by
  cases ends with
  | starting => cases quitting <;> rfl
  | ticking | callingBack | handling | exiting => rfl

private theorem Doing.plain (doing : Doing handler quitting asked activity place) (past : place.isPast = true)
    {call : HandlerCall σ π υ} {resume : call.Answer → Place σ π ρ υ} (asks : place.Asks call resume) :
    call.isPlain = true := by
  cases asks with
  | exiting next =>
    cases doing with
    | exiting _ leads _ => exact HandlerCode.plain_of_ofBody_leads leads
    | nothing _ quiet => cases quiet
  | starting | ticking | callingBack | handling => cases past

private theorem not_over_of_open (unpast : place.isPast = false) : ¬ (place = .reporting ∨ place = .ended) := by
  rintro (rfl | rfl) <;> cases unpast

end

variable {task next : Task σ π ρ υ} {diary later : Diary σ π ρ}

private theorem Cleared.unpast (closed : next.exchange.queue.closed = false) (unpast : next.place.isPast = false) :
    Cleared next where
  closed := closed.trans unpast.symm
  entries past := by
    rw [unpast] at past
    cases past
  timers past := by
    rw [unpast] at past
    cases past
  life late := absurd late (not_over_of_open unpast)

private theorem Cleared.framed (cleared : Cleared task) (past : next.place.isPast = task.place.isPast)
    (closed : next.exchange.queue.closed = task.exchange.queue.closed)
    (shut : task.exchange.queue.closed = true → next.exchange.queue = task.exchange.queue)
    (timers : task.place.isPast = true → next.timers = task.timers)
    (life : next.place = .reporting ∨ next.place = .ended → next.life.Over) : Cleared next where
  closed := by rw [closed, past, cleared.closed]
  entries closed := by
    rw [past] at closed
    rw [shut (cleared.closed.trans closed)]
    exact cleared.entries closed
  timers closed := by
    rw [past] at closed
    rw [timers closed]
    exact cleared.timers closed
  life := life

theorem reply_queue (diary : Diary σ π ρ) (slot : Nat) (response : Response ρ) :
    (reply diary slot response).session.exchange.queue = diary.session.exchange.queue := by
  cases response with
  | handled reply =>
    exact (Exchange.Session.drop_apart _ _).queue.trans (Exchange.Session.settle_apart _ _ _).queue
  | failed reason =>
    exact (Exchange.Session.drop_apart _ _).queue.trans (Exchange.Session.settle_apart _ _ _).queue
  | abandoned | timedOut => rfl

theorem Cleared.step (cleared : Cleared task) (mirrored : Mirrored task diary)
    (engaged : Engaged task diary) (step : Step task diary next later) : Cleared next := by
  cases step with
  | aside life surface abandoned disposals stays =>
    exact cleared.framed rfl rfl (fun _ => rfl) (fun _ => rfl) fun late => stays (cleared.life late)
  | dealt move outer =>
    have frame := outer_frame diary.session move outer
    exact cleared.framed rfl (mirrored.exchange ▸ frame.closed) (mirrored.exchange ▸ frame.shut)
      (fun _ => rfl) cleared.life
  | passed life timers abandoned disposals place passes =>
    exact .unpast (cleared.closed.trans passes.past.1) passes.past.2
  | woundDown life disposals place winds ends =>
    refine cleared.framed (winds.past.2.trans winds.past.1.symm) rfl (fun _ => rfl) (fun _ => rfl) ?_
    intro late
    refine ends ?_
    have life := cleared.life
    generalize task.place = before at winds life
    cases winds with
    | disposed => rcases late with late | late <;> cases late
    | left => exact .inl rfl
    | reported => exact .inr (life (.inl rfl))
  | started timers arming => exact .unpast (cleared.closed.trans (by rw [arming]; rfl)) rfl
  | asked call resume asks answer surface timers userData untimed =>
    have frame := ask_frame diary call
    refine cleared.framed (asks.past answer) (mirrored.exchange ▸ frame.closed)
      (mirrored.exchange ▸ frame.shut) (fun past => untimed (Doing.plain engaged past asks)) ?_
    intro late
    generalize task.place = before at asks
    cases asks <;> rcases late with late | late <;> cases late
  | ended ending place ends =>
    refine cleared.framed ends.past rfl (fun _ => rfl) (fun _ => rfl) ?_
    intro late
    generalize task.place = before at ends
    cases ends with
    | starting =>
      cases quitting : task.quitting <;> rw [quitting] at late <;> rcases late with late | late <;> cases late
    | ticking | callingBack | handling | exiting => rcases late with late | late <;> cases late
  | fired now firing timers draining =>
    refine .unpast (cleared.closed.trans (by rw [draining]; rfl)) ?_
    show (task.fire now firing).isPast = false
    unfold fire
    split <;> rfl
  | waited waiting place receiving goes =>
    refine .unpast (cleared.closed.trans (by rw [receiving]; rfl)) ?_
    rcases goes with rfl | rfl <;> rfl
  | took entry queue waiting message receiving popped item =>
    refine .unpast ?_ rfl
    rw [(Queue.pop?_eq_some popped).2]
    exact cleared.closed.trans (by rw [receiving]; rfl)
  | ordered entry queue waiting receiving popped command =>
    refine .unpast ?_ rfl
    rw [(Queue.pop?_eq_some popped).2]
    exact cleared.closed.trans (by rw [receiving]; rfl)
  | answered slot ending answering =>
    refine .unpast ?_ ?_
    · rw [reply_queue, mirrored.exchange]
      exact cleared.closed.trans (by rw [answering]; rfl)
    · show task.afterCall.isPast = false
      unfold afterCall
      split <;> rfl
  | closed closing => exact ⟨rfl, fun _ => rfl, fun _ => rfl, by simp⟩
  | told slot slots dropped abandoning =>
    have apart := (diary.session.drop_apart ⟨slot, true, false⟩).queue
    refine cleared.framed (by rw [abandoning]; rfl) ?_ ?_ (fun _ => rfl) (by simp)
    · rw [← mirrored.exchange]
      exact congrArg Queue.closed apart
    · rw [← mirrored.exchange]
      exact fun _ => apart
  | exited dropped abandoning =>
    exact cleared.framed (by rw [abandoning]; rfl) rfl (fun _ => rfl) (fun _ => rfl) (by simp)

/-- What holds of a task and its diary all along. -/
structure Reached (course : Course σ π ρ υ) : Prop where
  followed : Followed course
  engaged : Engaged course.host.task course.diary
  recorded : Recorded course.host.task.quitting course.diary.history course.host.task.place
  cleared : Cleared course.host.task

variable {course : Course σ π ρ υ}

theorem Reached.move (reached : Reached course) (move : Host.Move σ π υ) : Reached (course.move move) where
  followed := reached.followed.move move
  engaged := reached.engaged.step (reached.followed.step move)
  recorded := recorded_step reached.engaged reached.recorded (reached.followed.step move)
  cleared := reached.cleared.step reached.followed.mirrored reached.engaged (reached.followed.step move)

theorem Reached.moves (reached : Reached course) (list : List (Host.Move σ π υ)) :
    Reached (course.moves list) := by
  induction list generalizing course with
  | nil => exact reached
  | cons move rest ih => exact ih (reached.move move)

variable {kernel : Kernel} {thread : ThreadKey} {settings : Settings υ} {handler : Handler σ π ρ υ}
  {state : σ} {host : Host σ π ρ υ}

theorem start_reached (created : (Host.create kernel thread settings handler state).1 = .ok host) :
    Reached (Course.start host) := by
  obtain ⟨life, initial, new, resting, fresh⟩ := create_cases created
  refine ⟨start_followed fresh, ?_, ?_, ?_, ?_, ?_, ?_⟩
  · rw [Engaged, Course.start, fresh]
    exact .nothing .idle rfl
  · rw [Course.start, fresh]
    rfl
  · rw [Course.start, fresh]
    rfl
  · simp [Course.start, fresh, Task.create, Place.isPast]
  · simp [Course.start, fresh, Task.create, Place.isPast]
  · rw [Course.start, fresh]
    simp [Task.create]

end TaskKernel.Task
