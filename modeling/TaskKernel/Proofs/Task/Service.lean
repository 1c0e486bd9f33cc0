import TaskKernel.Proofs.Task.Doing

/-!
The service of a task from its first call of the handler to its last. The start comes first; the service
goes on until the first cause to quit, and then there is only the exit.
-/
namespace TaskKernel.Task

variable {σ π ρ υ : Type}

/-- Whether the service ends with an event: a start or a message is over during which the handler has
asked to quit, or a message to quit is over, however it has ended. -/
def Event.isCause : Event σ π ρ → Bool
  | .ended .starting _ asked => asked
  | .ended (.handling _ message) _ asked => asked || message.kind.isQuit
  | .ended (.callingBack _) .. | .ended .exiting .. | .began _ | .closed _ => false

/-- Whether an event belongs to the service after its start, and is no cause to quit. -/
def Event.isRoutine : Event σ π ρ → Bool
  | .began (.handling ..) | .began (.callingBack _) | .ended (.callingBack _) .. => true
  | .ended .starting _ asked => !asked
  | .ended (.handling _ message) _ asked => !(asked || message.kind.isQuit)
  | .began .starting | .began .exiting | .ended .exiting .. | .closed _ => false

/-- Whether an event belongs to the exit. -/
def Event.isExit : Event σ π ρ → Bool
  | .began .exiting | .ended .exiting .. | .closed _ => true
  | .began .starting | .began (.handling ..) | .began (.callingBack _) | .ended .starting ..
    | .ended (.handling ..) .. | .ended (.callingBack _) .. => false

/-- The history of a service that has begun and goes on. -/
def Serving (history : List (Event σ π ρ)) : Prop :=
  ∃ later, history = .began .starting :: later ∧ ∀ event ∈ later, event.isRoutine = true

/-- The history of a service that has come to its first cause to quit, and what has followed. -/
def Quit (history exit : List (Event σ π ρ)) : Prop :=
  ∃ served cause, Serving served ∧ cause.isCause = true ∧ history = served ++ cause :: exit

/-- What the history is when the thread stands at a place. -/
def Recorded (quitting : Bool) (history : List (Event σ π ρ)) : Place σ π ρ υ → Prop
  | .idle | .lost | .entering | .arming => history = []
  | .starting _ | .sweeping | .draining _ | .ticking .. | .callingBack .. | .receiving | .handling ..
    | .ordering .. => Serving history
  | .rearming .. | .answering .. => if quitting then Quit history [] else Serving history
  | .closing => Quit history []
  | .abandoning .. => ∃ dropped, Quit history [.closed dropped]
  | .exiting _ => ∃ dropped, Quit history [.closed dropped, .began .exiting]
  | .disposing | .leaving | .reporting | .ended =>
    ∃ dropped ending, Quit history [.closed dropped, .began .exiting, .ended .exiting ending false]

private theorem Event.calm_of_routine {event : Event σ π ρ} (routine : event.isRoutine = true) :
    event.isCause = false ∧ event.isExit = false := by
  cases event with
  | began activity => cases activity <;> simp_all [isRoutine, isCause, isExit]
  | ended activity ending asked => cases activity <;> simp_all [isRoutine, isCause, isExit]
  | closed dropped => simp [isRoutine] at routine

theorem Serving.calm {history : List (Event σ π ρ)} (serving : Serving history) :
    ∀ event ∈ history, event.isCause = false ∧ event.isExit = false := by
  obtain ⟨later, rfl, all⟩ := serving
  intro event member
  rcases List.mem_cons.mp member with rfl | old
  · exact ⟨rfl, rfl⟩
  · exact Event.calm_of_routine (all event old)

private theorem Serving.append {history : List (Event σ π ρ)} (serving : Serving history)
    {event : Event σ π ρ} (routine : event.isRoutine = true) : Serving (history ++ [event]) := by
  obtain ⟨later, rfl, all⟩ := serving
  refine ⟨later ++ [event], rfl, ?_⟩
  intro other member
  rcases List.mem_append.mp member with old | new
  · exact all other old
  · rwa [List.mem_singleton.mp new]

private theorem Serving.quit {history : List (Event σ π ρ)} (serving : Serving history)
    {event : Event σ π ρ} (cause : event.isCause = true) : Quit (history ++ [event]) [] :=
  ⟨history, event, serving, cause, rfl⟩

private theorem Quit.append {history exit : List (Event σ π ρ)} (quit : Quit history exit)
    (event : Event σ π ρ) : Quit (history ++ [event]) (exit ++ [event]) := by
  obtain ⟨served, cause, serving, isCause, rfl⟩ := quit
  exact ⟨served, cause, serving, isCause, by simp⟩

section

variable {handler : Handler σ π ρ υ} {quitting asked : Bool} {activity : Activity σ π}
  {history : List (Event σ π ρ)} {place after : Place σ π ρ υ}

private theorem Recorded.passes (recorded : Recorded quitting history place)
    (passes : place.Passes quitting after) : Recorded quitting history after := by
  cases passes with
  | rearmed | answered => cases quitting <;> exact recorded
  | lost | begun | entered | swept | drained | ordered => exact recorded

private theorem Recorded.asks (recorded : Recorded quitting history place) {call : HandlerCall σ π υ}
    {resume : call.Answer → Place σ π ρ υ} (asks : place.Asks call resume) (answer : call.Answer)
    (after : Bool) : Recorded after history (resume answer) := by
  cases asks <;> exact recorded

private theorem Recorded.windsDown (recorded : Recorded quitting history place) (winds : place.WindsDown after) :
    Recorded quitting history after := by
  cases winds <;> exact recorded

private theorem Recorded.ends (recorded : Recorded quitting history place)
    (doing : Doing handler quitting asked (some activity) place) {ending : Ending (Option ρ)}
    (ends : place.Ends quitting ending after) :
    Recorded quitting (history ++ [.ended activity ending asked]) after := by
  cases ends with
  | starting rest ending ended =>
    cases doing with
    | starting _ _ ends =>
      subst ends
      cases quitting with
      | true => exact Serving.quit recorded rfl
      | false => exact Serving.append recorded rfl
  | ticking now timer rest ending ended =>
    cases doing with
    | ticking _ _ message _ _ tick ends =>
      subst ends
      cases quitting with
      | true => exact Serving.quit recorded rfl
      | false => exact Serving.append recorded (by simp [Event.isRoutine, tick])
  | callingBack now timer rest ending ended =>
    cases doing with
    | callingBack _ _ tick _ _ _ goesOn _ =>
      subst goesOn
      exact Serving.append recorded rfl
  | handling slot rest ending ended =>
    cases doing with
    | handling entry message _ _ _ ends =>
      cases quitting with
      | true => exact Serving.quit recorded (by simp [Event.isCause, ← ends])
      | false => exact Serving.append recorded (by simp [Event.isRoutine, ← ends])
  | exiting rest ending ended =>
    cases doing with
    | exiting _ _ unasked =>
      obtain ⟨dropped, quit⟩ := recorded
      subst unasked
      exact ⟨dropped, _, quit.append _⟩

end

variable {task next : Task σ π ρ υ} {diary later : Diary σ π ρ}

private theorem activity_routine (task : Task σ π ρ υ) (firing : TimerSet.Firing σ) :
    (Event.began (task.activityOf firing) : Event σ π ρ).isRoutine = true := by
  unfold activityOf
  split <;> rfl

private theorem fire_recorded (task : Task σ π ρ υ) (now : Instant) (firing : TimerSet.Firing σ)
    {history : List (Event σ π ρ)} (serving : Serving history) :
    Recorded false history (task.fire now firing) := by
  unfold fire
  split <;> exact serving

theorem reply_history (diary : Diary σ π ρ) (slot : Nat) (response : Response ρ) :
    (reply diary slot response).history = diary.history := by cases response <;> rfl

theorem ask_history (diary : Diary σ π ρ) (call : HandlerCall σ π υ) :
    (diary.ask call).history = diary.history := by cases call <;> rfl

theorem history_step (step : Step task diary next later) : diary.history <+: later.history := by
  cases step with
  | aside | dealt | passed | woundDown | waited | ordered => exact List.prefix_rfl
  | asked call => exact (ask_history diary call).symm ▸ List.prefix_rfl
  | answered slot ending => exact (reply_history diary slot (responseOf ending)).symm ▸ List.prefix_rfl
  | ended ending place ends =>
    unfold Diary.finish
    split
    · exact List.prefix_rfl
    · exact List.prefix_append _ _
  | started | fired | took | closed | exited => exact List.prefix_append _ _
  | told => exact List.prefix_rfl

/-- The history of a task is that of the place where its thread stands. -/
theorem recorded_step (engaged : Engaged task diary)
    (recorded : Recorded task.quitting diary.history task.place) (step : Step task diary next later) :
    Recorded next.quitting later.history next.place := by
  cases step with
  | aside life surface abandoned disposals stays => exact recorded
  | dealt move outer => exact recorded
  | passed life timers abandoned disposals place passes => exact recorded.passes passes
  | woundDown life disposals place winds ends => exact recorded.windsDown winds
  | started timers arming =>
    rw [arming] at recorded
    have blank : diary.history = [] := recorded
    exact ⟨[], by simp [Diary.begin, blank], by simp⟩
  | asked call resume asks answer surface timers userData untimed =>
    rw [ask_history]
    exact recorded.asks asks answer _
  | ended ending place ends =>
    obtain ⟨activity, current⟩ := engaged.loud ends.quiet.1
    rw [Engaged, current] at engaged
    rw [Diary.finish, current]
    exact recorded.ends engaged ends
  | fired now firing timers draining =>
    rw [draining] at recorded
    exact fire_recorded task now firing (Serving.append recorded (activity_routine task firing))
  | waited waiting place receiving goes =>
    rw [receiving] at recorded
    rcases goes with rfl | rfl <;> exact recorded
  | took entry queue waiting message receiving popped item =>
    rw [receiving] at recorded
    exact Serving.append recorded rfl
  | ordered entry queue waiting receiving popped command =>
    rw [receiving] at recorded
    exact recorded
  | answered slot ending answering =>
    rw [answering] at recorded
    rw [reply_history]
    unfold afterCall
    cases quitting : task.quitting <;> rw [quitting] at recorded <;> exact recorded
  | closed closing =>
    rw [closing] at recorded
    exact ⟨_, Quit.append recorded _⟩
  | told slot slots dropped abandoning =>
    rw [abandoning] at recorded
    exact recorded
  | exited dropped abandoning =>
    rw [abandoning] at recorded
    obtain ⟨dropped, quit⟩ := recorded
    exact ⟨dropped, Quit.append quit _⟩

end TaskKernel.Task
