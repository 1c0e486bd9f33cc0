import TaskKernel.Proofs.Task.Progress

/-!
How every task comes to its end: the start of the handler first, then the service up to its first cause
to quit, then the exit, and nothing else, whatever the others do meanwhile and wherever the handler panics.
-/
namespace TaskKernel.Task

variable {σ π ρ υ : Type}

variable {course : Course σ π ρ υ} {kernel : Kernel} {thread : ThreadKey} {settings : Settings υ}
  {handler : Handler σ π ρ υ} {state : σ} {host : Host σ π ρ υ}

private theorem divided_once {γ : Type} {kind : γ → Bool} {first last before after : List γ} {one other : γ}
    (same : first ++ one :: last = before ++ other :: after)
    (early : ∀ element ∈ first, kind element = false) (late : ∀ element ∈ last, kind element = false)
    (found : kind other = true) : before = first ∧ other = one ∧ after = last := by
  induction first generalizing before with
  | nil =>
    cases before with
    | nil =>
      obtain ⟨rfl, rfl⟩ := List.cons.inj same
      exact ⟨rfl, rfl, rfl⟩
    | cons head rest =>
      obtain ⟨rfl, rfl⟩ := List.cons.inj same
      have absent := late other (by simp)
      rw [found] at absent
      cases absent
  | cons head rest ih =>
    rw [List.forall_mem_cons] at early
    cases before with
    | nil =>
      obtain ⟨rfl, _⟩ := List.cons.inj same
      rw [found] at early
      cases early.1
    | cons start middle =>
      obtain ⟨rfl, equal⟩ := List.cons.inj same
      obtain ⟨rfl, divided⟩ := ih equal early.2
      exact ⟨rfl, divided⟩

private theorem not_cause_of_exit {dropped : List (Queue.Entry (Parcel (Command σ π)))} {ending : Ending (Option ρ)}
    {exit : List (Event σ π ρ)}
    (exits : exit <+: [.closed dropped, .began .exiting, .ended .exiting ending false]) :
    ∀ event ∈ exit, event.isCause = false := by
  intro event member
  have among := exits.subset member
  simp only [List.mem_cons, List.not_mem_nil, or_false] at among
  rcases among with rfl | rfl | rfl <;> rfl

private theorem calm_of_unquit {history : List (Event σ π ρ)} (unquit : history = [] ∨ Serving history) :
    ∀ event ∈ history, event.isCause = false ∧ event.isExit = false := by
  rcases unquit with rfl | serving
  · simp
  · exact serving.calm

private theorem Serving.start_once {served : List (Event σ π ρ)} (serving : Serving served) :
    ∃ later, served = .began .starting :: later ∧ .began .starting ∉ later := by
  obtain ⟨later, rfl, routine⟩ := serving
  refine ⟨later, rfl, fun again => ?_⟩
  cases routine _ again

private theorem Reached.starts (reached : Reached course) : course.diary.history = [] ∨
    ∃ later, course.diary.history = .began .starting :: later ∧ .began .starting ∉ later := by
  rcases recorded_cases reached.recorded with (blank | serving) | ⟨exit, _, _, quit, exits, _⟩
  · exact .inl blank
  · exact .inr serving.start_once
  · obtain ⟨served, cause, serving, causes, same⟩ := quit
    obtain ⟨later, rfl, once⟩ := serving.start_once
    refine .inr ⟨later ++ cause :: exit, same, fun again => ?_⟩
    rcases List.mem_append.mp again with old | new
    · exact once old
    · rcases List.mem_cons.mp new with rfl | last
      · cases causes
      · simpa using exits.subset last

theorem Serving.ne_nil {history : List (Event σ π ρ)} (serving : Serving history) : history ≠ [] := by
  obtain ⟨later, rfl, _⟩ := serving
  exact List.cons_ne_nil _ _

theorem Quit.ne_nil {history exit : List (Event σ π ρ)} (quit : Quit history exit) : history ≠ [] := by
  obtain ⟨served, cause, _, _, rfl⟩ := quit
  exact List.append_ne_nil_of_right_ne_nil _ (List.cons_ne_nil _ _)

private theorem Recorded.opens {quitting : Bool} {history : List (Event σ π ρ)} {place : Place σ π ρ υ}
    (recorded : Recorded quitting history place) (begun : place ≠ .idle) (unlost : place ≠ .lost) :
    (∃ steps, steps ≤ 2 ∧ place.Opens steps) ∨ history ≠ [] := by
  cases place with
  | idle => contradiction
  | lost => contradiction
  | entering => exact .inl ⟨2, Nat.le_refl 2, .entering⟩
  | arming => exact .inl ⟨1, by decide, .arming⟩
  | starting | sweeping | draining | ticking | callingBack | receiving | handling | ordering =>
    exact .inr (Serving.ne_nil recorded)
  | rearming | answering =>
    cases quitting with
    | true => exact .inr (Quit.ne_nil recorded)
    | false => exact .inr (Serving.ne_nil recorded)
  | closing => exact .inr (Quit.ne_nil recorded)
  | abandoning | exiting =>
    obtain ⟨dropped, quit⟩ := recorded
    exact .inr quit.ne_nil
  | disposing | leaving | reporting | ended =>
    obtain ⟨dropped, ending, quit⟩ := recorded
    exact .inr quit.ne_nil

private theorem Reached.opens (reached : Reached course) (begun : course.host.task.place ≠ .idle)
    (unlost : course.host.task.place ≠ .lost) (list : List (Host.Move σ π υ))
    (enough : 2 ≤ list.countP Host.Move.isServe) :
    .began .starting ∈ (course.moves list).diary.history := by
  rcases reached.recorded.opens begun unlost with ⟨steps, few, opens⟩ | opened
  · exact reached.followed.opens opens list (Nat.le_trans few enough)
  · rcases reached.starts with blank | ⟨rest, same, _⟩
    · exact absurd blank opened
    · exact (reached.followed.history list).subset (by simp [same])

/-- Where there is a cause to quit, it is the only one, and the thread is about to close the queue or has
closed it. -/
private theorem Reached.quits (reached : Reached course) {served exit : List (Event σ π ρ)} {cause : Event σ π ρ}
    (history : course.diary.history = served ++ cause :: exit) (causes : cause.isCause = true) :
    (∀ event ∈ served, event.isCause = false ∧ event.isExit = false) ∧
    ∃ dropped ending, exit <+: [.closed dropped, .began .exiting, .ended .exiting ending false] ∧
      ((exit = [] ∧ ∃ steps, steps ≤ 2 ∧ course.host.task.place.Closes course.host.task.quitting steps) ∨
        (.closed dropped ∈ exit ∧ course.host.task.place.isPast = true)) := by
  rcases recorded_cases reached.recorded with unquit | ⟨last, dropped, ending, quit, exits, stands⟩
  · have none := (calm_of_unquit unquit cause (by rw [history]; simp)).1
    rw [causes] at none
    cases none
  · obtain ⟨first, one, serving, _, same⟩ := quit
    have early := serving.calm
    obtain ⟨rfl, rfl, rfl⟩ := divided_once (same.symm.trans history)
      (fun event member => (early event member).1) (not_cause_of_exit exits) causes
    exact ⟨early, dropped, ending, exits, stands⟩

theorem Reached.past_of_closed (reached : Reached course)
    {dropped : List (Queue.Entry (Parcel (Command σ π)))} (closed : .closed dropped ∈ course.diary.history) :
    course.host.task.place.isPast = true := by
  rcases recorded_cases reached.recorded with unquit | ⟨last, _, _, quit, _, stands⟩
  · cases (calm_of_unquit unquit _ closed).2
  · obtain ⟨first, cause, serving, causes, same⟩ := quit
    rcases stands with ⟨rfl, _⟩ | ⟨_, past⟩
    · rw [same] at closed
      rcases List.mem_append.mp closed with old | new
      · cases (serving.calm _ old).2
      · rw [← List.mem_singleton.mp new] at causes
        cases causes
    · exact past

theorem Reached.joins (reached : Reached course) (ended : course.host.task.place = .ended)
    (undetached : course.host.task.life.detached = false) (thread : ThreadKey) :
    (course.host.join thread).1 = .outcome (.completed course.host.task.surface.state) := by
  have spent := reached.cleared.life (.inr ended)
  simp [Host.join, join, Lifecycle.joining, spent.1, undetached, ended]

private theorem ended_of_joined {host : Host σ π ρ υ} {thread : ThreadKey} {value : σ}
    (joined : (host.join thread).1 = .outcome (.completed value)) : host.task.place = .ended := by
  simp only [Host.join, join] at joined
  split at joined
  · cases joined
  · cases joined
  · split at joined
    · assumption
    · cases joined

/-- The discipline of a task. A cause to quit is the end of a start or of a message during which the
handler has asked to quit, or the end of a message to quit. -/
structure Disciplined (course : Course σ π ρ υ) : Prop where
  starts : course.diary.history = [] ∨
    ∃ later, course.diary.history = .began .starting :: later ∧ .began .starting ∉ later
  -- A thread that has been started gets there in its first two steps.
  opens : course.host.task.place ≠ .idle → course.host.task.place ≠ .lost → ∀ list : List (Host.Move σ π υ),
    2 ≤ list.countP Host.Move.isServe → .began .starting ∈ (course.moves list).diary.history
  goesOn : (∀ event ∈ course.diary.history, event.isCause = false) →
    ∀ event ∈ course.diary.history, event.isExit = false
  -- Before the first cause to quit there is nothing of the exit, and after it nothing else: the queue is
  -- closed, and then the handler is called a last time.
  quits : ∀ served cause exit, course.diary.history = served ++ cause :: exit → cause.isCause = true →
    (∀ event ∈ served, event.isCause = false ∧ event.isExit = false) ∧
    ∃ dropped ending, exit <+: [.closed dropped, .began .exiting, .ended .exiting ending false]
  -- The queue is closed at the latest two steps of the thread after the cause.
  closes : ∀ cause ∈ course.diary.history, cause.isCause = true → ∀ list : List (Host.Move σ π υ),
    2 ≤ list.countP Host.Move.isServe → ∃ dropped, .closed dropped ∈ (course.moves list).diary.history
  cleared : ∀ dropped, .closed dropped ∈ course.diary.history →
    course.host.task.timers = TimerSet.empty ∧ course.host.task.exchange.queue.closed = true ∧
    course.host.task.exchange.queue.entries = []
  ends : ∀ cause ∈ course.diary.history, cause.isCause = true → ∀ schedule : Nat → Host.Move σ π υ,
    course.Attended schedule → ∃ number, (course.follow schedule number).host.task.place = .ended
  ended : course.host.task.place = .ended → ∃ served cause dropped ending, cause.isCause = true ∧
    course.diary.history = served ++
      [cause, .closed dropped, .began .exiting, .ended .exiting ending false]
  joins : course.host.task.place = .ended → course.host.task.life.detached = false → ∀ thread,
    (course.host.join thread).1 = .outcome (.completed course.host.task.surface.state)
  joinsLast : ∀ thread value, (course.host.join thread).1 = .outcome (.completed value) →
    course.host.task.place = .ended

private theorem Reached.goesOn (reached : Reached course)
    (uncaused : ∀ event ∈ course.diary.history, event.isCause = false) :
    ∀ event ∈ course.diary.history, event.isExit = false := by
  rcases recorded_cases reached.recorded with unquit | ⟨exit, _, _, quit, _, _⟩
  · exact fun event member => (calm_of_unquit unquit event member).2
  · obtain ⟨served, cause, _, causes, same⟩ := quit
    have none := uncaused cause (by rw [same]; simp)
    rw [causes] at none
    cases none

private theorem Reached.stands (reached : Reached course) {cause : Event σ π ρ}
    (member : cause ∈ course.diary.history) (causes : cause.isCause = true) :
    (∃ steps, steps ≤ 2 ∧ course.host.task.place.Closes course.host.task.quitting steps) ∨
    ((∃ dropped, .closed dropped ∈ course.diary.history) ∧ course.host.task.place.isPast = true) := by
  obtain ⟨served, exit, history⟩ := List.append_of_mem member
  obtain ⟨_, dropped, _, _, stands⟩ := reached.quits history causes
  rcases stands with ⟨_, closes⟩ | ⟨closed, past⟩
  · exact .inl closes
  · exact .inr ⟨⟨dropped, by rw [history]; simp [closed]⟩, past⟩

private theorem Reached.closes (reached : Reached course) {cause : Event σ π ρ}
    (member : cause ∈ course.diary.history) (causes : cause.isCause = true)
    (list : List (Host.Move σ π υ)) (enough : 2 ≤ list.countP Host.Move.isServe) :
    ∃ dropped, .closed dropped ∈ (course.moves list).diary.history := by
  rcases reached.stands member causes with ⟨steps, few, closes⟩ | ⟨⟨dropped, closed⟩, _⟩
  · exact reached.followed.closes closes list (Nat.le_trans few enough)
  · exact ⟨dropped, (reached.followed.history list).subset closed⟩

private theorem Reached.ends (reached : Reached course) {cause : Event σ π ρ}
    (member : cause ∈ course.diary.history) (causes : cause.isCause = true)
    {schedule : Nat → Host.Move σ π υ} (attended : course.Attended schedule) :
    ∃ number, (course.follow schedule number).host.task.place = .ended := by
  have ends : course.Ends schedule 0 := by
    rcases reached.stands member causes with ⟨_, _, closes⟩ | ⟨_, past⟩
    · exact ends_of_closes reached.followed attended closes
    · exact ends_of_past reached.followed attended past
  obtain ⟨number, _, ended⟩ := ends
  exact ⟨number, ended⟩

private theorem Reached.ended (reached : Reached course) (ended : course.host.task.place = .ended) :
    ∃ served cause dropped ending, cause.isCause = true ∧ course.diary.history = served ++
      [cause, .closed dropped, .began .exiting, .ended .exiting ending false] := by
  have recorded := reached.recorded
  rw [ended] at recorded
  obtain ⟨dropped, ending, served, cause, _, causes, same⟩ := recorded
  exact ⟨served, cause, dropped, ending, causes, same⟩

/-- Every task keeps to its discipline, in every interleaving. -/
theorem every_task_disciplined
    (created : (Host.create kernel thread settings handler state).1 = .ok host)
    (list : List (Host.Move σ π υ)) : Disciplined ((Course.start host).moves list) := by
  have reached := (start_reached created).moves list
  exact {
    starts := reached.starts
    opens := reached.opens
    goesOn := reached.goesOn
    quits := fun served cause exit history causes => by
      obtain ⟨early, dropped, ending, exits, _⟩ := reached.quits history causes
      exact ⟨early, dropped, ending, exits⟩
    closes := fun cause member causes list enough => reached.closes member causes list enough
    cleared := fun dropped closed => by
      have past := reached.past_of_closed closed
      exact ⟨reached.cleared.timers past, reached.cleared.closed.trans past, reached.cleared.entries past⟩
    ends := fun cause member causes schedule attended => reached.ends member causes attended
    ended := reached.ended
    joins := reached.joins
    joinsLast := fun thread value joined => ended_of_joined joined }

/-- A handler that asks to quit and then panics, with a message behind the one it does so on. -/
theorem quit_then_panic_disciplined : ∃ host : Host Nat Nat Nat Unit,
    (Host.create Worker.kernel 7 (Worker.settings none) Worker.failing 0).1 = .ok host ∧
    let course := (Course.start host).moves
      ([.post (Message.user 1 (some 5)), .begin 7 false, .commit, .post (Message.user 2 none)] ++
        List.replicate 18 .serve)
    let first : Queue.Entry (Parcel (Command Nat Nat)) := ⟨.normal, 0, ⟨.deliver (Message.user 1 (some 5)), none⟩⟩
    let second : Queue.Entry (Parcel (Command Nat Nat)) := ⟨.normal, 1, ⟨.deliver (Message.user 2 none), none⟩⟩
    course.diary.history =
      [.began .starting, .ended .starting (.returned none) false,
        .began (.handling (some first) (Message.user 1 (some 5))),
        .ended (.handling (some first) (Message.user 1 (some 5))) (.panicked .other) true,
        .closed [second], .began .exiting, .ended .exiting (.returned none) false] ∧
    course.host.task.place = .ended ∧ (course.host.join 7).1 = .outcome (.completed 0) ∧ Disciplined course := by
  have created : (Host.create Worker.kernel 7 (Worker.settings none) Worker.failing 0).1 = .ok _ := rfl
  exact ⟨_, created, by with_unfolding_all rfl, by with_unfolding_all rfl, by with_unfolding_all rfl,
    every_task_disciplined created _⟩

end TaskKernel.Task
