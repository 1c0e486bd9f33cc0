import TaskKernel.Proofs.Task.Progress
import TaskKernel.Proofs.Task.Timekeeping

/-!
What holds of a task and its timers all along. The handler is called for every tick that its timers
produce, in their order, and no sweep is ahead of the clock.
-/
namespace TaskKernel

variable {σ π ρ υ α : Type}

def MessageKind.tick? : MessageKind → Option Tick
  | .periodic tick => some tick
  | .user _ | .quit => none

/-- What the handler's code can do with timers. -/
inductive HandlerCode.Times (now : Instant) : TimerSet.Session.Move σ → Prop
  | allocate : Times now .allocate
  | create (interval : Delay) (repeats : Repeat) (action : TimerAction σ) (operation : Operation) :
      Times now (.create interval repeats action operation)
  | arm (id : TimerId) : Times now (.arm id now)
  | cancel (id : TimerId) : Times now (.cancel id)

private theorem HandlerCall.times {now : Instant} {given : Nat} (call : HandlerCall σ π υ) :
    ∀ move ∈ call.timings now given, HandlerCode.Times now move := by
  have adds {interval : Delay} {repeats : Repeat} {action : TimerAction σ} {operation : Operation} :
      ∀ move ∈ TimerSet.Session.adding now given interval repeats action operation,
        HandlerCode.Times now move := by
    unfold TimerSet.Session.adding
    split
    · exact List.forall_mem_nil _
    · intro move member
      simp only [List.mem_cons, List.not_mem_nil, or_false] at member
      rcases member with rfl | rfl
      · exact .create interval repeats action operation
      · exact .arm _
  cases call with
  | addTimer | addCallback => exact adds
  | cancelTimer id =>
    intro move member
    obtain rfl := List.mem_singleton.mp member
    exact .cancel id
  | freshTimer =>
    intro move member
    obtain rfl := List.mem_singleton.mp member
    exact .allocate
  | plain | post | waitSelf | armedCount | quit | isQuitting | tickPriority | pending | isClosed | userData
    | setUserData => exact List.forall_mem_nil _

theorem HandlerCode.times {now : Instant} {given : Nat} (rest : HandlerCode σ π υ α) :
    ∀ move ∈ rest.timings now given, Times now move := by
  cases rest with
  | done => exact List.forall_mem_nil _
  | ask call next => exact call.times

namespace Task

/-- The tick that the handler is called for. -/
@[simp] def Event.tick? : Event σ π ρ → Option Tick
  | .began (.handling none message) => message.kind.tick?
  | .began (.callingBack tick) => some tick
  | .began (.handling (some _) _) | .began .starting | .began .exiting | .ended .. | .closed _ => none

/-- The ticks that the handler has been called for, in the order of time. -/
def ticks (history : List (Event σ π ρ)) : List Tick := history.filterMap Event.tick?

@[simp] theorem ticks_append (history : List (Event σ π ρ)) (event : Event σ π ρ) :
    ticks (history ++ [event]) = ticks history ++ event.tick?.toList := by
  rw [ticks, List.filterMap_append, List.filterMap_cons]
  cases event.tick? <;> rfl

variable {task : Task σ π ρ υ} {diary : Diary σ π ρ} {session : TimerSet.Session σ} {now : Instant} {given : Nat}

private theorem activity_tick (task : Task σ π ρ υ) (firing : TimerSet.Firing σ) :
    (Event.began (task.activityOf firing) : Event σ π ρ).tick? = some firing.tick := by
  unfold activityOf
  split <;> rfl

private theorem finish_ticks (diary : Diary σ π ρ) (ending : Ending (Option ρ)) :
    ticks (diary.finish ending).history = ticks diary.history := by
  unfold Diary.finish
  split
  · rfl
  · simp

private theorem call_ticks (diary : Diary σ π ρ) (rest : HandlerCode σ π υ α) (reply : α → Option ρ) :
    ticks (diary.call rest reply).history = ticks diary.history := by
  unfold Diary.call
  split
  · exact finish_ticks diary _
  · exact finish_ticks diary _
  · exact congrArg ticks (ask_history diary _)

private theorem write_ticks (diary : Diary σ π ρ) (calm : ∀ began, task.place ≠ .draining began) :
    ticks (write task diary).history = ticks diary.history := by
  unfold write
  cases place : task.place with
  | draining began => exact absurd place (calm began)
  | arming => simp [Diary.begin]
  | starting | ticking | callingBack | handling | exiting => exact call_ticks diary _ _
  | receiving =>
    simp only
    split
    · split
      · simp [Diary.begin, Diary.deal]
      · rfl
      · rfl
    · rfl
    · rfl
  | answering slot response =>
    cases slot with
    | none => rfl
    | some slot => exact congrArg ticks (reply_history diary slot response)
  | closing => simp
  | abandoning slots dropped =>
    cases slots with
    | nil => simp [Diary.begin]
    | cons => rfl
  | idle | lost | entering | sweeping | rearming | ordering | disposing | leaving | reporting | ended => rfl

/-- What a step does with timers: what code can do, or more at the places that are for it. -/
inductive Timed (task : Task σ π ρ υ) (now : Instant) : TimerSet.Session.Move σ → Prop
  | code {timing : TimerSet.Session.Move σ} (times : HandlerCode.Times now timing) : Timed task now timing
  | fire (began : Instant) (place : task.place = .draining began) : Timed task now (.fire began)
  | finish (began : Instant) (timer : Timer σ) (place : task.place = .rearming began timer) :
      Timed task now (.finish now)
  | clear (place : task.place = .closing) : Timed task now .clear

theorem timings_timed (task : Task σ π ρ υ) (now : Instant) (given : Nat) :
    ∀ timing ∈ task.timings now given, task.Timed now timing := by
  unfold timings
  cases place : task.place with
  | starting | ticking | callingBack | handling | exiting =>
    exact fun timing member => .code (HandlerCode.times _ timing member)
  | arming =>
    intro timing member
    obtain ⟨timer, _, rfl⟩ := List.mem_map.mp member
    exact .code (.arm timer.id)
  | draining began => exact List.forall_mem_singleton.mpr (.fire began place)
  | rearming began timer => exact List.forall_mem_singleton.mpr (.finish began timer place)
  | ordering slot command =>
    cases command with
    | deliver => exact List.forall_mem_nil _
    | addTimer timer => exact List.forall_mem_singleton.mpr (.code (.arm timer.id))
    | cancelTimer id => exact List.forall_mem_singleton.mpr (.code (.cancel id))
  | closing => exact List.forall_mem_singleton.mpr (.clear place)
  | idle | lost | entering | sweeping | receiving | answering | abandoning | disposing | leaving | reporting
    | ended => exact List.forall_mem_nil _

theorem Host.timings_timed (host : Host σ π ρ υ) (move : Host.Move σ π υ) :
    ∀ timing ∈ host.timings move, host.task.Timed host.kernel.now timing := by
  cases move with
  | serve =>
    simp only [Host.timings]
    split
    · exact host.task.timings_timed _ _
    · exact List.forall_mem_nil _
  | addTimer interval repeats action => exact List.forall_mem_singleton.mpr (.code (.create _ _ _ _))
  | allocateTimer => exact List.forall_mem_singleton.mpr (.code .allocate)
  | begin | commit | join | abandon | setPriority | post | call | cancelTimer | permit | look | rouseCaller
    | expireCaller | rouse | expire | passTo | allocateHandle | identify | record => exact List.forall_mem_nil _

theorem Timed.unfiring {timing : TimerSet.Session.Move σ} (timed : task.Timed now timing)
    (calm : ∀ began, task.place ≠ .draining began) (clock : Instant) : timing ≠ .fire clock := by
  cases timed with
  | code times => cases times <;> nofun
  | fire began place => exact absurd place (calm began)
  | finish | clear => nofun

theorem Host.timings_unfiring {host : Host σ π ρ υ} (calm : ∀ began, host.task.place ≠ .draining began)
    (move : Host.Move σ π υ) : ∀ timing ∈ host.timings move, ∀ clock, timing ≠ .fire clock :=
  fun timing member => (host.timings_timed move timing member).unfiring calm

private theorem Keeps.ticks (keeps : Keeps session task given) (now : Instant)
    (same : Task.ticks diary.history = TimerSet.Session.ticks session.history) :
    Task.ticks (write task diary).history =
      TimerSet.Session.ticks (session.moves (task.timings now given)).history := by
  by_cases sweeps : ∃ began, task.place = .draining began
  · obtain ⟨began, place⟩ := sweeps
    have idle := keeps.out
    rw [place] at idle
    simp only [write, timings, place, TimerSet.Session.moves, List.foldl_cons, List.foldl_nil,
      TimerSet.Session.move, show session.out = none from idle, keeps.set]
    cases fired : task.timers.fire? began with
    | none => exact same
    | some result =>
      simp only [Diary.begin, ticks_append, activity_tick, TimerSet.Session.note, TimerSet.Session.ticks_append,
        TimerSet.Session.Event.tick?, same]
  · have calm : ∀ began, task.place ≠ .draining began := fun began place => sweeps ⟨began, place⟩
    have unfiring : ∀ timing ∈ task.timings now given, ∀ clock, timing ≠ .fire clock :=
      fun timing member => (task.timings_timed now given timing member).unfiring calm
    rw [write_ticks diary calm, session.moves_ticks _ unfiring, same]

/-- When the sweep has begun that the thread is in. -/
def Place.sweep? : Place σ π ρ υ → Option Instant
  | .draining began | .ticking began .. | .callingBack began .. | .rearming began _ => some began
  | .idle | .lost | .entering | .arming | .starting _ | .sweeping | .receiving | .handling .. | .answering ..
    | .ordering .. | .closing | .abandoning .. | .exiting _ | .disposing | .leaving | .reporting | .ended => none

private theorem Place.Passes.sweep {quitting : Bool} {place after : Place σ π ρ υ} {began : Instant}
    (passes : place.Passes quitting after) (sweeps : after.sweep? = some began) :
    place.sweep? = some began ∨ place = .sweeping := by
  cases passes with
  | swept => exact .inr rfl
  | rearmed now timer =>
    cases quitting with
    | true => cases sweeps
    | false => exact .inl sweeps
  | answered => cases quitting <;> cases sweeps
  | lost | begun | entered | drained | ordered => cases sweeps

theorem Place.Asks.sweep {call : HandlerCall σ π υ} {place : Place σ π ρ υ}
    {resume : call.Answer → Place σ π ρ υ} (asks : place.Asks call resume) (answer : call.Answer) :
    (resume answer).sweep? = place.sweep? := by
  cases asks <;> rfl

theorem Place.Ends.sweep {quitting : Bool} {ending : Ending (Option ρ)} {place after : Place σ π ρ υ}
    (ends : place.Ends quitting ending after) : after.sweep? = place.sweep? := by
  cases ends with
  | starting => cases quitting <;> rfl
  | ticking | callingBack | handling | exiting => rfl

theorem fire_sweep (task : Task σ π ρ υ) (began : Instant) (firing : TimerSet.Firing σ) :
    (task.fire began firing).sweep? = some began := by
  unfold fire
  split <;> rfl

theorem Step.sweep {next : Task σ π ρ υ} {later : Diary σ π ρ} (step : Step task diary next later)
    {began : Instant} (sweeps : next.place.sweep? = some began) :
    task.place.sweep? = some began ∨ task.place = .sweeping := by
  cases step with
  | aside | dealt => exact .inl sweeps
  | passed life timers abandoned disposals place passes => exact passes.sweep sweeps
  | woundDown life disposals place winds ends =>
    generalize task.place = before at winds
    cases winds <;> cases sweeps
  | asked call resume asks answer surface timers userData untimed =>
    exact .inl ((asks.sweep answer).symm.trans sweeps)
  | ended ending place ends => exact .inl (ends.sweep.symm.trans sweeps)
  | fired now firing timers draining =>
    rw [fire_sweep] at sweeps
    cases sweeps
    exact .inl (by rw [draining]; rfl)
  | waited waiting place receiving goes => rcases goes with rfl | rfl <;> cases sweeps
  | answered slot ending answering =>
    simp only [afterCall] at sweeps
    split at sweeps <;> cases sweeps
  | started | took | ordered | closed | told | exited => cases sweeps

theorem Host.clock_le (host : Host σ π ρ υ) (move : Host.Move σ π υ) :
    host.kernel.now ≤ (host.move move).kernel.now := by
  by_cases timed : ∃ now, move = .passTo now
  · obtain ⟨now, rfl⟩ := timed
    simp only [Host.move]
    split
    · assumption
    · exact Instant.le_refl _
  · rw [host.move_now move fun now same => timed ⟨now, same⟩]
    exact Instant.le_refl _

namespace Watch

/-- What holds of a watched task all along. -/
structure Sound (watch : Watch σ π ρ υ) : Prop where
  reached : Reached watch.course
  keeps : watch.Keeps
  ticks : Task.ticks watch.course.diary.history = TimerSet.Session.ticks watch.timers.history
  punctual : ∀ began, watch.course.host.task.place.sweep? = some began → began ≤ watch.course.host.kernel.now

variable {watch : Watch σ π ρ υ}

private theorem Sound.move_ticks (sound : watch.Sound) (move : Host.Move σ π υ) :
    Task.ticks (watch.move move).course.diary.history =
      TimerSet.Session.ticks (watch.move move).timers.history := by
  show Task.ticks (watch.course.host.write watch.course.diary move).history =
    TimerSet.Session.ticks (watch.timers.moves (watch.course.host.timings move)).history
  have quiet {diary : Diary σ π ρ} {list : List (TimerSet.Session.Move σ)}
      (history : diary.history = watch.course.diary.history) (timings : list = []) :
      Task.ticks diary.history = TimerSet.Session.ticks (watch.timers.moves list).history := by
    rw [history, timings]
    exact sound.ticks
  cases move with
  | serve =>
    simp only [Host.write, Host.timings]
    cases goes : watch.course.host.step? with
    | none => exact sound.ticks
    | some after => exact Keeps.ticks sound.keeps _ sound.ticks
  | addTimer interval repeats action =>
    have made := watch.timers.moves_ticks [.create interval repeats action .taskAddTimer] (by simp)
    refine Eq.trans ?_ made.symm
    simp only [Host.write]
    split <;> exact sound.ticks
  | call thread message timeout =>
    simp only [Host.write]
    split <;> exact quiet rfl rfl
  | allocateTimer => exact sound.ticks
  | begin | commit | join | abandon | setPriority | post | cancelTimer | permit | look | rouseCaller | expireCaller
    | rouse | expire | passTo | allocateHandle | identify | record => exact quiet rfl rfl

/-- A sweep begins when the serving thread reads the clock. -/
theorem sweep_begins (begins : watch.course.host.task.place = .sweeping)
    {move : Host.Move σ π υ} {began : Instant}
    (sweeps : (watch.move move).course.host.task.place.sweep? = some began) :
    move = .serve ∧ watch.course.host.kernel.now = began := by
  cases serves : move.isServe with
  | false =>
    have still := Host.move_still (by rw [begins]; simp) serves
    have place : (watch.move move).course.host.task.place = .sweeping := still.place.trans begins
    rw [place] at sweeps
    cases sweeps
  | true =>
    obtain rfl := Host.Move.eq_serve serves
    have place : (watch.move .serve).course.host.task.place = .draining watch.course.host.kernel.now := by
      simp [Watch.move, Course.move, Host.move, Host.step?, step?, begins]
    rw [place] at sweeps
    exact ⟨rfl, Option.some.inj sweeps⟩

private theorem Sound.move_punctual (sound : watch.Sound) (move : Host.Move σ π υ) {began : Instant}
    (sweeps : (watch.move move).course.host.task.place.sweep? = some began) :
    began ≤ (watch.move move).course.host.kernel.now := by
  have clock := watch.course.host.clock_le move
  rcases (sound.reached.followed.step move).sweep sweeps with before | begins
  · exact Instant.le_trans (sound.punctual began before) clock
  · exact (sweep_begins begins sweeps).2 ▸ clock

theorem Sound.move (sound : watch.Sound) (move : Host.Move σ π υ) : (watch.move move).Sound where
  reached := sound.reached.move move
  keeps := sound.keeps.move move
  ticks := sound.move_ticks move
  punctual _ sweeps := sound.move_punctual move sweeps

theorem Sound.moves (sound : watch.Sound) (list : List (Host.Move σ π υ)) : (watch.moves list).Sound := by
  induction list generalizing watch with
  | nil => exact sound
  | cons move rest ih => exact ih (sound.move move)

theorem start_sound {kernel : Kernel} {thread : ThreadKey} {settings : Settings υ} {handler : Handler σ π ρ υ}
    {state : σ} {host : Host σ π ρ υ} (created : (Host.create kernel thread settings handler state).1 = .ok host) :
    (Watch.start host).Sound where
  reached := start_reached created
  keeps := Host.create_keeps created
  ticks := rfl
  punctual _ sweeps := by
    obtain ⟨life, initial, _, _, fresh⟩ := create_cases created
    simp [Watch.start, Course.start, fresh, Task.create, Place.sweep?] at sweeps

end Watch

end Task

end TaskKernel
