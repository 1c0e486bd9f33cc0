import TaskKernel.Proofs.Demo.Ticker
import TaskKernel.Proofs.Descent
import TaskKernel.Proofs.Task.Making
import TaskKernel.Proofs.Task.Party
import TaskKernel.Proofs.Task.Ticking

/-!
The ticker with its main thread. Main orders the alarm from outside while the ticker may already have quit: then
the order is refused and main ends with that refusal. In every other run main ends well, and in either case the
ticker ticks as often as it was asked to and never after its last tick.
-/
namespace TaskKernel.Demo.Periodic

variable {demo after : Periodic} {count granted fired rank own : Nat}

/-- What is known where main stands, how many alarms it has ordered, and the rank of the place. An order that is
still to come weighs as much as one that waits, and more. -/
def Stands (demo : Periodic) (granted own : Nat) : Prop :=
  let task := demo.host.task
  match demo.stage with
  | .beginning => granted = 0 ∧ own = 2 * span + 4 ∧ task.place = .idle ∧ task.life.state = .new ∧
      task.life.Creatable ∧ demo.host.kernel.timers = 1
  | .committing => granted = 0 ∧ own = 2 * span + 3 ∧ task.place ≠ .idle ∧ task.life.detached = false ∧
      demo.host.kernel.timers = 1
  | .adding => granted = 0 ∧ own = 2 * span + 2 ∧ task.place ≠ .idle ∧ task.life.Committed ∧
      demo.host.kernel.timers = 1
  | .joining => granted = 1 ∧ own = 1 ∧ task.place ≠ .idle ∧ task.life.Committed
  | .ended none => granted = 1 ∧ own = 0 ∧ task.place = .ended ∧
      demo.summary = [Line.ofText "", summaryLine demo.interval task.surface.state] ++ footer
  | .ended (some refusal) => granted = 0 ∧ own = 0 ∧ task.place.isPast = true ∧
      refusal = .failed ⟨.queueClosed, .queuePush⟩

/-- What is known of the program all along. -/
structure Sound (demo : Periodic) (count fired rank : Nat) : Prop where
  positive : 0 < count
  lasting : (alarmDelay demo.interval).isZero = false
  stands : ∃ granted own lower, Stands demo granted own ∧
    Ticks count granted demo.host.kernel.now demo.host.task fired lower ∧ rank = own + lower

/-- Main is never held up where it orders, and each of its steps brings the end nearer. -/
structure Advances (demo : Periodic) (count fired rank : Nat) (after : Periodic) (lower : Nat) : Prop where
  step : demo.mainStep? = some after
  less : lower < rank
  sound : Sound after count fired lower
  tick : tickAt after.host.task.place = tickAt demo.host.task.place
  now : after.host.kernel.now = demo.host.kernel.now
  interval : after.interval = demo.interval

theorem Sound.begin (sound : Sound demo count fired rank) (beginning : demo.stage = .beginning) :
    ∃ after lower, Advances demo count fired rank after lower := by
  obtain ⟨granted, own, lower, stands, ticks, rfl⟩ := sound.stands
  simp only [Stands, beginning] at stands
  obtain ⟨rfl, rfl, idle, fresh, creatable, timers⟩ := stands
  let life : Lifecycle := { demo.host.task.life with detached := false, starting := true }
  have begins : demo.host.task.begin false = (none, { demo.host.task with life, place := .entering }, []) := by
    simp [Task.begin, Task.hasHandler, idle, creatable.begin fresh, life]
  obtain ⟨less, below, entered⟩ := ticks.begun idle life
  have step : demo.mainStep? = some { demo with
      host := { demo.host with task := { demo.host.task with life, place := .entering } }
      stage := .committing } := by
    simp only [mainStep?, beginning, Task.Host.begin, begins]
    rfl
  exact ⟨_, 2 * span + 3 + less, step, by omega, ⟨sound.positive, sound.lasting, 0, 2 * span + 3, less,
    ⟨rfl, rfl, by simp, rfl, timers⟩, entered, rfl⟩, by rw [idle]; rfl, rfl, rfl⟩

private theorem Sound.commit (sound : Sound demo count fired rank) (committing : demo.stage = .committing) :
    ∃ after lower, Advances demo count fired rank after lower := by
  obtain ⟨granted, own, lower, stands, ticks, rfl⟩ := sound.stands
  simp only [Stands, committing] at stands
  obtain ⟨rfl, rfl, begun, joinable, timers⟩ := stands
  have step : demo.mainStep? = some { demo with host := demo.host.commit, stage := .adding } := by
    simp only [mainStep?, committing]
  exact ⟨_, 2 * span + 2 + lower, step, by omega, ⟨sound.positive, sound.lasting, 0, 2 * span + 2, lower,
    ⟨rfl, rfl, begun, .of_commit joinable, timers⟩, ticks.framed _ _, rfl⟩, rfl, rfl, rfl⟩

private theorem addTimer_created (host : Task.Host Ticker Unit Unit Unit) {interval : Delay}
    {run : Tick → Body Ticker Unit}
    {timer : Timer Ticker} (created : Timer.create host.kernel.timers interval .once (.callback run) .taskAddTimerWith =
      .ok timer) : host.addTimer interval .once (.callback run) =
        let (answer, after) := Task.Host.push { host with kernel := host.kernel.allocateTimer.2 } (.addTimer timer)
        (answer.map fun _ => timer.id, after) := by
  simp only [Task.Host.addTimer, created]

/-- Where main goes from the answer to its order. -/
def Stage.ofAnswer : Except Failure TimerId → Stage
  | .error failure => .ended (some failure)
  | .ok _ => .joining

/-- The delay of the alarm is rewritten with all that contains it: reducing it would take the kernel through the
whole range of delays. -/
private theorem mainStep?_adding (adding : demo.stage = .adding) {answer : Except Failure TimerId}
    {host : Task.Host Ticker Unit Unit Unit}
    (ordered : demo.host.addTimer (alarmDelay demo.interval) .once (.callback alarm) = (answer, host)) :
    demo.mainStep? = some { demo with host, stage := .ofAnswer answer } := by
  unfold mainStep?
  rw [adding, ordered]
  cases answer <;> rfl

private theorem Sound.add (sound : Sound demo count fired rank) (adding : demo.stage = .adding) :
    ∃ after lower, Advances demo count fired rank after lower := by
  obtain ⟨granted, own, lower, stands, ticks, rfl⟩ := sound.stands
  simp only [Stands, adding] at stands
  obtain ⟨rfl, rfl, begun, committed, timers⟩ := stands
  obtain ⟨timer, isAlarm, created⟩ : ∃ timer, IsAlarm timer ∧ Timer.create demo.host.kernel.timers
      (alarmDelay demo.interval) .once (.callback alarm) .taskAddTimerWith = .ok timer := by
    refine ⟨⟨⟨demo.host.kernel.timers + 1⟩, alarmDelay demo.interval, .once, 0, .callback alarm⟩, ⟨?_, rfl, rfl⟩, ?_⟩
    · rw [timers, alarmId]
    · simp [Timer.create, sound.lasting]
  have closed := ticks.closed
  have ordered := addTimer_created demo.host created
  rcases demo.host.task.exchange.push_cases .realtime (.addTimer timer) 0 with ⟨shut, pushed⟩ | ⟨unshut, pushed⟩
  · simp only [Task.Host.push, Command.priority, pushed] at ordered
    exact ⟨_, lower, mainStep?_adding adding ordered, by omega, ⟨sound.positive, sound.lasting, 0, 0, lower,
      ⟨rfl, rfl, closed ▸ shut, rfl⟩, ticks, (Nat.zero_add lower).symm⟩, rfl, rfl, rfl⟩
  · simp only [Task.Host.push, Command.priority, pushed] at ordered
    exact ⟨_, 1 + (lower + 2 * span), mainStep?_adding adding ordered, by omega, ⟨sound.positive, sound.lasting, 1, 1,
      lower + 2 * span, ⟨rfl, rfl, begun, committed⟩, ticks.admit isAlarm (closed ▸ unshut), rfl⟩, rfl, rfl, rfl⟩

private theorem Sound.join (sound : Sound demo count fired rank) (joining : demo.stage = .joining) :
    demo.mainStep? = none ∧ demo.host.task.place ≠ .ended ∨
      demo.host.task.place = .ended ∧
        ∃ after lower, Advances demo count fired rank after lower ∧ after.stage = .ended none := by
  obtain ⟨granted, own, lower, stands, ticks, rfl⟩ := sound.stands
  simp only [Stands, joining] at stands
  obtain ⟨rfl, rfl, begun, committed⟩ := stands
  have awaited := committed.awaited
  by_cases ended : demo.host.task.place = .ended
  · have joined : demo.host.task.join =
        (.outcome (.completed demo.host.task.surface.state), { demo.host.task with abandoned := true }, []) := by
      simp only [Task.join, awaited, ended]
    have step : demo.mainStep? = some { demo with
        host := { demo.host with task := { demo.host.task with abandoned := true } }
        stage := .ended none
        summary := [Line.ofText "", summaryLine demo.interval demo.host.task.surface.state] ++ footer } := by
      simp only [mainStep?, joining, Task.Host.join, joined]
      rfl
    exact .inr ⟨ended, _, lower, ⟨step, by omega, ⟨sound.positive, sound.lasting, 1, 0, lower, ⟨rfl, rfl, ended, rfl⟩,
      ticks.framed _ _, (Nat.zero_add lower).symm⟩, rfl, rfl, rfl⟩, rfl⟩
  · have blocked : demo.host.task.join = (.blocked, demo.host.task, []) := by
      simp only [Task.join, awaited]
    refine .inl ⟨?_, ended⟩
    simp only [mainStep?, joining, Task.Host.join, blocked]

private theorem Sound.mainStep? (sound : Sound demo count fired rank) :
    (∃ after lower, Advances demo count fired rank after lower) ∨ demo.mainStep? = none ∧
      ((∃ failure, demo.stage = .ended failure) ∨ demo.stage = .joining ∧ demo.host.task.place ≠ .ended) := by
  cases stage : demo.stage with
  | beginning => exact .inl (sound.begin stage)
  | committing => exact .inl (sound.commit stage)
  | adding => exact .inl (sound.add stage)
  | joining =>
    rcases sound.join stage with ⟨blocked, unended⟩ | ⟨_, after, lower, advances, _⟩
    · exact .inr ⟨blocked, .inr ⟨rfl, unended⟩⟩
    · exact .inl ⟨after, lower, advances⟩
  | ended failure =>
    refine .inr ⟨?_, .inl ⟨failure, rfl⟩⟩
    simp only [Periodic.mainStep?, stage]

/-- What a move makes of the ticks and of the rank. -/
structure Moves (demo : Periodic) (count fired rank : Nat) (after : Periodic) (next lower : Nat) : Prop where
  sound : Sound after count next lower
  hands : Hands count demo.host.task.place after.host.task.place fired next
  most : lower ≤ rank
  interval : after.interval = demo.interval

theorem Advances.moves {lower : Nat} (advances : Advances demo count fired rank after lower) :
    Moves demo count fired rank after fired lower := by
  refine ⟨advances.sound, .nothing ?_, Nat.le_of_lt advances.less, advances.interval⟩
  rw [handed?, advances.tick]
  cases tickAt demo.host.task.place <;> rfl

private theorem Stands.framed (stands : Stands demo granted own) {host : Task.Host Ticker Unit Unit Unit}
    (timers : host.kernel.timers = demo.host.kernel.timers) (life : host.task.life = demo.host.task.life)
    (place : host.task.place = demo.host.task.place) (state : host.task.surface.state = demo.host.task.surface.state) :
    Stands { demo with host } granted own := by
  unfold Stands at stands ⊢
  cases stage : demo.stage with
  | ended failure => cases failure <;> simpa only [stage, timers, life, place, state] using stands
  | beginning | committing | adding | joining => simpa only [stage, timers, life, place] using stands

private theorem Stands.serve (stands : Stands demo granted own) {lower : Nat}
    {progress : Task.Progress Ticker Unit Unit Unit}
    (ticks : Ticks count granted demo.host.kernel.now demo.host.task fired lower)
    (stepped : demo.host.task.step? demo.host.kernel.now demo.host.kernel.timers = some progress)
    (onward : Onward count granted demo.host.kernel.now demo.host.task demo.host.kernel.timers fired lower progress)
    {host : Task.Host Ticker Unit Unit Unit} (task : host.task = progress.task)
    (timers : host.kernel.timers = demo.host.kernel.timers) : Stands { demo with host } granted own := by
  have begun := Task.begun_of_step stepped
  have committed (committed : demo.host.task.life.Committed) : progress.task.life.Committed := by
    rcases onward.life with same | ⟨_, terminated⟩
    · exact same ▸ committed
    · exact committed.terminated terminated
  unfold Stands at stands ⊢
  cases stage : demo.stage with
  | beginning =>
    simp only [stage] at stands
    simp [Task.step?, stands.2.2.1] at stepped
  | committing =>
    simp only [stage, task, timers] at stands ⊢
    obtain ⟨none, rank, _, joinable, given⟩ := stands
    refine ⟨none, rank, begun, ?_, given⟩
    rcases onward.life with same | ⟨_, terminated⟩
    · exact same ▸ joinable
    · obtain ⟨_, same⟩ := Lifecycle.terminate?_eq_some terminated
      rw [same]
      exact joinable
  | adding =>
    simp only [stage, task, timers] at stands ⊢
    exact ⟨stands.1, stands.2.1, begun, committed stands.2.2.2.1, stands.2.2.2.2⟩
  | joining =>
    simp only [stage, task] at stands ⊢
    exact ⟨stands.1, stands.2.1, begun, committed stands.2.2.2⟩
  | ended failure =>
    cases failure with
    | none =>
      simp only [stage] at stands
      simp [Task.step?, stands.2.2.1] at stepped
    | some failure =>
      simp only [stage, task] at stands ⊢
      obtain ⟨next, less, after, _, below⟩ := onward.leads
      have near := ticks.isPast_iff.mp stands.2.2.1
      refine ⟨stands.1, stands.2.1, after.isPast_iff.mpr ?_, stands.2.2.2⟩
      rcases below with below | ⟨same, _⟩ <;> omega

theorem Sound.step (sound : Sound demo count fired rank) {progress : Task.Progress Ticker Unit Unit Unit}
    (stepped : demo.host.task.step? demo.host.kernel.now demo.host.kernel.timers = some progress) :
    (demo.move .serve).host.task = progress.task ∧ ∃ next lower,
      Moves demo count fired rank (demo.move .serve) next lower ∧
        (lower < rank ∨ Rests demo.host.task progress.task) := by
  obtain ⟨granted, own, lower, stands, ticks, rfl⟩ := sound.stands
  have onward := ticks.step sound.positive stepped
  obtain ⟨next, less, after, hands, below⟩ := onward.leads
  have same : demo.host.move .serve = { demo.host with
      task := progress.task
      kernel := { demo.host.kernel with timers := progress.given }.carryOutAll demo.host.native progress.effects } := by
    rw [Task.Host.move, Task.Host.step?, stepped]
    rfl
  have still := Kernel.carryOutAll_still { demo.host.kernel with timers := progress.given } demo.host.native
    progress.effects
  have timers : (demo.host.move .serve).kernel.timers = demo.host.kernel.timers := by
    rw [same]
    exact still.timers.trans onward.given
  have now : (demo.host.move .serve).kernel.now = demo.host.kernel.now := by
    rw [same]
    exact still.now
  have task : (demo.host.move .serve).task = progress.task := by rw [same]
  refine ⟨task, next, own + less, ⟨⟨sound.positive, sound.lasting, granted, own, less,
    stands.serve ticks stepped onward task timers, ?_, rfl⟩, ?_, ?_, rfl⟩, ?_⟩
  · rw [move, now, task]
    exact after
  · rw [move, task]
    exact hands
  · rcases below with below | ⟨same, _⟩ <;> omega
  · exact below.imp (fun below => by omega) fun rests => rests.2

theorem serve_blocked (blocked : demo.host.task.step? demo.host.kernel.now demo.host.kernel.timers = none) :
    demo.move .serve = demo := by
  rw [move, Task.Host.serve_of_blocked (by simp [Task.Host.step?, blocked])]

private theorem handed?_same (place : Task.Place Ticker Unit Unit Unit) : handed? place place = none := by
  rw [handed?]
  cases tickAt place <;> rfl

/-- A wait whose deadline has passed. -/
def Overdue (demo : Periodic) : Prop :=
  ∃ waiter ∈ demo.host.task.exchange.waiting.waiters, Sync.WaitSet.Waiter.isOverdue waiter demo.host.kernel.now = true

private theorem Sound.expire (sound : Sound demo count fired rank) : ∃ lower,
    Moves demo count fired rank (demo.move .expire) fired lower ∧ (demo.Overdue → lower < rank) := by
  obtain ⟨granted, own, lower, stands, ticks, rfl⟩ := sound.stands
  obtain ⟨less, most, expired, below⟩ := ticks.expire
  exact ⟨own + less, ⟨⟨sound.positive, sound.lasting, granted, own, less, stands.framed rfl rfl rfl rfl, expired, rfl⟩,
    .nothing (handed?_same _), by omega, rfl⟩, fun overdue => Nat.add_lt_add_left (below overdue) own⟩

theorem Sound.move (sound : Sound demo count fired rank) (move : Move) :
    ∃ next lower, Moves demo count fired rank (demo.move move) next lower := by
  cases move with
  | main =>
    rcases sound.mainStep? with ⟨after, lower, advances⟩ | ⟨blocked, _⟩
    · refine ⟨fired, lower, ?_⟩
      rw [Periodic.move, advances.step]
      exact advances.moves
    · refine ⟨fired, rank, ?_⟩
      rw [Periodic.move, blocked]
      exact ⟨sound, .nothing (handed?_same _), Nat.le_refl rank, rfl⟩
  | serve =>
    cases stepped : demo.host.task.step? demo.host.kernel.now demo.host.kernel.timers with
    | none =>
      rw [serve_blocked stepped]
      exact ⟨fired, rank, sound, .nothing (handed?_same _), Nat.le_refl rank, rfl⟩
    | some progress =>
      obtain ⟨_, next, lower, moves, _⟩ := sound.step stepped
      exact ⟨next, lower, moves⟩
  | rouse =>
    obtain ⟨granted, own, lower, stands, ticks, rfl⟩ := sound.stands
    exact ⟨fired, own + lower, ⟨sound.positive, sound.lasting, granted, own, lower, stands.framed rfl rfl rfl rfl,
      ticks.rouse, rfl⟩, .nothing (handed?_same _), Nat.le_refl _, rfl⟩
  | expire =>
    obtain ⟨lower, moves, _⟩ := sound.expire
    exact ⟨fired, lower, moves⟩
  | passTo now =>
    obtain ⟨granted, own, lower, stands, ticks, rfl⟩ := sound.stands
    simp only [Periodic.move, Task.Host.move]
    split
    · rename_i passed
      exact ⟨fired, own + lower, ⟨sound.positive, sound.lasting, granted, own, lower, stands.framed rfl rfl rfl rfl,
        ticks.later passed, rfl⟩, .nothing (handed?_same _), Nat.le_refl _, rfl⟩
    · exact ⟨fired, own + lower, sound, .nothing (handed?_same _), Nat.le_refl _, rfl⟩

/-- The ticks that the handler is handed in a run, in their order. -/
def deliveries (demo : Periodic) : List Move → List Tick
  | [] => []
  | move :: rest =>
    (handed? demo.host.task.place (demo.move move).host.task.place).toList ++ (demo.move move).deliveries rest

/-- The first ticks of the ticker. -/
def ticksUpTo (count number : Nat) : List Tick := (List.range number).map fun earlier => tickOf count (earlier + 1)

private theorem Hands.ticks {before after : Task.Place Ticker Unit Unit Unit} {next : Nat}
    (hands : Hands count before after fired next) :
    ticksUpTo count fired ++ (handed? before after).toList = ticksUpTo count next := by
  cases hands with
  | nothing none => simp [none]
  | tick some => simp [some, ticksUpTo, List.range_succ]

theorem Sound.moves (sound : Sound demo count fired rank) (list : List Move) : ∃ next lower,
    Sound (demo.moves list) count next lower ∧ (demo.moves list).interval = demo.interval ∧
      ticksUpTo count fired ++ demo.deliveries list = ticksUpTo count next := by
  induction list generalizing demo fired rank with
  | nil => exact ⟨fired, rank, sound, rfl, by simp [deliveries]⟩
  | cons move rest ih =>
    obtain ⟨next, lower, moves⟩ := sound.move move
    obtain ⟨last, least, sound, interval, ticks⟩ := ih moves.sound
    exact ⟨last, least, sound, interval.trans moves.interval,
      by rw [deliveries, ← List.append_assoc, moves.hands.ticks, ticks]⟩

/-- Once the order has been accepted main ends well, if it ends. -/
def Through (demo : Periodic) : Prop := demo.stage = .joining ∨ demo.stage = .ended none

private theorem Sound.through (sound : Sound demo count fired rank) (through : demo.Through) (move : Move) :
    (demo.move move).Through := by
  cases move with
  | main =>
    rcases through with joining | ended
    · rcases sound.join joining with ⟨blocked, _⟩ | ⟨_, after, _, advances, ended⟩
      · rw [Periodic.move, blocked]
        exact .inl joining
      · rw [Periodic.move, advances.step]
        exact .inr ended
    · rw [Periodic.move, Periodic.mainStep?, ended]
      exact .inr ended
  | serve | rouse | expire | passTo => exact through

theorem Sound.through_moves (sound : Sound demo count fired rank) (through : demo.Through) (list : List Move) :
    (demo.moves list).Through := by
  induction list generalizing demo fired rank with
  | nil => exact through
  | cons move rest ih =>
    obtain ⟨_, _, moves⟩ := sound.move move
    exact ih moves.sound (sound.through through move)

/-- The program after a number of moves of a schedule. -/
def follow (demo : Periodic) (schedule : Nat → Move) : Nat → Periodic
  | 0 => demo
  | number + 1 => (demo.follow schedule number).move (schedule number)

/-- Main and the thread go on being given steps, time passes every deadline, and a wait whose deadline has passed is
not kept from ending for ever. -/
structure Fair (demo : Periodic) (schedule : Nat → Move) : Prop where
  main : ∀ number, ∃ later, number ≤ later ∧ schedule later = .main
  serve : ∀ number, ∃ later, number ≤ later ∧ schedule later = .serve
  clock : ∀ number, ∀ armed ∈ (demo.follow schedule number).host.task.timers.armed, armed.deadline.isNever = false ∧
    ∃ later, number ≤ later ∧ armed.deadline ≤ (demo.follow schedule later).host.kernel.now
  expire : (∀ number, ∃ later, number ≤ later ∧ (demo.follow schedule later).Overdue) →
    ∀ number, ∃ later, number ≤ later ∧ schedule later = .expire ∧ (demo.follow schedule later).Overdue

variable {schedule : Nat → Move} {number : Nat}

theorem Sound.follow (sound : Sound demo count fired rank) (schedule : Nat → Move) (number : Nat) :
    ∃ next lower, Sound (demo.follow schedule number) count next lower := by
  induction number with
  | zero => exact ⟨fired, rank, sound⟩
  | succ number ih =>
    obtain ⟨next, lower, sound⟩ := ih
    obtain ⟨last, least, moves⟩ := sound.move (schedule number)
    exact ⟨last, least, moves.sound⟩

private theorem Sound.now (sound : Sound demo count fired rank) (move : Move) :
    demo.host.kernel.now ≤ (demo.move move).host.kernel.now := by
  cases move with
  | main =>
    rcases sound.mainStep? with ⟨after, _, advances⟩ | ⟨blocked, _⟩
    · rw [Periodic.move, advances.step, Option.getD_some, advances.now]
      exact Instant.le_refl _
    · rw [Periodic.move, blocked]
      exact Instant.le_refl _
  | serve | rouse | expire | passTo => exact demo.host.clock_le _

private theorem Sound.follow_now (sound : Sound demo count fired rank) {later : Nat} (order : number ≤ later) :
    (demo.follow schedule number).host.kernel.now ≤ (demo.follow schedule later).host.kernel.now := by
  induction later with
  | zero =>
    obtain rfl : number = 0 := by omega
    exact Instant.le_refl _
  | succ later ih =>
    by_cases last : number = later + 1
    · rw [last]
      exact Instant.le_refl _
    · obtain ⟨_, _, sound⟩ := sound.follow schedule later
      exact Instant.le_trans (ih (by omega)) (sound.now (schedule later))

/-- The rank of a state, as a weight. -/
def Weighs (count : Nat) (demo : Periodic) (rank : Nat) : Prop := ∃ fired, Sound demo count fired rank

/-- Main waits for the thread, and the thread for its next tick. -/
structure Paused (demo : Periodic) : Prop where
  joining : demo.stage = .joining
  receiving : demo.host.task.place = .receiving

/-- The thread is parked until its next tick is due. -/
def Parked (demo : Periodic) : Prop := demo.host.task.exchange.waiting =
  Sync.WaitSet.solo Task.consumer (some (Sync.limit demo.host.task.timers.nextDeadline?, .parked))

private theorem Sound.serve (sound : Sound demo count fired rank) (joining : demo.stage = .joining)
    (unended : demo.host.task.place ≠ .ended) : (∃ lower < rank, Weighs count (demo.move .serve) lower) ∨
      demo.Paused ∧ (demo.move .serve).Paused ∧ (demo.move .serve).Parked ∧
        (demo.move .serve).host.task.timers = demo.host.task.timers := by
  obtain ⟨granted, own, lower, stands, ticks, _⟩ := sound.stands
  simp only [Stands, joining] at stands
  obtain ⟨_, _, begun, committed⟩ := stands
  cases stepped : demo.host.task.step? demo.host.kernel.now demo.host.kernel.timers with
  | none =>
    rcases ticks.stepped begun unended committed.resting demo.host.kernel.timers with ⟨progress, some⟩ | ⟨place, parked⟩
    · rw [stepped] at some
      cases some
    · rw [serve_blocked stepped]
      exact .inr ⟨⟨joining, place⟩, ⟨joining, place⟩, parked, rfl⟩
  | some progress =>
    obtain ⟨task, next, lower, moves, below⟩ := sound.step stepped
    rcases below with below | rests
    · exact .inl ⟨lower, below, next, moves.sound⟩
    · refine .inr ⟨⟨joining, rests.before⟩, ⟨joining, task ▸ rests.stays⟩, ?_, task ▸ rests.timers⟩
      rw [Parked, task]
      exact rests.parked

private theorem Sound.paused (sound : Sound demo count fired rank) (paused : demo.Paused) {move : Move}
    (other : move ≠ .serve) :
    (demo.move move).Paused ∧ (demo.move move).host.task.timers = demo.host.task.timers := by
  obtain ⟨joining, receiving⟩ := paused
  cases move with
  | main =>
    rcases sound.join joining with ⟨blocked, _⟩ | ⟨ended, _⟩
    · rw [Periodic.move, blocked]
      exact ⟨⟨joining, receiving⟩, rfl⟩
    · rw [receiving] at ended
      cases ended
  | serve => contradiction
  | rouse | expire => exact ⟨⟨joining, receiving⟩, rfl⟩
  | passTo now =>
    simp only [Periodic.move, Task.Host.move]
    split <;> exact ⟨⟨joining, receiving⟩, rfl⟩

private theorem Sound.armed (sound : Sound demo count fired rank) (paused : demo.Paused) :
    ∃ armed ∈ demo.host.task.timers.armed, demo.host.task.timers.nextDeadline? = some armed.deadline := by
  obtain ⟨_, _, _, _, ticks, _⟩ := sound.stands
  obtain ⟨_, _, _, phase⟩ := ticks.stands
  simp only [Phase, paused.receiving] at phase
  have single : 0 < beatsIn demo.host.task.timers := by simp [phase.1.wound.single]
  cases next : demo.host.task.timers.nextDeadline? with
  | none =>
    rw [beatsIn, TimerSet.nextDeadline?_eq_none.mp next] at single
    simp at single
  | some deadline =>
    obtain ⟨⟨armed, member, rfl⟩, _⟩ := TimerSet.nextDeadline?_eq_some.mp next
    exact ⟨armed, member, rfl⟩

private theorem Parked.overdue (parked : demo.Parked) {deadline : Instant}
    (next : demo.host.task.timers.nextDeadline? = some deadline) (mortal : deadline.isNever = false)
    (passed : deadline ≤ demo.host.kernel.now) : demo.Overdue := by
  refine ⟨⟨Task.consumer, some deadline, .parked⟩, ?_, by simp [Sync.WaitSet.Waiter.isOverdue, passed]⟩
  rw [parked, next, Sync.limit, Option.filter_some, if_pos (by simp [mortal])]
  simp [Sync.WaitSet.solo]

/-- When the rank no longer falls main is either done or waits for a thread that has not ended, from then on. -/
private theorem Stuck.rests (stuck : Descent.Stuck (demo.follow schedule) (Weighs count) number rank)
    (main : schedule number = .main) : (∃ failure, (demo.follow schedule number).stage = .ended failure) ∨
      (demo.follow schedule number).stage = .joining ∧ (demo.follow schedule number).host.task.place ≠ .ended := by
  obtain ⟨fired, sound⟩ := stuck.level number (Nat.le_refl number)
  rcases sound.mainStep? with ⟨after, lower, advances⟩ | ⟨_, rests⟩
  · refine absurd ⟨fired, ?_⟩ (stuck.least (number + 1) lower (by omega) advances.less)
    rw [Periodic.follow, main, Periodic.move, advances.step]
    exact advances.sound
  · exact rests

private theorem Sound.unended (sound : Sound demo count fired rank) (joining : demo.stage = .joining) :
    demo.host.task.place ≠ .ended ↔ rank ≠ 5 := by
  obtain ⟨granted, own, lower, stands, ticks, sum⟩ := sound.stands
  simp only [Stands, joining] at stands
  rw [ne_eq, ticks.isEnded_iff, sum, stands.2.1]
  omega

/-- From some moment on the rank stays as it is while main waits. -/
structure Waiting (demo : Periodic) (schedule : Nat → Move) (count number rank : Nat) : Prop where
  stuck : Descent.Stuck (demo.follow schedule) (Weighs count) number rank
  joining : ∀ later, number ≤ later → (demo.follow schedule later).stage = .joining
  unended : ∀ later, number ≤ later → (demo.follow schedule later).host.task.place ≠ .ended

private theorem Stuck.waiting (stuck : Descent.Stuck (demo.follow schedule) (Weighs count) number rank)
    (unfinished : ∀ later, number ≤ later → ∀ failure, (demo.follow schedule later).stage ≠ .ended failure)
    (joining : (demo.follow schedule number).stage = .joining)
    (unended : (demo.follow schedule number).host.task.place ≠ .ended) : Waiting demo schedule count number rank := by
  have always (later : Nat) (order : number ≤ later) : (demo.follow schedule later).stage = .joining := by
    induction later with
    | zero =>
      obtain rfl : number = 0 := by omega
      exact joining
    | succ later ih =>
      by_cases last : number = later + 1
      · exact last ▸ joining
      · obtain ⟨_, sound⟩ := stuck.level later (by omega)
        rcases sound.through (.inl (ih (by omega))) (schedule later) with stays | ended
        · exact stays
        · exact absurd ended (unfinished (later + 1) order _)
  obtain ⟨_, sound⟩ := stuck.level number (Nat.le_refl number)
  refine ⟨stuck, always, fun later order => ?_⟩
  obtain ⟨_, next⟩ := stuck.level later order
  exact (next.unended (always later order)).mpr ((sound.unended joining).mp unended)

variable (waiting : Waiting demo schedule count number rank)

include waiting

private theorem Waiting.served {later : Nat} (order : number ≤ later) (serve : schedule later = .serve) :
    (demo.follow schedule later).Paused ∧ (demo.follow schedule (later + 1)).Paused ∧
      (demo.follow schedule (later + 1)).Parked ∧
      (demo.follow schedule (later + 1)).host.task.timers = (demo.follow schedule later).host.task.timers := by
  obtain ⟨_, sound⟩ := waiting.stuck.level later order
  rw [Periodic.follow, serve]
  rcases sound.serve (waiting.joining later order) (waiting.unended later order) with ⟨less, below, falls⟩ | rests
  · refine absurd ?_ (waiting.stuck.least (later + 1) less (by omega) below)
    rw [Periodic.follow, serve]
    exact falls
  · exact rests

private theorem Waiting.paused (paused : (demo.follow schedule number).Paused) {later : Nat} (order : number ≤ later) :
    (demo.follow schedule later).Paused ∧
      (demo.follow schedule later).host.task.timers = (demo.follow schedule number).host.task.timers := by
  induction later with
  | zero =>
    obtain rfl : number = 0 := by omega
    exact ⟨paused, rfl⟩
  | succ later ih =>
    by_cases last : number = later + 1
    · rw [← last]
      exact ⟨paused, rfl⟩
    · obtain ⟨before, same⟩ := ih (by omega)
      by_cases serve : schedule later = .serve
      · obtain ⟨_, after, _, kept⟩ := waiting.served (by omega) serve
        exact ⟨after, kept.trans same⟩
      · obtain ⟨_, sound⟩ := waiting.stuck.level later (by omega)
        obtain ⟨after, kept⟩ := sound.paused before serve
        exact ⟨after, kept.trans same⟩

/-- A fair schedule does not let both wait for ever. -/
private theorem Waiting.unfair {least : Nat} (sound : Sound demo count fired least) : ¬ Fair demo schedule := by
  intro fair
  obtain ⟨first, order, serve⟩ := fair.serve number
  obtain ⟨_, paused, _, _⟩ := waiting.served order serve
  have settled : Waiting demo schedule count (first + 1) rank :=
    ⟨waiting.stuck.later (by omega), fun later after => waiting.joining later (by omega),
      fun later after => waiting.unended later (by omega)⟩
  obtain ⟨_, level⟩ := settled.stuck.level (first + 1) (Nat.le_refl _)
  obtain ⟨armed, member, next⟩ := level.armed paused
  obtain ⟨mortal, passed, _, reached⟩ := fair.clock (first + 1) armed member
  have overdue (moment : Nat) : ∃ later, moment ≤ later ∧ (demo.follow schedule later).Overdue := by
    obtain ⟨later, after, serve⟩ := fair.serve (max moment (max passed (first + 1)))
    obtain ⟨_, _, parked, _⟩ := settled.served (by omega) serve
    obtain ⟨_, same⟩ := settled.paused paused (show first + 1 ≤ later + 1 by omega)
    exact ⟨later + 1, by omega, parked.overdue (same ▸ next) mortal
      (Instant.le_trans reached (sound.follow_now (by omega)))⟩
  obtain ⟨later, after, expires, late⟩ := fair.expire overdue number
  obtain ⟨fired, level⟩ := waiting.stuck.level later after
  obtain ⟨lower, moves, falls⟩ := level.expire
  refine waiting.stuck.least (later + 1) lower (by omega) (falls late) ⟨fired, ?_⟩
  rw [Periodic.follow, expires]
  exact moves.sound

omit waiting

/-- Main has ended, well or not. -/
def IsOver (demo : Periodic) : Prop := ∃ failure, demo.stage = .ended failure

private theorem Sound.over (sound : Sound demo count fired rank) (fair : Fair demo schedule) {moment weight : Nat}
    (stuck : Descent.Stuck (demo.follow schedule) (Weighs count) moment weight) :
    ∃ later, moment ≤ later ∧ (demo.follow schedule later).IsOver := by
  refine Classical.byContradiction fun unfinished => ?_
  have unended (later : Nat) (order : moment ≤ later) (failure : Option Refusal) :
      (demo.follow schedule later).stage ≠ .ended failure :=
    fun ended => unfinished ⟨later, order, failure, ended⟩
  obtain ⟨later, order, main⟩ := fair.main moment
  rcases Stuck.rests (stuck.later order) main with ⟨failure, ended⟩ | ⟨joining, running⟩
  · exact unended later order failure ended
  · exact (Stuck.waiting (stuck.later order) (fun next after => unended next (Nat.le_trans order after))
      joining running).unfair sound fair

/-- Every fair run comes to its end. -/
theorem Sound.ends (sound : Sound demo count fired rank) (fair : Fair demo schedule) :
    ∃ number, (demo.follow schedule number).IsOver := by
  have keeps (moment weight : Nat) (weighs : Weighs count (demo.follow schedule moment) weight) :
      ∃ next ≤ weight, Weighs count (demo.follow schedule (moment + 1)) next := by
    obtain ⟨fired, sound⟩ := weighs
    obtain ⟨next, lower, moves⟩ := sound.move (schedule moment)
    exact ⟨lower, moves.most, next, moves.sound⟩
  have start : Weighs count (demo.follow schedule 0) rank := ⟨fired, sound⟩
  obtain ⟨number, _, finished⟩ := Descent.done_of_stuck keeps (fun _ _ stuck => sound.over fair stuck) start
  exact ⟨number, finished⟩

end TaskKernel.Demo.Periodic
