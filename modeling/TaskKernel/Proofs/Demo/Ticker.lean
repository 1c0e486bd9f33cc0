import TaskKernel.Proofs.Demo.Beat
import TaskKernel.Proofs.Sync.Solo
import TaskKernel.Proofs.Task.Exit

/-!
The task of the ticker from its start to its end. A phase says, for each place of the serving thread, how many
ticks there have been, how many alarms there can still be, and how far the end is. Each step of the thread leads
from one phase to the next and brings the end nearer, unless the thread waits for the next tick.
-/
namespace TaskKernel.Demo.Periodic

abbrev Clockwork : Type := Task Ticker Unit Unit Unit

/-- Something fires at this instant. -/
def Due (now : Instant) (timers : TimerSet Ticker) : Prop := ∃ armed ∈ timers.armed, armed.deadline ≤ now

/-- The alarms that are ordered or armed. -/
def ahead (task : Clockwork) : Nat := task.exchange.queue.entries.length + alarmsIn task.timers

/-- What a firing that is still to come weighs, more than the steps between two firings. -/
def span : Nat := 40

/-- What all firings that are still to come weigh. An order weighs twice what the alarm does. -/
def load (count fired : Nat) (task : Clockwork) : Nat :=
  span * (count - fired + (2 * task.exchange.queue.entries.length + alarmsIn task.timers))

/-- The state after a number of ticks. The alarms it has counted and those ahead are no more than granted. -/
structure Counts (granted ticks ahead : Nat) (ticker : Ticker) : Prop where
  ticks : ticker.ticks = ticks
  alarms : ticker.alarms + ahead ≤ granted

/-- Before the timer of the ticks is armed. -/
structure Unwound (count granted fired ahead : Nat) (initial : Option (Timer Ticker)) (timers : TimerSet Ticker)
    (ticker : Ticker) : Prop where
  none : fired = 0
  initial : ∃ timer, initial = some timer ∧ IsBeat count 0 timer
  armed : timers.armed = []
  kept : timers.firingCancelled = false
  counts : Counts granted 0 ahead ticker

/-- While the timer of the ticks is armed. -/
structure Serving (count granted fired ahead : Nat) (timers : TimerSet Ticker) (ticker : Ticker) : Prop where
  wound : Wound count fired 1 timers
  early : fired < count
  counts : Counts granted fired ahead ticker

/-- While the timer of the ticks is out. -/
structure Beating (count fired : Nat) (timer : Timer Ticker) (timers : TimerSet Ticker) : Prop where
  beat : IsBeat count fired timer
  wound : Wound count fired 0 timers
  within : fired ≤ count

/-- After the last tick. -/
structure Finished (count granted fired : Nat) (ticker : Ticker) : Prop where
  last : fired = count
  counts : Counts granted count 0 ticker

/-- The consumer waits for the next deadline, if it waits. -/
inductive Waits (now : Instant) (queue : Queue (Parcel (Command Ticker Unit))) (timers : TimerSet Ticker) :
    Option Sync.Wait → Prop
  | absent : Waits now queue timers none
  | waiting (stance : Sync.Stance) (parked : stance = .parked → queue.entries = [])
      (expired : stance = .expired → Due now timers) :
      Waits now queue timers (some (Sync.limit timers.nextDeadline?, stance))

/-- What is known at each place, and the rank of the place. -/
def Phase (count granted : Nat) (now : Instant) (task : Clockwork) (wait : Option Sync.Wait) (fired rank : Nat) : Prop :=
  let ticker := task.surface.state
  let Unwound := Unwound count granted fired (ahead task) task.initial task.timers ticker
  let Serving (extra : Nat) := Serving count granted fired (ahead task + extra) task.timers ticker
  let Finished := Finished count granted fired ticker
  let load := load count fired task
  match task.place with
  | .idle => Unwound ∧ rank = load + 26
  | .entering => Unwound ∧ rank = load + 25
  | .arming => Unwound ∧ rank = load + 24
  | .starting rest => rest = .done () ∧ task.quitting = false ∧ Serving 0 ∧ rank = load + 23
  | .sweeping => Serving 0 ∧ (rank = load + 22 ∨ Due now task.timers ∧ rank = load + 17)
  | .draining began => Serving 0 ∧ (rank = load + 21 ∨ Due began task.timers ∧ rank = load + 16)
  | .receiving => Serving 0 ∧ Waits now task.exchange.queue task.timers wait ∧
      (rank = load + 20 ∨ wait.map (·.2) = some .expired ∧ rank = load + 18)
  | .ordering slot command => slot = none ∧ (∃ timer, command = .addTimer timer ∧ IsAlarm timer) ∧ Serving 1 ∧
      rank = load + span + 23
  | .ticking _ timer rest => Beating count fired timer task.timers ∧ 0 < fired ∧ ∃ calls, calls ≤ 4 ∧
      rank = load + 30 + calls ∧
      rest.Settles (fun _ after quitting => Counts granted fired (ahead task) after ∧
        (quitting = true ↔ fired = count)) calls ticker task.quitting
  | .callingBack _ timer rest => timer.repeats.isExhausted = true ∧ Wound count fired 1 task.timers ∧ fired < count ∧
      ∃ calls, calls ≤ 4 ∧ rank = load + 30 + calls ∧
      rest.Settles (fun _ after quitting => Counts granted fired (ahead task) after ∧ quitting = false) calls ticker
        task.quitting
  | .rearming _ timer => rank = load + 25 ∧
      (Beating count fired timer task.timers ∧ Counts granted fired (ahead task) ticker ∧
          (task.quitting = true ↔ fired = count) ∨
        timer.repeats.isExhausted = true ∧ task.quitting = false ∧ Serving 0)
  | .closing => Finished ∧ rank = load + 10
  | .abandoning slots _ => slots = [] ∧ Finished ∧ rank = 9
  | .exiting rest => rest = .done () ∧ Finished ∧ rank = 8
  | .disposing => Finished ∧ rank = 7
  | .leaving => Finished ∧ rank = 6
  | .reporting => Finished ∧ rank = 5
  | .ended => Finished ∧ rank = 4
  | .lost | .handling .. | .answering .. => False

/-- What is known of the task all along. -/
structure Ticks (count granted : Nat) (now : Instant) (task : Clockwork) (fired rank : Nat) : Prop where
  handler : task.handler = handler
  orders : ∀ entry ∈ task.exchange.queue.entries, ∃ timer, entry.item = ⟨.addTimer timer, none⟩ ∧ IsAlarm timer
  closed : task.exchange.queue.closed = task.place.isPast
  stands : ∃ wait, task.exchange.waiting = Sync.WaitSet.solo Task.consumer wait ∧
    (wait ≠ none → task.place = .receiving) ∧ Phase count granted now task wait fired rank

/-- The tick that the handler is busy with. -/
def tickAt : Task.Place Ticker Unit Unit Unit → Option Tick
  | .ticking _ timer _ => some ⟨timer.id, timer.fired, timer.repeats.remaining⟩
  | _ => none

/-- The tick that the handler is handed between two moments. -/
def handed? (before after : Task.Place Ticker Unit Unit Unit) : Option Tick :=
  if (tickAt before).isSome then none else tickAt after

variable {count granted fired beats rank given : Nat} {now : Instant} {task after : Clockwork}
  {progress : Task.Progress Ticker Unit Unit Unit} {wait : Option Sync.Wait}

/-- Ticks are handed over one by one. -/
inductive Hands (count : Nat) (before after : Task.Place Ticker Unit Unit Unit) (fired : Nat) : Nat → Prop
  | nothing (none : handed? before after = none) : Hands count before after fired fired
  | tick (some : handed? before after = some (tickOf count (fired + 1))) : Hands count before after fired (fired + 1)

/-- The thread goes on waiting for the same timers. -/
structure Rests (task after : Clockwork) : Prop where
  before : task.place = .receiving
  stays : after.place = .receiving
  timers : after.timers = task.timers
  parked : after.exchange.waiting =
    Sync.WaitSet.solo Task.consumer (some (Sync.limit after.timers.nextDeadline?, .parked))

/-- Where a step leads. -/
structure Onward (count granted : Nat) (now : Instant) (task : Clockwork) (given fired rank : Nat)
    (progress : Task.Progress Ticker Unit Unit Unit) : Prop where
  given : progress.given = given
  life : progress.task.life = task.life ∨
    task.place = .leaving ∧ task.life.terminate? = some progress.task.life
  leads : ∃ next lower, Ticks count granted now progress.task next lower ∧
    Hands count task.place progress.task.place fired next ∧
    (lower < rank ∨ lower = rank ∧ Rests task progress.task)

private theorem Ticks.phase (ticks : Ticks count granted now task fired rank) (away : task.place ≠ .receiving) :
    task.exchange.waiting = Sync.WaitSet.solo Task.consumer none ∧ Phase count granted now task none fired rank := by
  obtain ⟨wait, waiting, only, phase⟩ := ticks.stands
  cases wait with
  | none => exact ⟨waiting, phase⟩
  | some wait => exact absurd (only nofun) away

private theorem Ticks.onward (ticks : Ticks count granted now task fired rank)
    {here there : Task.Place Ticker Unit Unit Unit}
    (place : task.place = here) (next lower : Nat) (away : here ≠ .receiving) (past : there.isPast = here.isPast)
    (hands : Hands count here there fired next) {surface : Surface Ticker} {timers : TimerSet Ticker}
    {initial : Option (Timer Ticker)} {quitting : Bool} {disposals : Nat} {effects : List Effect}
    (phase : Phase count granted now { task with surface, timers, initial, quitting, place := there, disposals } none
      next lower) (less : lower < rank) :
    Onward count granted now task given fired rank
      ⟨{ task with surface, timers, initial, quitting, place := there, disposals }, given, effects⟩ where
  given := rfl
  life := .inl rfl
  leads := ⟨next, lower, {
    handler := ticks.handler
    orders := ticks.orders
    closed := by rw [ticks.closed, place, past]
    stands := ⟨none, (ticks.phase (place ▸ away)).1, fun some => absurd rfl some, phase⟩ }, place ▸ hands, .inl less⟩

private theorem Hands.quiet {before after : Task.Place Ticker Unit Unit Unit} (none : tickAt after = none) :
    Hands count before after fired fired := by
  refine .nothing ?_
  simp [handed?, none]

private theorem Hands.same {before after : Task.Place Ticker Unit Unit Unit} (some : (tickAt before).isSome = true) :
    Hands count before after fired fired := by
  refine .nothing ?_
  simp [handed?, some]

private theorem Hands.beat {began : Instant} {timer : Timer Ticker} {before : Task.Place Ticker Unit Unit Unit}
    {rest : HandlerCode Ticker Unit Unit (Option Unit)} (none : tickAt before = none)
    (beat : IsBeat count (fired + 1) timer) : Hands count before (.ticking began timer rest) fired (fired + 1) := by
  refine .tick ?_
  rw [handed?, none, tickAt, beat.shown]
  rfl

private theorem Ticks.step_armed (ticks : Ticks count granted now task fired rank) (positive : 0 < count)
    (place : task.place = .arming) {timer : Timer Ticker} (initial : task.initial = some timer) :
    Onward count granted now task given fired rank
      ⟨{ task with
        timers := task.timers.arm timer now
        initial := none
        quitting := false
        place := .starting task.handler.onStart }, given, []⟩ := by
  obtain ⟨_, phase⟩ := ticks.phase (by simp [place])
  simp only [Phase, place] at phase
  obtain ⟨unwound, rank⟩ := phase
  obtain ⟨_, same, beat⟩ := unwound.initial
  obtain rfl := Option.some.inj (initial.symm.trans same)
  obtain rfl := unwound.none
  have bare : Wound count 0 0 task.timers := by
    refine ⟨?_, ?_, unwound.kept⟩ <;> simp [beatsIn, unwound.armed]
  obtain ⟨wound, alarms⟩ := bare.arm_beat beat positive now
  refine ticks.onward place 0 (load count 0 task + 23) (by simp) (by rfl)
    (.quiet rfl) ?_ (by omega)
  refine ⟨by rw [ticks.handler]; rfl, rfl, ⟨wound, positive, ?_⟩, ?_⟩
  · have counts := unwound.counts
    rw [ahead] at counts ⊢
    rwa [alarms]
  · rw [load, load, alarms]

private theorem Ticks.step_starting (ticks : Ticks count granted now task fired rank)
    {rest : HandlerCode Ticker Unit Unit Unit} (place : task.place = .starting rest)
    (stepped : task.step? now given = some progress) : Onward count granted now task given fired rank progress := by
  obtain ⟨_, phase⟩ := ticks.phase (by simp [place])
  simp only [Phase, place] at phase
  obtain ⟨rfl, quitting, serving, rank⟩ := phase
  simp only [Task.step?, place, Task.advance, Task.afterCall, quitting, Bool.false_eq_true, if_false,
    Option.some.injEq] at stepped
  subst stepped
  exact ticks.onward place fired (load count fired task + 22) (by simp) (by rfl)
    (.quiet rfl) ⟨serving, .inl rfl⟩ (by omega)

private theorem Ticks.step_swept (ticks : Ticks count granted now task fired rank) (place : task.place = .sweeping) :
    Onward count granted now task given fired rank ⟨{ task with place := .draining now }, given, []⟩ := by
  obtain ⟨_, phase⟩ := ticks.phase (by simp [place])
  simp only [Phase, place] at phase
  obtain ⟨serving, rank | ⟨due, rank⟩⟩ := phase
  · exact ticks.onward place fired (load count fired task + 21) (by simp) (by rfl)
      (.quiet rfl) ⟨serving, .inl rfl⟩ (by omega)
  · exact ticks.onward place fired (load count fired task + 16) (by simp) (by rfl)
      (.quiet rfl) ⟨serving, .inr ⟨due, rfl⟩⟩ (by omega)

private theorem Ticks.step_drained (ticks : Ticks count granted now task fired rank) {began : Instant}
    (place : task.place = .draining began) (due : task.timers.fire? began = none) :
    Onward count granted now task given fired rank ⟨{ task with place := .receiving }, given, []⟩ := by
  obtain ⟨_, phase⟩ := ticks.phase (by simp [place])
  simp only [Phase, place] at phase
  obtain ⟨serving, rank | ⟨⟨armed, member, early⟩, _⟩⟩ := phase
  · exact ticks.onward place fired (load count fired task + 20) (by simp) (by rfl)
      (.quiet rfl) ⟨serving, .absent, .inl rfl⟩ (by omega)
  · exact absurd (TimerSet.fire?_eq_none.mp due armed member) (Instant.not_lt.mpr early)

private theorem Ticks.step_fired (ticks : Ticks count granted now task fired rank) {began : Instant}
    (place : task.place = .draining began) {firing : TimerSet.Firing Ticker} {timers : TimerSet Ticker}
    (due : task.timers.fire? began = some (firing, timers)) :
    Onward count granted now task given fired rank
      ⟨{ task with timers, quitting := false, place := task.fire began firing }, given,
        [task.firedRecord firing.tick]⟩ := by
  obtain ⟨_, phase⟩ := ticks.phase (by simp [place])
  simp only [Phase, place] at phase
  obtain ⟨serving, rank⟩ := phase
  have early := serving.early
  have counts := serving.counts
  rw [ahead] at counts
  cases serving.wound.fire early due with
  | beat tick last beat wound alarms =>
    have settles := handle_settles firing.tick task.tickPriority task.surface.state
    refine ticks.onward place (fired + 1)
      (span * (count - (fired + 1) + (2 * task.exchange.queue.entries.length + alarmsIn timers)) + 30 + 4)
      (by simp) ?_ ?_ ?_ ?_
    · simp [Task.fire, beat.action, Task.Place.isPast]
    · simp only [Task.fire, beat.action]
      exact .beat rfl beat
    · simp only [Phase, Task.fire, beat.action, ticks.handler]
      refine ⟨⟨beat, wound, early⟩, Nat.succ_pos fired, 4, Nat.le_refl 4, rfl, settles.imp ?_⟩
      rintro _ ticker quitting ⟨ticked, alarmed, quits⟩
      refine ⟨⟨by rw [ticked, counts.ticks], ?_⟩, quits.trans last⟩
      rw [alarmed, ahead, alarms]
      exact counts.alarms
    · simp only [load, span] at rank ⊢
      omega
  | alarm action spent wound alarms armed =>
    have settles := alarm_settles firing.tick task.surface.state false
    refine ticks.onward place fired
      (span * (count - fired + (2 * task.exchange.queue.entries.length + alarmsIn timers)) + 30 + 3)
      (by simp) ?_ ?_ ?_ ?_
    · simp [Task.fire, action, Task.Place.isPast]
    · refine .quiet ?_
      simp [Task.fire, action, tickAt]
    · simp only [Phase, Task.fire, action]
      refine ⟨spent, wound, early, 3, by decide, rfl, settles.imp ?_⟩
      rintro _ ticker quitting ⟨ticked, alarmed, quits⟩
      refine ⟨⟨by rw [ticked, counts.ticks], ?_⟩, quits⟩
      have most := counts.alarms
      rw [alarmed, ahead, alarms]
      simp only
      omega
    · simp only [load, span] at rank ⊢
      omega

private theorem Ticks.step_ticking (ticks : Ticks count granted now task fired rank) {began : Instant}
    {timer : Timer Ticker}
    {rest : HandlerCode Ticker Unit Unit (Option Unit)} (place : task.place = .ticking began timer rest)
    (stepped : task.step? now given = some progress) : Onward count granted now task given fired rank progress := by
  obtain ⟨_, phase⟩ := ticks.phase (by simp [place])
  simp only [Phase, place] at phase
  obtain ⟨beating, positive, calls, few, rank, settles⟩ := phase
  obtain ⟨⟨after, _, effects⟩, steps, rfl, nears⟩ :=
    (Task.InCode.ticking began timer rest place).nears now given settles
  cases steps.symm.trans stepped
  cases nears with
  | goesOn rest state quitting fewer less settles =>
    exact ticks.onward place fired (load count fired task + 30 + fewer) (by simp) (by rfl)
      (.same rfl) ⟨beating, positive, fewer, by omega, rfl, settles⟩
      (by omega)
  | finishes value ended =>
    exact ticks.onward place fired (load count fired task + 25) (by simp) (by rfl)
      (.quiet rfl) ⟨rfl, .inl ⟨beating, ended.1, ended.2⟩⟩ (by omega)

private theorem Ticks.step_callingBack (ticks : Ticks count granted now task fired rank) {began : Instant}
    {timer : Timer Ticker} {rest : HandlerCode Ticker Unit Unit Unit}
    (place : task.place = .callingBack began timer rest) (stepped : task.step? now given = some progress) :
    Onward count granted now task given fired rank progress := by
  obtain ⟨_, phase⟩ := ticks.phase (by simp [place])
  simp only [Phase, place] at phase
  obtain ⟨spent, wound, early, calls, few, rank, settles⟩ := phase
  obtain ⟨⟨after, _, effects⟩, steps, rfl, nears⟩ :=
    (Task.InCode.callingBack began timer rest place).nears now given settles
  cases steps.symm.trans stepped
  cases nears with
  | goesOn rest state quitting fewer less settles =>
    exact ticks.onward place fired (load count fired task + 30 + fewer) (by simp) (by rfl)
      (.quiet rfl) ⟨spent, wound, early, fewer, by omega, rfl, settles⟩ (by omega)
  | finishes value ended =>
    exact ticks.onward place fired (load count fired task + 25) (by simp) (by rfl)
      (.quiet rfl) ⟨rfl, .inr ⟨spent, ended.2, ⟨wound, early, ended.1⟩⟩⟩ (by omega)

private theorem Ticks.step_rearmed (ticks : Ticks count granted now task fired rank) {began : Instant}
    {timer : Timer Ticker} (place : task.place = .rearming began timer) :
    Onward count granted now task given fired rank
      ⟨{ task with
        timers := task.timers.finish timer now
        place := if task.quitting then .closing else .draining began }, given, []⟩ := by
  obtain ⟨_, phase⟩ := ticks.phase (by simp [place])
  simp only [Phase, place] at phase
  obtain ⟨rank, ⟨beating, counts, quits⟩ | ⟨spent, resting, serving⟩⟩ := phase
  · rw [beating.wound.finish]
    by_cases last : fired = count
    · rw [if_pos (quits.mpr last), TimerSet.arm_spent (beating.beat.spent.mpr last)]
      refine ticks.onward place fired (load count fired task + 10) (by simp) (by rfl)
        (.quiet rfl) ⟨⟨last, ⟨by rw [counts.ticks, last], ?_⟩⟩, rfl⟩ (by omega)
      exact Nat.le_trans (Nat.le_add_right _ _) counts.alarms
    · have early : fired < count := Nat.lt_of_le_of_ne beating.within last
      obtain ⟨wound, alarms⟩ := beating.wound.unmarked.arm_beat beating.beat early now
      rw [if_neg fun quitting => last (quits.mp quitting)]
      refine ticks.onward place fired (load count fired task + 21) (by simp) (by rfl)
        (.quiet rfl) ⟨⟨wound, early, ?_⟩, .inl ?_⟩ (by omega)
      · rw [ahead] at counts ⊢
        rw [alarms]
        exact counts
      · rw [load, load, alarms]
        rfl
  · rw [serving.wound.finish, TimerSet.arm_spent spent, resting, if_neg Bool.false_ne_true]
    exact ticks.onward place fired (load count fired task + 21) (by simp) (by rfl)
      (.quiet rfl) ⟨⟨serving.wound.unmarked, serving.early, serving.counts⟩, .inl rfl⟩ (by omega)

private theorem Ticks.step_ordered (ticks : Ticks count granted now task fired rank) {slot : Option Nat}
    {command : Command Ticker Unit} (place : task.place = .ordering slot command) :
    Onward count granted now task given fired rank
      ⟨{ (task.order now command).1 with
        exchange := (task.order now command).1.exchange.answer slot .abandoned
        place := .sweeping }, given, (task.order now command).2⟩ := by
  obtain ⟨_, phase⟩ := ticks.phase (by simp [place])
  simp only [Phase, place] at phase
  obtain ⟨rfl, ⟨timer, rfl, alarm⟩, serving, rank⟩ := phase
  simp only [Task.order, Exchange.answer]
  obtain ⟨wound, alarms⟩ := serving.wound.arm_alarm alarm now
  refine ticks.onward place fired (load count fired task + span + 22) (by simp) (by rfl)
    (.quiet rfl) ⟨⟨wound, serving.early, ?_⟩, .inl ?_⟩ (by omega)
  · have counts := serving.counts
    rw [ahead] at counts ⊢
    rw [alarms]
    exact counts
  · rw [load, load, alarms, span]
    simp only
    omega

private theorem Ticks.step_took (ticks : Ticks count granted now task fired rank) (place : task.place = .receiving)
    {entry : Queue.Entry (Parcel (Command Ticker Unit))} {queue : Queue (Parcel (Command Ticker Unit))}
    (popped : task.exchange.queue.pop? = some (entry, queue)) :
    Onward count granted now task given fired rank
      ⟨Task.take { task with exchange :=
        { task.exchange with queue, waiting := task.exchange.waiting.leave Task.consumer } } entry.item, given, []⟩ := by
  obtain ⟨wait, waiting, _, phase⟩ := ticks.stands
  simp only [Phase, place] at phase
  obtain ⟨serving, waits, ranked⟩ := phase
  obtain ⟨timer, item, alarm⟩ := ticks.orders entry (Queue.front?_mem (Queue.pop?_eq_some popped).1)
  have fewer := Queue.size_pop popped
  have counts := serving.counts
  simp only [Queue.size] at fewer
  rw [Task.take, item, waiting, Sync.WaitSet.solo_leave]
  refine ⟨rfl, .inl rfl, fired, span * (count - fired + (2 * queue.entries.length + alarmsIn task.timers)) + span + 23,
    ⟨ticks.handler, fun other member => ticks.orders other (Queue.pop?_subset popped member), ?_, none, rfl,
      fun some => absurd rfl some, rfl, ⟨timer, rfl, alarm⟩, ⟨serving.wound, serving.early, counts.ticks, ?_⟩, rfl⟩,
    .quiet rfl, .inl ?_⟩
  · exact (Queue.closed_pop popped).trans (ticks.closed.trans (by rw [place]; rfl))
  · have most := counts.alarms
    simp only [ahead] at most ⊢
    omega
  · simp only [load, span] at ranked ⊢
    omega

private theorem Ticks.step_gaveUp (ticks : Ticks count granted now task fired rank) (place : task.place = .receiving)
    (futile : task.exchange.queue.closed = true ∨ task.exchange.waiting.stance? Task.consumer = some .expired) :
    Onward count granted now task given fired rank
      ⟨{ task with
        exchange := { task.exchange with waiting := task.exchange.waiting.leave Task.consumer }
        place := .sweeping }, given, []⟩ := by
  obtain ⟨wait, waiting, _, phase⟩ := ticks.stands
  simp only [Phase, place] at phase
  obtain ⟨serving, waits, ranked⟩ := phase
  have unclosed : task.exchange.queue.closed = false := by rw [ticks.closed, place]; rfl
  rw [waiting, Sync.WaitSet.solo_stance] at futile
  rw [waiting, Sync.WaitSet.solo_leave]
  have due : Due now task.timers := by
    cases waits with
    | absent => simp [unclosed] at futile
    | waiting stance _ expired => exact expired (by simpa [unclosed] using futile)
  refine ⟨rfl, .inl rfl, fired, load count fired task + 17, ⟨ticks.handler, ticks.orders, unclosed, none, rfl,
    fun some => absurd rfl some, serving, .inr ⟨due, rfl⟩⟩, .quiet rfl, .inl ?_⟩
  omega

private theorem Ticks.step_parked (ticks : Ticks count granted now task fired rank) (place : task.place = .receiving)
    (empty : task.exchange.queue.pop? = none)
    (unexpired : task.exchange.waiting.stance? Task.consumer ≠ some .expired) :
    Onward count granted now task given fired rank
      ⟨{ task with
        exchange := { task.exchange with
          waiting := task.exchange.waiting.park Task.consumer (Sync.limit task.timers.nextDeadline?) }
        place := .receiving }, given, []⟩ := by
  obtain ⟨wait, waiting, _, phase⟩ := ticks.stands
  simp only [Phase, place] at phase
  obtain ⟨serving, waits, ranked⟩ := phase
  have unclosed : task.exchange.queue.closed = false := by rw [ticks.closed, place]; rfl
  have entries := Queue.pop?_eq_none.mp empty
  rw [waiting, Sync.WaitSet.solo_stance] at unexpired
  rw [waiting, Sync.WaitSet.solo_park]
  have exact : rank = load count fired task + 20 := ranked.resolve_right fun late => unexpired late.1
  exact ⟨rfl, .inl rfl, fired, rank, ⟨ticks.handler, ticks.orders, unclosed, _, rfl, fun _ => rfl,
    serving, .waiting .parked (fun _ => entries) (by simp), .inl exact⟩,
    .quiet rfl, .inr ⟨rfl, place, rfl, rfl, rfl⟩⟩

private theorem Ticks.step_closed (ticks : Ticks count granted now task fired rank) (place : task.place = .closing) :
    Onward count granted now task given fired rank
      ⟨{ task with
        timers := task.timers.clear
        exchange := task.exchange.close.2
        place := .abandoning (Exchange.slotsOf task.exchange.close.1) task.exchange.close.1.length }, given, []⟩ := by
  obtain ⟨waiting, phase⟩ := ticks.phase (by simp [place])
  simp only [Phase, place] at phase
  obtain ⟨finished, rank⟩ := phase
  have unasked : Exchange.slotsOf task.exchange.queue.entries = [] := by
    refine List.filterMap_eq_nil_iff.mpr fun entry member => ?_
    obtain ⟨timer, item, _⟩ := ticks.orders entry member
    rw [item]
  simp only [Exchange.close, Queue.close, waiting, Sync.WaitSet.solo_broadcast, unasked]
  exact ⟨rfl, .inl rfl, fired, 9, ⟨ticks.handler, by simp, rfl, none, rfl, fun some => absurd rfl some,
    rfl, finished, rfl⟩, .quiet rfl, .inl (by omega)⟩

private theorem Ticks.step_exiting (ticks : Ticks count granted now task fired rank)
    {rest : HandlerCode Ticker Unit Unit Unit} (place : task.place = .exiting rest)
    (stepped : task.step? now given = some progress) : Onward count granted now task given fired rank progress := by
  obtain ⟨_, phase⟩ := ticks.phase (by simp [place])
  simp only [Phase, place] at phase
  obtain ⟨rfl, finished, rank⟩ := phase
  simp only [Task.step?, place, Task.advance, Option.some.injEq] at stepped
  subst stepped
  exact ticks.onward place fired 7 (by simp) (by rfl) (.quiet rfl) ⟨finished, rfl⟩ (by omega)

theorem Ticks.step (ticks : Ticks count granted now task fired rank) (positive : 0 < count)
    (stepped : task.step? now given = some progress) : Onward count granted now task given fired rank progress := by
  cases Task.turn_of_step? stepped with
  | entered place =>
    obtain ⟨_, phase⟩ := ticks.phase (by simp [place])
    simp only [Phase, place] at phase
    obtain ⟨unwound, rank⟩ := phase
    exact ticks.onward place fired (load count fired task + 24) (by simp) (by rfl)
      (.quiet rfl) ⟨unwound, rfl⟩ (by omega)
  | started place initial =>
    obtain ⟨_, phase⟩ := ticks.phase (by simp [place])
    simp only [Phase, place] at phase
    obtain ⟨timer, some, _⟩ := phase.1.initial
    rw [initial] at some
    cases some
  | armed timer place initial => exact ticks.step_armed positive place initial
  | ran inside advanced =>
    cases inside with
    | starting rest place => exact ticks.step_starting place stepped
    | ticking began timer rest place => exact ticks.step_ticking place stepped
    | callingBack began timer rest place => exact ticks.step_callingBack place stepped
    | exiting rest place => exact ticks.step_exiting place stepped
    | handling slot rest place =>
      obtain ⟨_, phase⟩ := ticks.phase (by simp [place])
      simp [Phase, place] at phase
  | swept place => exact ticks.step_swept place
  | drained began place due => exact ticks.step_drained place due
  | fired began firing timers place due => exact ticks.step_fired place due
  | rearmed began timer place => exact ticks.step_rearmed place
  | took entry queue place popped => exact ticks.step_took place popped
  | gaveUp place empty futile => exact ticks.step_gaveUp place futile
  | parked place empty unclosed unexpired => exact ticks.step_parked place empty unexpired
  | ordered slot command place => exact ticks.step_ordered place
  | answered slot response place =>
    obtain ⟨_, phase⟩ := ticks.phase (by simp [place])
    simp [Phase, place] at phase
  | closed place => exact ticks.step_closed place
  | told slot slots dropped place =>
    obtain ⟨_, phase⟩ := ticks.phase (by simp [place])
    simp [Phase, place] at phase
  | exited dropped place =>
    obtain ⟨_, phase⟩ := ticks.phase (by simp [place])
    simp only [Phase, place] at phase
    obtain ⟨_, finished, rank⟩ := phase
    exact ticks.onward place fired 8 (by simp) (by rfl) (.quiet rfl)
      ⟨by rw [ticks.handler]; rfl, finished, rfl⟩ (by omega)
  | disposed place =>
    obtain ⟨_, phase⟩ := ticks.phase (by simp [place])
    simp only [Phase, place] at phase
    obtain ⟨finished, rank⟩ := phase
    exact ticks.onward place fired 6 (by simp) (by rfl) (.quiet rfl) ⟨finished, rfl⟩ (by omega)
  | left life place terminated =>
    obtain ⟨waiting, phase⟩ := ticks.phase (by simp [place])
    simp only [Phase, place] at phase
    obtain ⟨finished, rank⟩ := phase
    exact ⟨rfl, .inr ⟨place, terminated⟩, fired, 5, ⟨ticks.handler, ticks.orders, by rw [ticks.closed, place]; rfl, none,
      waiting, fun some => absurd rfl some, finished, rfl⟩, .quiet rfl, .inl (by omega)⟩
  | reported place =>
    obtain ⟨_, phase⟩ := ticks.phase (by simp [place])
    simp only [Phase, place] at phase
    obtain ⟨finished, rank⟩ := phase
    exact ticks.onward place fired 4 (by simp) (by rfl) (.quiet rfl) ⟨finished, rfl⟩ (by omega)

theorem Ticks.stepped (ticks : Ticks count granted now task fired rank) (begun : task.place ≠ .idle)
    (unended : task.place ≠ .ended) (committed : task.life.starting = false) (given : Nat) :
    (∃ progress, task.step? now given = some progress) ∨ task.place = .receiving ∧ task.exchange.waiting =
      Sync.WaitSet.solo Task.consumer (some (Sync.limit task.timers.nextDeadline?, .parked)) := by
  obtain ⟨wait, waiting, _, phase⟩ := ticks.stands
  cases place : task.place with
  | idle | ended => contradiction
  | lost | handling | answering => simp [Phase, place] at phase
  | entering | arming | sweeping | rearming | ordering | closing | disposing | reporting =>
    exact .inl ⟨_, by simp only [Task.step?, place]; rfl⟩
  | starting rest | exiting rest =>
    simp only [Phase, place] at phase
    obtain ⟨rfl, _⟩ := phase
    exact .inl ⟨_, by simp only [Task.step?, place, Task.advance]; rfl⟩
  | draining began =>
    refine .inl ?_
    simp only [Task.step?, place]
    cases task.timers.fire? began <;> exact ⟨_, rfl⟩
  | ticking began timer rest =>
    simp only [Phase, place] at phase
    obtain ⟨_, _, calls, _, _, settles⟩ := phase
    obtain ⟨progress, steps, _⟩ := (Task.InCode.ticking began timer rest place).nears now given settles
    exact .inl ⟨progress, steps⟩
  | callingBack began timer rest =>
    simp only [Phase, place] at phase
    obtain ⟨_, _, _, calls, _, _, settles⟩ := phase
    obtain ⟨progress, steps, _⟩ := (Task.InCode.callingBack began timer rest place).nears now given settles
    exact .inl ⟨progress, steps⟩
  | receiving =>
    have stance : task.exchange.waiting.stance? Task.consumer = wait.map (·.2) := by
      rw [waiting, Sync.WaitSet.solo_stance]
    by_cases parked : wait.map (·.2) = some .parked
    · simp only [Phase, place] at phase
      cases phase.2.1 with
      | absent => cases parked
      | waiting stance _ _ =>
        cases parked
        exact .inr ⟨rfl, waiting⟩
    · refine .inl ?_
      simp only [Task.step?, place, stance, if_neg parked]
      split <;> exact ⟨_, rfl⟩
  | abandoning slots dropped => cases slots <;> exact .inl ⟨_, by simp only [Task.step?, place]; rfl⟩
  | leaving =>
    exact .inl ⟨_, by simp only [Task.step?, place, Lifecycle.terminate?, committed, Bool.false_eq_true, if_false]; rfl⟩

theorem Ticks.isPast_iff (ticks : Ticks count granted now task fired rank) : task.place.isPast = true ↔ rank < 10 := by
  obtain ⟨wait, _, _, phase⟩ := ticks.stands
  cases place : task.place with
  | lost | handling | answering => simp [Phase, place] at phase
  | idle | entering | arming | starting | sweeping | draining | ticking | callingBack | rearming | receiving | ordering
    | closing | abandoning | exiting | disposing | leaving | reporting | ended =>
    simp only [Phase, place] at phase
    simp only [Task.Place.isPast, Bool.false_eq_true, false_iff, true_iff, Nat.not_lt]
    omega

theorem Ticks.isEnded_iff (ticks : Ticks count granted now task fired rank) : task.place = .ended ↔ rank = 4 := by
  obtain ⟨wait, _, _, phase⟩ := ticks.stands
  cases place : task.place with
  | lost | handling | answering => simp [Phase, place] at phase
  | idle | entering | arming | starting | sweeping | draining | ticking | callingBack | rearming | receiving | ordering
    | closing | abandoning | exiting | disposing | leaving | reporting | ended =>
    simp only [Phase, place] at phase
    simp only [reduceCtorEq, false_iff, true_iff]
    omega

theorem Ticks.finished (ticks : Ticks count granted now task fired rank) (past : task.place.isPast = true) :
    Finished count granted fired task.surface.state := by
  obtain ⟨wait, _, _, phase⟩ := ticks.stands
  cases place : task.place with
  | abandoning =>
    simp only [Phase, place] at phase
    exact phase.2.1
  | exiting =>
    simp only [Phase, place] at phase
    exact phase.2.1
  | disposing | leaving | reporting | ended =>
    simp only [Phase, place] at phase
    exact phase.1
  | lost => simp [Phase, place] at phase
  | idle | entering | arming | starting | sweeping | draining | ticking | callingBack | rearming | receiving | ordering
    | closing | handling | answering => simp [place, Task.Place.isPast] at past

theorem Ticks.within (ticks : Ticks count granted now task fired rank) : fired ≤ count := by
  obtain ⟨wait, _, _, phase⟩ := ticks.stands
  cases place : task.place with
  | lost | handling | answering => simp [Phase, place] at phase
  | idle | entering | arming =>
    simp only [Phase, place] at phase
    rw [phase.1.none]
    exact Nat.zero_le count
  | starting | ordering =>
    simp only [Phase, place] at phase
    exact Nat.le_of_lt phase.2.2.1.early
  | sweeping | draining | receiving =>
    simp only [Phase, place] at phase
    exact Nat.le_of_lt phase.1.early
  | ticking =>
    simp only [Phase, place] at phase
    exact phase.1.within
  | callingBack =>
    simp only [Phase, place] at phase
    exact Nat.le_of_lt phase.2.2.1
  | rearming =>
    simp only [Phase, place] at phase
    obtain ⟨_, ⟨beating, _⟩ | ⟨_, _, serving⟩⟩ := phase
    · exact beating.within
    · exact Nat.le_of_lt serving.early
  | closing | disposing | leaving | reporting | ended =>
    simp only [Phase, place] at phase
    exact Nat.le_of_eq phase.1.last
  | abandoning | exiting =>
    simp only [Phase, place] at phase
    exact Nat.le_of_eq phase.2.1.last

theorem Ticks.framed (ticks : Ticks count granted now task fired rank) (life : Lifecycle) (abandoned : Bool) :
    Ticks count granted now { task with life, abandoned } fired rank :=
  ⟨ticks.handler, ticks.orders, ticks.closed, ticks.stands⟩

theorem Ticks.begun (ticks : Ticks count granted now task fired rank) (idle : task.place = .idle) (life : Lifecycle) :
    ∃ lower < rank, Ticks count granted now { task with life, place := .entering } fired lower := by
  obtain ⟨waiting, phase⟩ := ticks.phase (by simp [idle])
  simp only [Phase, idle] at phase
  obtain ⟨unwound, rank⟩ := phase
  exact ⟨load count fired task + 25, by omega, ticks.handler, ticks.orders, by rw [ticks.closed, idle]; rfl, none,
    waiting, fun some => absurd rfl some, unwound, rfl⟩

theorem Ticks.later (ticks : Ticks count granted now task fired rank) {next : Instant} (passed : now ≤ next) :
    Ticks count granted next task fired rank := by
  have due (due : Due now task.timers) : Due next task.timers := by
    obtain ⟨armed, member, reached⟩ := due
    exact ⟨armed, member, Instant.le_trans reached passed⟩
  obtain ⟨wait, waiting, only, phase⟩ := ticks.stands
  refine ⟨ticks.handler, ticks.orders, ticks.closed, wait, waiting, only, ?_⟩
  unfold Phase at phase ⊢
  cases place : task.place with
  | sweeping =>
    simp only [place] at phase ⊢
    exact ⟨phase.1, phase.2.imp_right fun ⟨fires, rank⟩ => ⟨due fires, rank⟩⟩
  | receiving =>
    simp only [place] at phase ⊢
    obtain ⟨serving, waits, rank⟩ := phase
    refine ⟨serving, ?_, rank⟩
    cases waits with
    | absent => exact .absent
    | waiting stance parked expired => exact .waiting stance parked fun late => due (expired late)
  | lost | handling | answering =>
    simp only [place] at phase
  | idle | entering | arming | starting | draining | ticking | callingBack | rearming | ordering | closing | abandoning
    | exiting | disposing | leaving | reporting | ended =>
    simpa only [place] using phase

theorem Ticks.rouse (ticks : Ticks count granted now task fired rank) :
    Ticks count granted now { task with exchange := task.exchange.rouse Task.consumer } fired rank := by
  obtain ⟨wait, waiting, only, phase⟩ := ticks.stands
  refine ⟨ticks.handler, ticks.orders, ticks.closed, wait.map Sync.Wait.woke, ?_, ?_, ?_⟩
  · rw [Exchange.rouse, waiting, Sync.WaitSet.solo_rouse]
  · exact fun some => only fun none => some (by rw [none]; rfl)
  · cases wait with
    | none => exact phase
    | some wait =>
      have place := only (by simp)
      simp only [Phase, place] at phase ⊢
      obtain ⟨serving, waits, ranked⟩ := phase
      cases waits with
      | waiting stance parked expired =>
        cases stance with
        | parked | woken =>
          have exact : rank = load count fired task + 20 := by simpa using ranked
          exact ⟨serving, .waiting .woken nofun nofun, .inl exact⟩
        | expired => exact ⟨serving, .waiting .expired nofun expired, ranked⟩

theorem Ticks.expire (ticks : Ticks count granted now task fired rank) : ∃ lower ≤ rank,
    Ticks count granted now { task with exchange := task.exchange.expire now Task.consumer } fired lower ∧
      ((∃ waiter ∈ task.exchange.waiting.waiters, Sync.WaitSet.Waiter.isOverdue waiter now = true) → lower < rank) := by
  obtain ⟨wait, waiting, only, phase⟩ := ticks.stands
  have expires : (task.exchange.expire now Task.consumer).waiting =
      Sync.WaitSet.solo Task.consumer (wait.map (Sync.Wait.late now)) := by
    rw [Exchange.expire, waiting, Sync.WaitSet.solo_expire]
  cases wait with
  | none =>
    refine ⟨rank, Nat.le_refl rank, ⟨ticks.handler, ticks.orders, ticks.closed, none, expires, ?_, phase⟩, ?_⟩
    · exact fun some => absurd rfl some
    · simp [waiting, Sync.WaitSet.solo]
  | some wait =>
    have place := only (by simp)
    simp only [Phase, place] at phase
    obtain ⟨serving, waits, ranked⟩ := phase
    cases waits with
    | waiting stance parked expired =>
      by_cases overdue : stance = .parked ∧ (Sync.limit task.timers.nextDeadline?).any (· ≤ now) = true
      · have due : Due now task.timers := by
          have reached := Sync.overdue_of_limit overdue.2
          cases next : task.timers.nextDeadline? with
          | none => simp [next] at reached
          | some deadline =>
            obtain ⟨⟨armed, member, rfl⟩, _⟩ := TimerSet.nextDeadline?_eq_some.mp next
            exact ⟨armed, member, by simpa [next] using reached⟩
        have exact : rank = load count fired task + 20 := by simpa [overdue.1] using ranked
        refine ⟨load count fired task + 18, by omega, ⟨ticks.handler, ticks.orders, ticks.closed, _, expires,
          fun _ => place, ?_⟩, fun _ => by omega⟩
        simp only [Phase, place, Option.map_some, Sync.Wait.late, if_pos overdue]
        exact ⟨serving, .waiting .expired (by simp) fun _ => due, .inr ⟨trivial, rfl⟩⟩
      · refine ⟨rank, Nat.le_refl rank, ⟨ticks.handler, ticks.orders, ticks.closed, _, expires, fun _ => place, ?_⟩, ?_⟩
        · simp only [Phase, place, Option.map_some, Sync.Wait.late, if_neg overdue]
          exact ⟨serving, .waiting stance parked expired, ranked⟩
        · rintro ⟨waiter, member, passed⟩
          rw [waiting] at member
          simp only [Sync.WaitSet.solo, List.mem_singleton] at member
          subst member
          exact absurd (by simpa [Sync.WaitSet.Waiter.isOverdue] using passed) overdue

private theorem Counts.grant {granted ticks ahead : Nat} {ticker : Ticker}
    (counts : Counts granted ticks ahead ticker) : Counts (granted + 1) ticks (ahead + 1) ticker :=
  ⟨counts.ticks, Nat.succ_le_succ counts.alarms⟩

private theorem Serving.grant {ahead : Nat} {timers : TimerSet Ticker} {ticker : Ticker}
    (serving : Serving count granted fired ahead timers ticker) :
    Serving count (granted + 1) fired (ahead + 1) timers ticker :=
  ⟨serving.wound, serving.early, serving.counts.grant⟩

private theorem Finished.grant {ticker : Ticker} (finished : Finished count granted fired ticker) :
    Finished count (granted + 1) fired ticker :=
  ⟨finished.last, finished.counts.ticks, Nat.le_succ_of_le finished.counts.alarms⟩

theorem Ticks.admit (ticks : Ticks count granted now task fired rank) {timer : Timer Ticker} (alarm : IsAlarm timer)
    (unpast : task.place.isPast = false) : Ticks count (granted + 1) now
      { task with exchange := task.exchange.admitted .realtime ⟨.addTimer timer, none⟩ 0 } fired (rank + 2 * span) := by
  obtain ⟨wait, waiting, only, phase⟩ := ticks.stands
  refine ⟨ticks.handler, ?_, ticks.closed, wait.map Sync.Wait.woke, ?_, ?_, ?_⟩
  · intro entry member
    rcases List.mem_append.mp member with old | new
    · exact ticks.orders entry old
    · rw [List.mem_singleton.mp new]
      exact ⟨timer, rfl, alarm⟩
  · rw [Exchange.admitted, waiting, Sync.WaitSet.solo_signal]
  · exact fun some => only fun none => some (by rw [none]; rfl)
  · have more : ahead { task with exchange := task.exchange.admitted .realtime ⟨.addTimer timer, none⟩ 0 } =
        ahead task + 1 := by
      simp [ahead, Exchange.admitted, Queue.appended]
      omega
    have heavier : load count fired { task with exchange := task.exchange.admitted .realtime ⟨.addTimer timer, none⟩ 0 } =
        load count fired task + 2 * span := by
      simp [load, Exchange.admitted, Queue.appended, span]
      omega
    unfold Phase at phase ⊢
    rw [more, heavier]
    cases place : task.place with
    | idle | entering | arming =>
      simp only [place] at phase ⊢
      obtain ⟨unwound, rank⟩ := phase
      exact ⟨⟨unwound.none, unwound.initial, unwound.armed, unwound.kept, unwound.counts.grant⟩, by omega⟩
    | starting rest =>
      simp only [place] at phase ⊢
      obtain ⟨done, quitting, serving, rank⟩ := phase
      exact ⟨done, quitting, serving.grant, by omega⟩
    | sweeping | draining began =>
      simp only [place] at phase ⊢
      obtain ⟨serving, rank⟩ := phase
      exact ⟨serving.grant, rank.imp (by omega) (And.imp_right fun _ => by omega)⟩
    | ticking began timer rest =>
      simp only [place] at phase ⊢
      obtain ⟨beating, positive, calls, few, rank, settles⟩ := phase
      exact ⟨beating, positive, calls, few, by omega,
        settles.imp fun _ _ _ => And.imp_left fun counts => counts.grant⟩
    | callingBack began timer rest =>
      simp only [place] at phase ⊢
      obtain ⟨spent, wound, early, calls, few, rank, settles⟩ := phase
      exact ⟨spent, wound, early, calls, few, by omega,
        settles.imp fun _ _ _ => And.imp_left fun counts => counts.grant⟩
    | rearming began timer =>
      simp only [place] at phase ⊢
      obtain ⟨rank, ⟨beating, counts, quits⟩ | ⟨spent, resting, serving⟩⟩ := phase
      · exact ⟨by omega, .inl ⟨beating, counts.grant, quits⟩⟩
      · exact ⟨by omega, .inr ⟨spent, resting, serving.grant⟩⟩
    | receiving =>
      simp only [place] at phase ⊢
      obtain ⟨serving, waits, rank⟩ := phase
      refine ⟨serving.grant, ?_, ?_⟩
      · cases waits with
        | absent => exact .absent
        | waiting stance parked expired => cases stance with
          | parked | woken => exact .waiting .woken (by simp) (by simp)
          | expired => exact .waiting .expired (by simp) expired
      · refine rank.imp (by omega) (And.imp (fun late => ?_) fun _ => by omega)
        obtain ⟨⟨deadline, stance⟩, rfl, rfl⟩ := Option.map_eq_some_iff.mp late
        rfl
    | ordering slot command =>
      simp only [place] at phase ⊢
      obtain ⟨slot, orders, serving, rank⟩ := phase
      refine ⟨slot, orders, ?_, by omega⟩
      have grant := serving.grant
      rwa [Nat.add_right_comm] at grant
    | closing =>
      simp only [place] at phase ⊢
      exact ⟨phase.1.grant, by omega⟩
    | lost | handling | answering => simp only [place] at phase
    | abandoning | exiting | disposing | leaving | reporting | ended => simp [place, Task.Place.isPast] at unpast

end TaskKernel.Demo.Periodic
