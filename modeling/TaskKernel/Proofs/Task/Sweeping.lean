import TaskKernel.Proofs.Task.Ticking
import TaskKernel.Proofs.Timer.Sweep

/-!
A sweep of the timers of a task. The thread fires what was due when the sweep began, one timer after the
other, whatever the handler and others do meanwhile, and then the sweep is over.
-/
namespace TaskKernel.Task

variable {σ π ρ υ : Type} {task : Task σ π ρ υ} {diary : Diary σ π ρ} {began now : Instant} {given : Nat}

private theorem Timed.within {timing : TimerSet.Session.Move σ} (timed : task.Timed now timing)
    (sweeps : task.place.sweep? = some began) (passed : began ≤ now) : timing.Within began := by
  cases timed with
  | code times =>
    cases times with
    | allocate | create | cancel => trivial
    | arm => exact passed
  | fire instant place =>
    rw [place] at sweeps
    exact Option.some.inj sweeps
  | finish => exact passed
  | clear place =>
    rw [place] at sweeps
    cases sweeps

private theorem Host.timings_within {host : Host σ π ρ υ} (sweeps : host.task.place.sweep? = some began)
    (passed : began ≤ host.kernel.now) (move : Host.Move σ π υ) :
    ∀ timing ∈ host.timings move, timing.Within began :=
  fun timing member => (host.timings_timed move timing member).within sweeps passed

theorem Step.sweep_next {next : Task σ π ρ υ} {later : Diary σ π ρ} (step : Step task diary next later)
    (sweeps : task.place.sweep? = some began) : next.place.sweep? = some began ∨
      (task.place = .draining began ∧ next.place = .receiving) ∨ next.place = .closing := by
  cases step with
  | aside | dealt => exact .inl sweeps
  | passed life timers abandoned disposals place passes =>
    generalize task.place = before at sweeps passes
    cases passes with
    | drained now =>
      cases sweeps
      exact .inr (.inl ⟨rfl, rfl⟩)
    | rearmed now timer =>
      cases quitting : task.quitting with
      | true => exact .inr (.inr rfl)
      | false => exact .inl sweeps
    | lost | begun | entered | swept | ordered | answered => cases sweeps
  | woundDown life disposals place winds ends =>
    generalize task.place = before at sweeps winds
    cases winds <;> cases sweeps
  | asked call resume asks answer surface timers userData untimed =>
    exact .inl ((asks.sweep answer).trans sweeps)
  | ended ending place ends => exact .inl (ends.sweep.trans sweeps)
  | fired now firing timers draining =>
    rw [draining] at sweeps
    cases sweeps
    exact .inl (fire_sweep task began firing)
  | started _ place | waited _ _ place | took _ _ _ _ place | ordered _ _ _ place | answered _ _ place
    | closed place
    | told _ _ _ place | exited _ place =>
    rw [place] at sweeps
    cases sweeps

namespace Watch

variable {watch : Watch σ π ρ υ}

private theorem Sound.due_of_receiving (sound : watch.Sound) (drains : watch.course.host.task.place = .draining began)
    {move : Host.Move σ π υ} (receives : (watch.move move).course.host.task.place = .receiving) :
    (watch.move move).timers.set.due began = [] := by
  have kept := (sound.keeps.move move).set
  have place : (watch.course.host.move move).task.place = .receiving := receives
  cases serves : move.isServe with
  | false =>
    have still := Host.move_still (by rw [drains]; nofun) serves
    rw [still.place, drains] at place
    cases place
  | true =>
    obtain rfl := Host.Move.eq_serve serves
    cases fired : watch.course.host.task.timers.fire? began with
    | none =>
      have timers : (watch.course.host.move .serve).task.timers = watch.course.host.task.timers := by
        simp [Host.move, Host.step?, step?, drains, fired]
      rw [kept]
      exact TimerSet.due_eq_nil ((congrArg (·.fire? began) timers).trans fired)
    | some result =>
      have fires : (watch.course.host.move .serve).task.place = watch.course.host.task.fire began result.1 := by
        simp [Host.move, Host.step?, step?, drains, fired]
      have sweeps := fire_sweep watch.course.host.task began result.1
      rw [← fires, place] at sweeps
      cases sweeps

/-- Each move is made while the sweep goes on. -/
def Sweeping (began : Instant) (watch : Watch σ π ρ υ) : List (Host.Move σ π υ) → Prop
  | [] => True
  | move :: rest => watch.course.host.task.place.sweep? = some began ∧ (watch.move move).Sweeping began rest

/-- How far a sweep has come that began with a session, when these events have happened. -/
structure Amid (began : Instant) (initial : TimerSet.Session σ) (watch : Watch σ π ρ υ)
    (events : List (TimerSet.Session.Event σ)) : Prop where
  swept : TimerSet.Session.Swept began initial watch.timers events
  stands : watch.course.host.task.place.sweep? = some began ∨
    (watch.course.host.task.place = .receiving ∧ watch.timers.set.due began = []) ∨
    watch.course.host.task.place = .closing

variable {initial : TimerSet.Session σ} {events : List (TimerSet.Session.Event σ)}

theorem Amid.move (amid : watch.Amid began initial events) (whole : initial.Sound) (sound : watch.Sound)
    (finite : began < Instant.last) (sweeps : watch.course.host.task.place.sweep? = some began)
    (move : Host.Move σ π υ) : ∃ more, (watch.move move).Amid began initial (events ++ more) := by
  have within := Host.timings_within sweeps (sound.punctual began sweeps) move
  obtain ⟨more, swept⟩ := amid.swept.moves whole sound.keeps.sound finite _ within
  refine ⟨more, swept, ?_⟩
  rcases (sound.reached.followed.step move).sweep_next sweeps with goesOn | ⟨drains, receives⟩ | closes
  · exact .inl goesOn
  · exact .inr (.inl ⟨receives, sound.due_of_receiving drains receives⟩)
  · exact .inr (.inr closes)

theorem Amid.moves (amid : watch.Amid began initial events) (whole : initial.Sound) (sound : watch.Sound)
    (finite : began < Instant.last) (list : List (Host.Move σ π υ)) (sweeping : watch.Sweeping began list) :
    ∃ more, (watch.moves list).Amid began initial (events ++ more) := by
  induction list generalizing watch events with
  | nil => exact ⟨[], (List.append_nil events).symm ▸ amid⟩
  | cons move rest ih =>
    obtain ⟨first, one⟩ := amid.move whole sound finite sweeping.1 move
    obtain ⟨others, all⟩ := ih one (sound.move move) sweeping.2
    exact ⟨first ++ others, List.append_assoc events first others ▸ all⟩

/-- What a sweep has come to that began with a watched task, when these events have happened. -/
structure Sweep (began : Instant) (watch after : Watch σ π ρ υ) (events : List (TimerSet.Session.Event σ)) :
    Prop where
  history : after.timers.history = watch.timers.history ++ events
  calls : Task.ticks after.course.diary.history =
    Task.ticks watch.course.diary.history ++ TimerSet.Session.ticks events
  once : (TimerSet.Session.firedIds events).Nodup
  unarmed : ∀ timer, .armed timer ∈ events → timer.id ∉ TimerSet.Session.firedIds events
  -- What fires is what was due, from the front, without what is cancelled first.
  fires : TimerSet.Session.firedIds events <+: (watch.course.host.task.timers.dueIds began).filter fun id =>
    !TimerSet.Session.cancelledFirst id events
  ended : after.course.host.task.place.sweep? = none →
    (after.course.host.task.place = .receiving ∧ TimerSet.Session.firedIds events =
      (watch.course.host.task.timers.dueIds began).filter fun id => !TimerSet.Session.cancelledFirst id events) ∨
    (after.course.host.task.place = .closing ∧
      ∃ cause ∈ after.course.diary.history, cause.isCause = true ∧ cause ∉ watch.course.diary.history)

private theorem Sound.cause_of_closing (sound : watch.Sound) (closes : watch.course.host.task.place = .closing) :
    ∃ cause ∈ watch.course.diary.history, cause.isCause = true := by
  have recorded := sound.reached.recorded
  rw [closes] at recorded
  obtain ⟨served, cause, _, causes, same⟩ := recorded
  exact ⟨cause, by simp [same], causes⟩

private theorem Sound.sweep (sound : watch.Sound) (drains : watch.course.host.task.place = .draining began)
    (finite : began < Instant.last) (list : List (Host.Move σ π υ)) (sweeping : watch.Sweeping began list) :
    ∃ events, watch.Sweep began (watch.moves list) events := by
  have start : watch.Amid began watch.timers [] := ⟨.start began watch.timers, .inl (by rw [drains]; rfl)⟩
  have whole := sound.keeps.sound
  have later := sound.moves list
  obtain ⟨events, amid⟩ := start.moves whole sound finite list sweeping
  rw [List.nil_append] at amid
  have order := amid.swept.order
  rw [sound.keeps.set] at order
  refine ⟨events, amid.swept.history, ?_, ?_, fun timer armed => amid.swept.armed_not_fired whole armed, ?_, ?_⟩
  · rw [later.ticks, sound.ticks, amid.swept.history, TimerSet.Session.ticks, List.filterMap_append]
    rfl
  · exact (List.nodup_append.mp (amid.swept.nodup whole)).1
  · rw [order]
    exact List.prefix_append _ _
  · intro ended
    rcases amid.stands with goesOn | ⟨receives, due⟩ | closes
    · rw [goesOn] at ended
      cases ended
    · refine .inl ⟨receives, ?_⟩
      rw [order, TimerSet.dueIds, due, List.map_nil, List.append_nil]
    · obtain ⟨cause, past, causes⟩ := later.cause_of_closing closes
      have serving := sound.reached.recorded
      rw [drains] at serving
      refine .inr ⟨closes, cause, past, causes, fun early => ?_⟩
      rw [(Serving.calm serving cause early).1] at causes
      cases causes

def follow (watch : Watch σ π ρ υ) (schedule : Nat → Host.Move σ π υ) : Nat → Watch σ π ρ υ
  | 0 => watch
  | number + 1 => (watch.follow schedule number).move (schedule number)

variable {schedule : Nat → Host.Move σ π υ}

private theorem course_follow (watch : Watch σ π ρ υ) (schedule : Nat → Host.Move σ π υ) (number : Nat) :
    (watch.follow schedule number).course = watch.course.follow schedule number := by
  induction number with
  | zero => rfl
  | succ number ih => exact congrArg (·.move (schedule number)) ih

theorem Sound.follow (sound : watch.Sound) (schedule : Nat → Host.Move σ π υ) (number : Nat) :
    (watch.follow schedule number).Sound := by
  induction number with
  | zero => exact sound
  | succ number ih => exact ih.move (schedule number)

/-- How much is due to the sweep after a number of moves. -/
def left (watch : Watch σ π ρ υ) (began : Instant) (schedule : Nat → Host.Move σ π υ) (number : Nat) : Nat :=
  ((watch.course.follow schedule number).host.task.timers.due began).length

/-- The sweep goes on for ever. -/
def Endless (watch : Watch σ π ρ υ) (began : Instant) (schedule : Nat → Host.Move σ π υ) : Prop :=
  ∀ number, (watch.course.follow schedule number).host.task.place.sweep? = some began

private theorem Sound.endless (sound : watch.Sound) (drains : watch.course.host.task.place = .draining began)
    (goesOn : ∀ number, (watch.course.follow schedule number).host.task.place.sweep? ≠ none) :
    watch.Endless began schedule := by
  intro number
  induction number with
  | zero =>
    show watch.course.host.task.place.sweep? = some began
    rw [drains]
    rfl
  | succ number ih =>
    have followed := sound.reached.followed.follow schedule number
    have on := goesOn (number + 1)
    rcases (followed.step (schedule number)).sweep_next ih with sweeps | ⟨_, receives⟩ | closes
    · exact sweeps
    · exact absurd (congrArg Place.sweep? receives) on
    · exact absurd (congrArg Place.sweep? closes) on

private theorem Sound.left_succ_le (sound : watch.Sound) (finite : began < Instant.last)
    (endless : watch.Endless began schedule) (number : Nat) :
    watch.left began schedule (number + 1) ≤ watch.left began schedule number := by
  have now := sound.follow schedule number
  have next := sound.follow schedule (number + 1)
  have sweeps := endless number
  rw [← course_follow] at sweeps
  have within := Host.timings_within sweeps (now.punctual began sweeps) (schedule number)
  have less := now.keeps.sound.due_length_le finite _ within
  simp only [left, ← course_follow, ← now.keeps.set, ← next.keeps.set]
  exact less

private theorem Sound.left_le (sound : watch.Sound) (finite : began < Instant.last)
    (endless : watch.Endless began schedule) {number later : Nat} (after : number ≤ later) :
    watch.left began schedule later ≤ watch.left began schedule number := by
  induction after with
  | refl => exact Nat.le_refl _
  | step _ ih => exact Nat.le_trans (sound.left_succ_le finite endless _) ih

private theorem Sound.next_fires (sound : watch.Sound) (endless : watch.Endless began schedule)
    (attended : watch.course.Attended schedule) {number : Nat}
    (drains : (watch.course.follow schedule number).host.task.place = .draining began) :
    ∃ later firing, number ≤ later ∧ watch.left began schedule (later + 1) < watch.left began schedule later ∧
      (watch.course.follow schedule (later + 1)).host.task.place =
        (watch.course.follow schedule later).host.task.fire began firing := by
  obtain ⟨later, progress, after, still, steps, goes⟩ :=
    next_step attended (by rw [drains]; nofun) (by rw [drains]; nofun)
  have place := still.place.trans drains
  simp only [Host.Steps, step?, place] at steps
  cases fired : (watch.course.follow schedule later).host.task.timers.fire? began with
  | none =>
    simp only [fired, Option.some.injEq] at steps
    have sweeps := endless (later + 1)
    rw [goes, ← steps] at sweeps
    cases sweeps
  | some result =>
    obtain ⟨firing, timers⟩ := result
    simp only [fired, Option.some.injEq] at steps
    have kept := (sound.follow schedule later).keeps
    have distinct := kept.sound.distinct
    rw [kept.set, course_follow] at distinct
    obtain ⟨armed, _, _, due⟩ := distinct.due_fire fired
    refine ⟨later, firing, after, ?_, by rw [goes, ← steps]⟩
    rw [left, left, due, goes, ← steps]
    exact Nat.lt_succ_self _

private theorem Sound.next_drains (sound : watch.Sound) (endless : watch.Endless began schedule)
    (attended : watch.course.Attended schedule) {task : Task σ π ρ υ} {firing : TimerSet.Firing σ} {number : Nat}
    (fires : (watch.course.follow schedule number).host.task.place = task.fire began firing) :
    ∃ later, number ≤ later ∧ (watch.course.follow schedule later).host.task.place = .draining began := by
  have followed := sound.reached.followed
  have rearms : ∃ later, number ≤ later ∧
      (watch.course.follow schedule later).host.task.place = .rearming began firing.timer := by
    unfold fire at fires
    split at fires
    · exact (ticking_runs began firing.timer).ends (fun _ => ⟨nofun, nofun⟩) followed attended _ fires
    · exact (callingBack_runs began firing.timer).ends (fun _ => ⟨nofun, nofun⟩) followed attended _ fires
  obtain ⟨rearming, after, place⟩ := rearms
  obtain ⟨later, progress, behind, still, steps, goes⟩ :=
    next_step attended (by rw [place]; nofun) (by rw [place]; nofun)
  have stands := still.place.trans place
  simp only [Host.Steps, step?, stands, Option.some.injEq] at steps
  have moved : (watch.course.follow schedule (later + 1)).host.task.place =
      if (watch.course.follow schedule later).host.task.quitting then .closing else .draining began := by
    rw [goes, ← steps]
  have sweeps := endless (later + 1)
  refine ⟨later + 1, by omega, ?_⟩
  cases quitting : (watch.course.follow schedule later).host.task.quitting with
  | true =>
    rw [moved, quitting] at sweeps
    cases sweeps
  | false =>
    rw [moved, quitting]
    rfl

/-- A sweep comes to its end, by induction on what is left of it. -/
private theorem Sound.stops (sound : watch.Sound) (drains : watch.course.host.task.place = .draining began)
    (finite : began < Instant.last) (attended : watch.course.Attended schedule) :
    ∃ number, (watch.course.follow schedule number).host.task.place.sweep? = none := by
  apply Classical.byContradiction
  intro none
  have endless := sound.endless drains fun number ended => none ⟨number, ended⟩
  have never (most number : Nat) (few : watch.left began schedule number ≤ most) :
      (watch.course.follow schedule number).host.task.place ≠ .draining began := by
    induction most generalizing number with
    | zero =>
      intro place
      obtain ⟨later, firing, after, less, _⟩ := sound.next_fires endless attended place
      have fewer := sound.left_le finite endless after
      omega
    | succ most ih =>
      intro place
      obtain ⟨later, firing, after, less, fires⟩ := sound.next_fires endless attended place
      obtain ⟨again, behind, drains⟩ := sound.next_drains endless attended fires
      have fewer := sound.left_le finite endless after
      have least := sound.left_le finite endless behind
      exact ih again (by omega) drains
  exact never _ 0 (Nat.le_refl _) drains

/-- What is so of a sweep that begins at an instant, whatever happens while it goes on. -/
structure Sweeps (began : Instant) (watch : Watch σ π ρ υ) : Prop where
  due : ∀ armed, armed ∈ watch.course.host.task.timers.due began ↔
    armed ∈ watch.course.host.task.timers.armed ∧ armed.deadline ≤ began
  ascending : (watch.course.host.task.timers.due began).Pairwise fun left right => left.precedes right = true
  fires : ∀ list, watch.Sweeping began list → ∃ events, watch.Sweep began (watch.moves list) events
  stops : ∀ schedule, watch.course.Attended schedule →
    ∃ number, (watch.course.follow schedule number).host.task.place.sweep? = none

/-- Every sweep fires what is due in order, each timer once, and comes to its end. -/
theorem every_sweep_fires_what_is_due :
    (∀ (watch : Watch σ π ρ υ) (began : Instant), watch.Sound → watch.course.host.task.place = .draining began →
      began < Instant.last → watch.Sweeps began) ∧
    ∀ (kernel : Kernel) (thread : ThreadKey) (settings : Settings υ) (handler : Handler σ π ρ υ) (state : σ)
      (host : Host σ π ρ υ), (Host.create kernel thread settings handler state).1 = .ok host →
        ∀ list, ((start host).moves list).Sound := by
  constructor
  · intro watch began sound drains finite
    have distinct := sound.keeps.sound.distinct
    rw [sound.keeps.set] at distinct
    exact {
      due := fun armed => TimerSet.mem_due
      ascending := distinct.due_ascending began
      fires := fun list sweeping => sound.sweep drains finite list sweeping
      stops := fun schedule attended => sound.stops drains finite attended }
  · intro kernel thread settings handler state host created list
    exact (start_sound created).moves list

/-- The timer that starts with a task is due, and the handler cancels it when it fires, so that the sweep
leaves no timer behind. -/
theorem periodic_sweep_fires : ∃ host : Host Nat Nat Nat Unit,
    (Host.create Worker.kernel 7 (Worker.settings (some Worker.everySecond)) Worker.cancelling 0).1 = .ok host ∧
    let sweeps := (start host).moves [.begin 7 false, .commit, .serve, .serve, .passTo ⟨5, 0, by decide⟩, .serve,
      .serve]
    let swept := sweeps.moves (List.replicate 6 .serve)
    sweeps.Sweeps ⟨5, 0, by decide⟩ ∧ swept.course.host.task.place.sweep? = none ∧
      (Task.ticks swept.course.diary.history).map (·.timer) = [⟨1⟩] ∧ swept.course.host.task.timers.size = 0 := by
  have sound := every_sweep_fires_what_is_due.2 Worker.kernel 7 (Worker.settings (some Worker.everySecond))
    Worker.cancelling 0 _ rfl
  refine ⟨_, rfl, every_sweep_fires_what_is_due.1 _ _ (sound _) ?_ (by decide), by decide +kernel,
    by decide +kernel, by decide +kernel⟩
  with_unfolding_all rfl

end Watch

end TaskKernel.Task
