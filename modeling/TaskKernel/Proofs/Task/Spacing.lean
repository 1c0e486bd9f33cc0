import TaskKernel.Proofs.Task.Ticking
import TaskKernel.Proofs.Timer.Arming

/-!
The time between two dispatches of a timer. A timer that is taken out has been armed at least one interval
before, and stayed so until then. If it has been dispatched already, it was armed at the end of that dispatch.
-/
namespace TaskKernel

/-- How a set of timers stands to their deadlines. -/
structure TimerSet.Ordered {σ : Type} (set : TimerSet σ) : Prop where
  next : ∀ deadline, set.nextDeadline? = some deadline ↔
    (∃ armed ∈ set.armed, armed.deadline = deadline) ∧ ∀ armed ∈ set.armed, deadline ≤ armed.deadline
  none : set.nextDeadline? = none ↔ set.armed = []
  early : ∀ now, set.popDue? now = .none ↔ ∀ armed ∈ set.armed, ¬ armed.deadline ≤ now

private theorem TimerSet.ordered {σ : Type} (set : TimerSet σ) : set.Ordered where
  next _ := nextDeadline?_eq_some
  none := nextDeadline?_eq_none
  early now := by simp only [popDue?_eq_none, ← Instant.not_lt, Classical.not_not]

namespace Task

variable {σ π ρ υ α : Type} {task : Task σ π ρ υ} {now : Instant} {given : Nat}

private theorem Timed.prompt {timing : TimerSet.Session.Move σ} (timed : task.Timed now timing)
    (settled : ∀ began timer, task.place ≠ .rearming began timer) : timing.Prompt now := by
  cases timed with
  | code times =>
    cases times with
    | allocate | create | cancel => trivial
    | arm => rfl
  | fire | clear => trivial
  | finish began timer place => exact absurd place (settled began timer)

private theorem timings_prompt (task : Task σ π ρ υ) (now : Instant) (given : Nat) :
    (∀ timing ∈ task.timings now given, timing.Prompt now) ∨
      ∃ began timer, task.place = .rearming began timer ∧ task.timings now given = [.finish now] := by
  by_cases rearms : ∃ began timer, task.place = .rearming began timer
  · obtain ⟨began, timer, place⟩ := rearms
    exact .inr ⟨began, timer, place, by rw [timings, place]⟩
  · exact .inl fun timing member => (task.timings_timed now given timing member).prompt
      fun began timer place => rearms ⟨began, timer, place⟩

namespace Host

variable {host : Host σ π ρ υ}

theorem timings_prompt (host : Host σ π ρ υ) (move : Move σ π υ) :
    (∀ timing ∈ host.timings move, timing.Prompt host.kernel.now) ∨
      ∃ began timer, host.task.place = .rearming began timer ∧ host.timings move = [.finish host.kernel.now] := by
  cases move with
  | serve =>
    simp only [Host.timings]
    split
    · exact host.task.timings_prompt host.kernel.now host.kernel.timers
    · exact .inl (List.forall_mem_nil _)
  | addTimer | allocateTimer => exact .inl (by simp [Host.timings, TimerSet.Session.Move.Prompt])
  | begin | commit | join | abandon | setPriority | post | call | cancelTimer | permit | look | rouseCaller
    | expireCaller | rouse | expire | passTo | allocateHandle | identify | record =>
    exact .inl (List.forall_mem_nil _)

theorem moves_append (host : Host σ π ρ υ) (first second : List (Move σ π υ)) :
    host.moves (first ++ second) = (host.moves first).moves second := List.foldl_append

theorem clock_le_moves (host : Host σ π ρ υ) (list : List (Move σ π υ)) :
    host.kernel.now ≤ (host.moves list).kernel.now := by
  induction list generalizing host with
  | nil => exact Instant.le_refl _
  | cons move rest ih => exact Instant.le_trans (host.clock_le move) (ih (host.move move))

/-- The timer that a move takes out, and when the sweep has begun for which it does. -/
def pops? (host : Host σ π ρ υ) : Move σ π υ → Option (Instant × Timer σ)
  | .serve =>
    match host.task.place with
    | .draining began => (host.task.timers.popDue? began).map fun popped => (began, popped.1)
    | _ => none
  | _ => none

variable {move : Move σ π υ} {began : Instant} {timer : Timer σ}

theorem pops?_eq_some (pops : host.pops? move = some (began, timer)) : move = .serve ∧
    host.task.place = .draining began ∧ ∃ rest, host.task.timers.popDue? began = some (timer, rest) := by
  cases move with
  | serve =>
    simp only [pops?] at pops
    split at pops
    · rename_i place
      obtain ⟨⟨popped, rest⟩, found, same⟩ := Option.map_eq_some_iff.mp pops
      cases same
      exact ⟨rfl, place, rest, found⟩
    · cases pops
  | _ => cases pops

theorem out_of_pops (pops : host.pops? move = some (began, timer)) :
    (host.move move).task.place.out? = some timer.tick.2 := by
  obtain ⟨rfl, draining, rest, popped⟩ := pops?_eq_some pops
  have fired : host.task.timers.fire? began = some (⟨timer.tick.2, timer.tick.1⟩, rest) := by
    rw [TimerSet.fire?, popped]
    rfl
  have place : (host.move .serve).task.place = host.task.fire began ⟨timer.tick.2, timer.tick.1⟩ := by
    simp [Host.move, Host.step?, Task.step?, draining, fired]
  rw [place, (fire_place _ _ _).1]

end Host

namespace Watch

variable {watch : Watch σ π ρ υ} {armed : TimerSet.Armed σ} {list : List (Host.Move σ π υ)}

/-- A timer comes to be armed now, for the first time or at the end of its dispatch. -/
structure Arms (watch : Watch σ π ρ υ) (armed : TimerSet.Armed σ) : Prop where
  unarmed : ∀ other ∈ watch.timers.set.armed, other.timer.id ≠ armed.timer.id
  deadline : armed.deadline = watch.course.host.kernel.now.addClamped armed.timer.interval
  occasion : armed.timer.fired = 0 ∧ watch.timers.Ahead armed.timer.id ∨
    ∃ began, watch.course.host.task.place = .rearming began armed.timer

private theorem Sound.armed_move (sound : watch.Sound) (move : Host.Move σ π υ)
    (member : armed ∈ (watch.move move).timers.set.armed) : armed ∈ watch.timers.set.armed ∨ watch.Arms armed := by
  have whole := sound.keeps.sound
  rcases watch.course.host.timings_prompt move with prompt | ⟨began, timer, place, timings⟩
  · refine (whole.armed_moves prompt member).imp_right ?_
    rintro ⟨deadline, unfired, ahead⟩
    exact ⟨whole.not_armed_of_ahead ahead, deadline, .inl ⟨unfired, ahead⟩⟩
  · have finishes : (watch.move move).timers = watch.timers.move (.finish watch.course.host.kernel.now) := by
      show watch.timers.moves (watch.course.host.timings move) = _
      rw [timings]
      rfl
    rw [finishes] at member
    refine (TimerSet.Session.armed_move member).imp_right ?_
    rintro ⟨instant, deadline, ⟨wrong, _⟩ | ⟨same, out⟩⟩
    · cases wrong
    · cases same
      have known : watch.timers.out = some timer := by
        rw [sound.keeps.out, place]
        rfl
      obtain rfl : armed.timer = timer := Option.some.inj (out.symm.trans known)
      exact ⟨whole.not_armed_of_out out, deadline, .inr ⟨began, place⟩⟩

private theorem Sound.pops_armed (sound : watch.Sound) {move : Host.Move σ π υ} {began : Instant} {timer : Timer σ}
    (pops : watch.course.host.pops? move = some (began, timer)) :
    ∃ armed ∈ watch.timers.set.armed, armed.deadline ≤ began ∧ armed.timer = timer := by
  obtain ⟨_, _, rest, popped⟩ := Host.pops?_eq_some pops
  obtain ⟨armed, member, reached, _, same, _⟩ := TimerSet.popDue?_eq_some popped
  rw [← sound.keeps.set] at member
  exact ⟨armed, member, reached, same⟩

private theorem Sound.last_arming (sound : watch.Sound) (member : armed ∈ (watch.moves list).timers.set.armed) :
    (∀ early late, list = early ++ late → armed ∈ (watch.moves early).timers.set.armed) ∨
      ∃ first arming rest, list = first ++ arming :: rest ∧ (watch.moves first).Arms armed ∧
        ∀ early late, rest = early ++ late → armed ∈ (watch.moves (first ++ arming :: early)).timers.set.armed := by
  induction list generalizing watch with
  | nil =>
    left
    intro early late same
    obtain ⟨rfl, _⟩ := List.append_eq_nil_iff.mp same.symm
    exact member
  | cons move tail ih =>
    rcases ih (sound.move move) member with always | ⟨first, arming, rest, rfl, arms, stays⟩
    · rcases sound.armed_move move (always [] tail rfl) with present | arms
      · left
        intro early late same
        cases early with
        | nil => exact present
        | cons _ early =>
          cases same
          exact always early late rfl
      · exact .inr ⟨[], move, tail, rfl, arms, always⟩
    · exact .inr ⟨move :: first, arming, rest, rfl, arms, stays⟩

private theorem ahead_moves (watch : Watch σ π ρ υ) (list : List (Host.Move σ π υ)) {id : TimerId}
    (ahead : (watch.moves list).timers.Ahead id) : watch.timers.Ahead id := by
  induction list generalizing watch with
  | nil => exact ahead
  | cons move rest ih => exact (ih (watch.move move) ahead).before_moves _

theorem moves_append (watch : Watch σ π ρ υ) (first second : List (Host.Move σ π υ)) :
    watch.moves (first ++ second) = (watch.moves first).moves second := List.foldl_append

end Watch

namespace Host

variable {host : Host σ π ρ υ} {list : List (Move σ π υ)}

/-- The last arming of a timer that is taken out after a run, for a sweep that has begun at an instant. -/
structure LastArming (host : Host σ π ρ υ) (list : List (Move σ π υ)) (began : Instant) (timer : Timer σ)
    (first : List (Move σ π υ)) (arming : Move σ π υ) (rest : List (Move σ π υ)) : Prop where
  split : list = first ++ arming :: rest
  unarmed : (host.moves first).task.timers.contains timer.id = false
  stays : ∀ early late, rest = early ++ late →
    (host.moves (first ++ arming :: early)).task.timers.contains timer.id = true
  occasion : timer.fired = 0 ∨ ∃ before, (host.moves first).task.place = .rearming before timer
  dispatched : ∀ one pop two before earlier, list = one ++ pop :: two →
    (host.moves one).pops? pop = some (before, earlier) → earlier.id = timer.id →
      one ++ [pop] <+: first ∧ ∃ before, (host.moves first).task.place = .rearming before timer
  passed : (host.moves first).kernel.now.toNanos + timer.interval.toNanos ≤ began.toNanos

/-- How a timer that is taken out after a run stands to what has happened. -/
structure Spaced (host : Host σ π ρ υ) (list : List (Move σ π υ)) (began : Instant) (timer : Timer σ) : Prop where
  armed : ∃ first arming rest, host.LastArming list began timer first arming rest
  begun : began ≤ (host.moves list).kernel.now
  apart : ∀ one pop two before earlier, list = one ++ pop :: two →
    (host.moves one).pops? pop = some (before, earlier) → earlier.id = timer.id →
      (host.moves one).kernel.now.toNanos + timer.interval.toNanos ≤ began.toNanos

end Host

namespace Watch

variable {host : Host σ π ρ υ} {list first rest : List (Host.Move σ π υ)} {arming : Host.Move σ π υ}
  {armed : TimerSet.Armed σ} {began : Instant}

private theorem before_or_since {γ : Type} {list first rest one two : List γ} {item other : γ}
    (split : list = first ++ item :: rest) (again : list = one ++ other :: two) :
    one ++ [other] <+: first ∨ ∃ early, rest = early ++ two ∧ one ++ [other] = first ++ item :: early := by
  rw [List.append_cons] at split again
  rcases List.prefix_or_prefix_of_prefix ⟨two, again.symm⟩ ⟨rest, split.symm⟩ with short | ⟨early, long⟩
  · rcases List.prefix_concat_iff.mp short with equal | short
    · refine .inr ⟨[], ?_, equal⟩
      rw [split, equal] at again
      exact List.append_cancel_left again
    · exact .inl short
  · refine .inr ⟨early, ?_, ?_⟩
    · rw [split, ← long] at again
      exact List.append_cancel_left (again.trans (List.append_assoc ..))
    · rw [← long, List.append_assoc]
      rfl

/-- A timer that is armed has been dispatched only before its last arming. -/
private theorem dispatched_before (sound : ∀ list, ((start host).moves list).Sound)
    (split : list = first ++ arming :: rest) (arms : ((start host).moves first).Arms armed)
    (stays : ∀ early late, rest = early ++ late →
      armed ∈ ((start host).moves (first ++ arming :: early)).timers.set.armed)
    {one two : List (Host.Move σ π υ)} {pop : Host.Move σ π υ} {before : Instant} {earlier : Timer σ}
    (past : list = one ++ pop :: two) (pops : (host.moves one).pops? pop = some (before, earlier))
    (same : earlier.id = armed.timer.id) :
    one ++ [pop] <+: first ∧ ∃ before, (host.moves first).task.place = .rearming before armed.timer := by
  have whole := (sound (one ++ [pop])).keeps.sound
  have out : ((start host).moves (one ++ [pop])).timers.out = some earlier.tick.2 := by
    rw [(sound (one ++ [pop])).keeps.out, start_moves_host, Host.moves, List.foldl_append]
    exact Host.out_of_pops pops
  have unarmed : armed ∉ ((start host).moves (one ++ [pop])).timers.set.armed := fun member =>
    whole.not_armed_of_out out armed member same.symm
  -- Had the timer been armed by then, it would be armed while it is out.
  have short : one ++ [pop] <+: first := by
    rcases before_or_since split past with short | ⟨early, between, same⟩
    · exact short
    · exact absurd (same ▸ stays early two between) unarmed
  refine ⟨short, ?_⟩
  rcases arms.occasion with ⟨_, ahead⟩ | again
  · obtain ⟨between, rfl⟩ := short
    rw [moves_append] at ahead
    have wrong := ahead_moves _ between ahead
    rw [← same] at wrong
    exact (whole.not_ahead_of_out out wrong).elim
  · rwa [start_moves_host] at again

private theorem exists_last_arming (sound : ∀ list, ((start host).moves list).Sound)
    (fresh : host.task.timers.armed = [])
    {move : Host.Move σ π υ} {timer : Timer σ} (pops : (host.moves list).pops? move = some (began, timer))
    (finite : began < Instant.last) : ∃ first arming rest, host.LastArming list began timer first arming rest := by
  rw [← start_moves_host] at pops
  obtain ⟨armed, member, reached, rfl⟩ := (sound list).pops_armed pops
  have sets (list : List (Host.Move σ π υ)) : ((start host).moves list).timers.set = (host.moves list).task.timers := by
    rw [← start_moves_host]
    exact (sound list).keeps.set
  have initial : (start host).Sound := sound []
  rcases initial.last_arming member with always | ⟨first, arming, rest, split, arms, stays⟩
  · have present : armed ∈ host.task.timers.armed := always [] list rfl
    rw [fresh] at present
    cases present
  · refine ⟨first, arming, rest, split, ?_, ?_, ?_, ?_, ?_⟩
    · rw [← sets, ← Bool.not_eq_true, TimerSet.contains_eq_true]
      rintro ⟨entry, present, same⟩
      exact arms.unarmed entry present same
    · intro early late same
      rw [← sets, TimerSet.contains_eq_true]
      exact ⟨armed, stays early late same, rfl⟩
    · rw [← start_moves_host]
      exact arms.occasion.imp_left And.left
    · intro one pop two before earlier past popped same
      exact dispatched_before sound split arms stays past popped same
    · rw [← start_moves_host]
      rw [arms.deadline] at reached
      exact Instant.add_le_of_addClamped_le reached finite

end Watch

/-- Timers never fire early, and one interval lies between two dispatches of a timer, whatever else happens. -/
theorem every_timer_keeps_its_interval : (∀ set : TimerSet σ, set.Ordered) ∧
    ∀ (kernel : Kernel) (thread : ThreadKey) (settings : Settings υ) (handler : Handler σ π ρ υ) (state : σ)
      (host : Host σ π ρ υ), (Host.create kernel thread settings handler state).1 = .ok host →
        ∀ list move began timer, (host.moves list).pops? move = some (began, timer) → began < Instant.last →
          host.Spaced list began timer := by
  refine ⟨TimerSet.ordered, ?_⟩
  intro kernel thread settings handler state host created list move began timer pops finite
  have sound := (Watch.start_sound created).moves
  obtain ⟨life, initial, _, _, fresh⟩ := create_cases created
  have empty : host.task.timers.armed = [] := by
    rw [fresh]
    rfl
  obtain ⟨first, arming, rest, last⟩ := Watch.exists_last_arming sound empty pops finite
  refine ⟨⟨first, arming, rest, last⟩, ?_, ?_⟩
  · have punctual := (sound list).punctual began
    rw [Watch.start_moves_host, (Host.pops?_eq_some pops).2.1] at punctual
    exact punctual rfl
  · intro one pop two before earlier past popped same
    obtain ⟨between, short⟩ := (last.dispatched one pop two before earlier past popped same).1
    have clock := (host.moves one).clock_le_moves (pop :: between)
    rw [← Host.moves_append, List.append_cons, short, Instant.le_iff_toNanos_le] at clock
    have passed := last.passed
    omega

/-- A timer that is due again one second after its first dispatch, which has come late and has taken two seconds. -/
theorem late_tick_spaced :
    let list : List (Host.Move Nat Nat Unit) := [.begin 7 false, .commit, .serve, .serve, .passTo ⟨5, 0, by decide⟩,
      .serve, .serve, .serve, .passTo ⟨7, 0, by decide⟩, .serve, .serve, .serve, .serve, .passTo ⟨8, 0, by decide⟩,
      .expire, .serve, .serve]
    ∃ host timer,
      (Host.create Worker.kernel 7 (Worker.settings (some Worker.everySecond)) Worker.echoing 0).1 = .ok host ∧
      timer.id = ⟨1⟩ ∧ timer.fired = 1 ∧ host.Spaced list ⟨8, 0, by decide⟩ timer := by
  intro list
  have created : (Host.create Worker.kernel 7 (Worker.settings (some Worker.everySecond)) Worker.echoing 0).1 =
    .ok _ := rfl
  have spaced := every_timer_keeps_its_interval.2 Worker.kernel 7 _ Worker.echoing 0 _ created
  have known {pops : Option (Instant × Timer Nat)} {began : Instant} {behind : Timer Nat → Prop}
      (spaced : ∀ timer, pops = some (began, timer) → behind timer)
      (found : pops.map (fun popped => (popped.1, popped.2.id, popped.2.fired)) = some (began, ⟨1⟩, 1)) :
      ∃ timer, timer.id = ⟨1⟩ ∧ timer.fired = 1 ∧ behind timer := by
    obtain ⟨⟨instant, timer⟩, same, rest⟩ := Option.map_eq_some_iff.mp found
    simp only [Prod.mk.injEq] at rest
    obtain ⟨rfl, id, fired⟩ := rest
    exact ⟨timer, id, fired, spaced timer same⟩
  obtain ⟨timer, id, fired, behind⟩ := known
    (fun timer pops => spaced list .serve ⟨8, 0, by decide⟩ timer pops (by decide)) (by decide +kernel)
  exact ⟨_, timer, created, id, fired, behind⟩

end Task

end TaskKernel
