import TaskKernel.Demo.Periodic
import TaskKernel.Proofs.Task.Settling
import TaskKernel.Proofs.Timer.Session

/-!
The two timers of the ticker, the one of its ticks and the alarm, and what the ticker does when they fire.
-/
namespace TaskKernel

theorem TimerSet.arm_spent {σ : Type} {set : TimerSet σ} {timer : Timer σ} (spent : timer.repeats.isExhausted = true)
    (now : Instant) : set.arm timer now = set := by
  simp [TimerSet.arm, spent]

namespace Demo.Periodic

/-- The number of the timer of the ticks. -/
def beatId : TimerId := ⟨1⟩

def alarmId : TimerId := ⟨2⟩

/-- The timer of the ticks after a number of them. -/
structure IsBeat (count fired : Nat) (timer : Timer Ticker) : Prop where
  id : timer.id = beatId
  action : timer.action = .dispatch
  times : timer.fired = fired
  left : ∃ left, timer.repeats = .times left ∧ left.toNat + fired = count

/-- The alarm before it goes off. -/
structure IsAlarm (timer : Timer Ticker) : Prop where
  id : timer.id = alarmId
  action : timer.action = .callback alarm
  repeats : timer.repeats = .once

/-- The tick with a number. -/
def tickOf (count number : Nat) : Tick := ⟨beatId, number, some (UInt32.ofNat (count - number))⟩

variable {count fired beats : Nat} {timer : Timer Ticker}

theorem IsBeat.spent (beat : IsBeat count fired timer) : timer.repeats.isExhausted = true ↔ fired = count := by
  obtain ⟨left, repeats, sum⟩ := beat.left
  have zero : left = 0 ↔ left.toNat = 0 := UInt32.toNat_inj.symm
  rw [repeats, Repeat.isExhausted, beq_iff_eq, zero]
  omega

theorem IsBeat.shown (beat : IsBeat count fired timer) :
    (⟨timer.id, timer.fired, timer.repeats.remaining⟩ : Tick) = tickOf count fired := by
  obtain ⟨left, repeats, sum⟩ := beat.left
  have same : left = UInt32.ofNat (count - fired) := by
    rw [← UInt32.ofNat_toNat (x := left)]
    congr 1
    omega
  rw [repeats, Repeat.remaining, beat.id, beat.times, same, tickOf]

private theorem IsBeat.tick (beat : IsBeat count fired timer) (below : fired < count) :
    IsBeat count (fired + 1) timer.tick.2 ∧ timer.tick.1 = tickOf count (fired + 1) ∧
      (timer.tick.1.isLast = true ↔ fired + 1 = count) := by
  obtain ⟨left, repeats, sum⟩ := beat.left
  have some : left ≠ 0 := by
    rintro rfl
    simp at sum
    omega
  have positive : (1 : UInt32) ≤ left := by
    rw [UInt32.le_iff_toNat_le]
    show 1 ≤ left.toNat
    omega
  have fewer : (left - 1).toNat = left.toNat - 1 := UInt32.toNat_sub_of_le _ _ positive
  have counted : timer.tick.2.repeats = .times (left - 1) := by simp [Timer.tick, repeats, Repeat.consume, some]
  have remaining : timer.tick.1.remaining = Option.some (left - 1) := by
    simp [Timer.tick, repeats, Repeat.consume, some, Repeat.remaining]
  have next : IsBeat count (fired + 1) timer.tick.2 :=
    ⟨beat.id, beat.action, by rw [Timer.tick, beat.times], left - 1, counted, by omega⟩
  refine ⟨next, next.shown, ?_⟩
  have zero : left - 1 = 0 ↔ (left - 1).toNat = 0 := UInt32.toNat_inj.symm
  rw [Tick.isLast, remaining, beq_iff_eq, Option.some.injEq, zero]
  omega

def beatsIn (timers : TimerSet Ticker) : Nat := timers.armed.countP fun armed => armed.timer.id = beatId

def alarmsIn (timers : TimerSet Ticker) : Nat := timers.armed.countP fun armed => armed.timer.id = alarmId

/-- There are no timers but these, and nobody cancels any. -/
structure Wound (count fired beats : Nat) (timers : TimerSet Ticker) : Prop where
  known : ∀ armed ∈ timers.armed, IsBeat count fired armed.timer ∨ IsAlarm armed.timer
  single : beatsIn timers = beats
  kept : timers.firingCancelled = false

variable {timers after : TimerSet Ticker} {now : Instant}

theorem Wound.finish (wound : Wound count fired beats timers) (timer : Timer Ticker) (now : Instant) :
    timers.finish timer now =
      ({ timers with firing := none, firingCancelled := false } : TimerSet Ticker).arm timer now := by
  simp [TimerSet.finish, wound.kept]

theorem Wound.unmarked (wound : Wound count fired beats timers) :
    Wound count fired beats { timers with firing := none, firingCancelled := false } :=
  ⟨wound.known, wound.single, rfl⟩

private theorem Wound.known_armed (wound : Wound count fired beats timers) {entry : TimerSet.Armed Ticker}
    (new : IsBeat count fired entry.timer ∨ IsAlarm entry.timer) :
    ∀ armed ∈ timers.armed ++ [entry], IsBeat count fired armed.timer ∨ IsAlarm armed.timer :=
  List.forall_mem_append.mpr ⟨wound.known, List.forall_mem_singleton.mpr new⟩

theorem Wound.arm_beat (wound : Wound count fired 0 timers) (beat : IsBeat count fired timer) (below : fired < count)
    (now : Instant) : Wound count fired 1 (timers.arm timer now) ∧
      alarmsIn (timers.arm timer now) = alarmsIn timers := by
  obtain ⟨spent, _⟩ | ⟨_, armed⟩ := TimerSet.Session.arm_cases timers timer now
  · have used := beat.spent.mp spent
    omega
  · have none := wound.single
    rw [armed]
    refine ⟨⟨wound.known_armed (.inl beat), ?_, wound.kept⟩, ?_⟩
    · rw [beatsIn] at none
      simp [beatsIn, List.countP_append, none, beat.id]
    · simp [alarmsIn, List.countP_append, beat.id, beatId, alarmId]

theorem Wound.arm_alarm (wound : Wound count fired beats timers) (alarm : IsAlarm timer) (now : Instant) :
    Wound count fired beats (timers.arm timer now) ∧ alarmsIn (timers.arm timer now) = alarmsIn timers + 1 := by
  obtain ⟨spent, _⟩ | ⟨_, armed⟩ := TimerSet.Session.arm_cases timers timer now
  · rw [alarm.repeats] at spent
    cases spent
  · have most := wound.single
    rw [armed]
    refine ⟨⟨wound.known_armed (.inr alarm), ?_, wound.kept⟩, ?_⟩
    · have different : alarmId ≠ beatId := by decide
      rw [beatsIn] at most
      simp [beatsIn, List.countP_append, most, alarm.id, different]
    · simp [alarmsIn, List.countP_append, alarm.id]

/-- What a firing is. -/
inductive Fires (count fired : Nat) (timers after : TimerSet Ticker) (firing : TimerSet.Firing Ticker) : Prop
  | beat (tick : firing.tick = tickOf count (fired + 1)) (last : firing.tick.isLast = true ↔ fired + 1 = count)
      (beat : IsBeat count (fired + 1) firing.timer) (wound : Wound count (fired + 1) 0 after)
      (alarms : alarmsIn after = alarmsIn timers)
  | alarm (action : firing.timer.action = .callback alarm) (spent : firing.timer.repeats.isExhausted = true)
      (wound : Wound count fired 1 after) (alarms : alarmsIn after = 0) (armed : 0 < alarmsIn timers)

private theorem countP_without (id other : TimerId) :
    (timers.without id).armed.countP (fun armed => armed.timer.id = other) =
      if other = id then 0 else timers.armed.countP fun armed => armed.timer.id = other := by
  simp only [TimerSet.without, TimerSet.remove, List.countP_filter]
  split
  · rename_i same
    subst same
    simp
  · rename_i different
    refine List.countP_congr fun armed _ => ?_
    simp only [Bool.and_eq_true, decide_eq_true_eq, and_iff_left_iff_imp]
    rintro rfl
    simpa using different

theorem Wound.fire {firing : TimerSet.Firing Ticker} (wound : Wound count fired 1 timers) (below : fired < count)
    (fires : timers.fire? now = some (firing, after)) : Fires count fired timers after firing := by
  obtain ⟨armed, member, _, _, rfl, rfl⟩ := TimerSet.fire?_eq_some fires
  rcases wound.known armed member with beat | alarm
  · obtain ⟨next, tick, last⟩ := beat.tick below
    refine .beat tick last next ⟨?_, ?_, rfl⟩ ?_
    · intro other left
      obtain ⟨present, different⟩ := List.mem_filter.mp left
      rcases wound.known other present with again | alarm
      · simp [again.id, beat.id] at different
      · exact .inr alarm
    · rw [beatsIn, countP_without, if_pos beat.id.symm]
    · rw [alarmsIn, countP_without, if_neg (by rw [beat.id]; decide), alarmsIn]
  · refine .alarm alarm.action ?_ ⟨?_, ?_, rfl⟩ ?_ ?_
    · simp [Timer.tick, alarm.repeats, Repeat.once, Repeat.consume, Repeat.isExhausted]
    · intro other left
      exact wound.known other (List.mem_filter.mp left).1
    · rw [beatsIn, countP_without, if_neg (by rw [alarm.id]; decide)]
      exact wound.single
    · rw [alarmsIn, countP_without, if_pos alarm.id.symm]
    · exact List.countP_pos_iff.mpr ⟨armed, member, by simp [alarm.id]⟩

theorem handle_settles (tick : Tick) (priority : Priority) (ticker : Ticker) :
    (handler.handle (Message.periodic tick priority)).Settles
      (fun _ after quitting => after.ticks = ticker.ticks + 1 ∧ after.alarms = ticker.alarms ∧
        (quitting = true ↔ tick.isLast = true)) 4 ticker false := by
  intro now
  show HandlerCode.Settles _ 1 (if tick.isLast = true then (HandlerCode.request .quit).bind fun _ => .done none
    else .done none) (ticker.note now tick) false
  cases last : tick.isLast with
  | true => exact ⟨rfl, rfl, iff_of_true rfl rfl⟩
  | false => exact ⟨rfl, rfl, iff_of_false Bool.false_ne_true Bool.false_ne_true⟩

theorem alarm_settles (tick : Tick) (ticker : Ticker) (quitting : Bool) :
    (HandlerCode.ofBody (alarm tick) : HandlerCode Ticker Unit Unit Unit).Settles
      (fun _ after quits => after.ticks = ticker.ticks ∧ after.alarms = ticker.alarms + 1 ∧ quits = quitting)
      3 ticker quitting :=
  ⟨rfl, rfl, rfl⟩

end Demo.Periodic

end TaskKernel
