import TaskKernel.Proofs.Demo.Periodic

/-!
The ticker's program from its settings on. Main and the ticker race: main orders the alarm while the ticker may
have had its last tick. Whoever wins, the ticks are the same.
-/
namespace TaskKernel

namespace Demo.Periodic

variable {environment : Environment} {now : Instant} {periodic : Cadence} {demo : Periodic} {count rank : Nat}

/-- The schedule that the environment asks for. -/
def scheduled (environment : Environment) : Except Failure Cadence :=
  schedule (environment.parse Text.Numeral.word64? "PERIODIC_MS" 100)
    (environment.parse Text.Numeral.word32? "PERIODIC_COUNT" 10)

/-- How many ticks the environment asks for. -/
def asked (environment : Environment) : Nat := (environment.parse Text.Numeral.word32? "PERIODIC_COUNT" 10).toNat

private theorem schedule_ok {millis : UInt64} {times : UInt32} (accepted : schedule millis times = .ok periodic) :
    0 < millis.toNat ∧ 0 < times.toNat ∧ periodic = ⟨Delay.ofMillis millis, .times times⟩ := by
  unfold schedule at accepted
  split at accepted
  · cases accepted
  · split at accepted
    · cases accepted
    · rename_i lasting often
      cases accepted
      refine ⟨Nat.pos_of_ne_zero fun zero => lasting ?_, Nat.pos_of_ne_zero fun zero => often ?_, rfl⟩
      · exact UInt64.toNat_inj.mp zero
      · exact UInt32.toNat_inj.mp zero

private theorem alarmDelay_lasting {millis : UInt64} (positive : 0 < millis.toNat) :
    (Delay.ofMillis millis).isZero = false ∧ (alarmDelay (Delay.ofMillis millis)).isZero = false := by
  have bound := millis.toNat_lt
  have exact : (Delay.ofMillis millis).toNanos = millis.toNat * 1000000 := by
    refine Delay.toNanos_ofNanos ?_
    simp only [nanosPerSec, UInt64.size]
    omega
  have late : (alarmDelay (Delay.ofMillis millis)).toNanos =
      millis.toNat * 1000000 * 3 + millis.toNat * 1000000 / 2 := by
    rw [alarmDelay, exact]
    refine Delay.toNanos_ofNanos ?_
    simp only [nanosPerSec, UInt64.size]
    omega
  exact ⟨Delay.isZero_of_pos (by omega), Delay.isZero_of_pos (by omega)⟩

/-- The ticker's timer before its first tick. -/
def firstBeat (periodic : Cadence) : Timer Ticker := ⟨beatId, periodic.interval, periodic.repeats, 0, .dispatch⟩

/-- The program with a ticker that has been made and not yet started. -/
def made (kernel : Kernel) (config : Config) (main : ThreadKey) (periodic : Cadence) (ticker : Ticker) : Periodic where
  host := Task.Host.made kernel config (settings periodic) handler ticker (some (firstBeat periodic))
  main
  interval := periodic.interval
  stage := .beginning
  summary := []

private theorem start_made (accepted : scheduled environment = .ok periodic)
    (lasting : periodic.interval.isZero = false)
    (now : Instant) : ∃ kernel main ticker, kernel.timers = 0 ∧ ticker.ticks = 0 ∧ ticker.alarms = 0 ∧
      start environment now = .ok (made kernel (Config.firstReading environment).1 main periodic ticker) := by
  cases threads : (Kernel.fresh environment now).newThread with
  | mk main fresh =>
    have unread : fresh.config = none ∧ fresh.environment = environment ∧ fresh.timers = 0 := by
      cases threads
      exact ⟨rfl, rfl, rfl⟩
    have fixed : (fresh.start main).config = some (Config.firstReading environment).1 :=
      unread.2.1 ▸ Kernel.start_config unread.1 main
    have timers : (fresh.start main).timers = 0 := (Kernel.start_times fresh main).2.trans unread.2.2
    have starts : Task.Host.Starts (settings periodic) (fresh.start main).timers (some (firstBeat periodic)) := by
      refine .timed periodic (firstBeat periodic) rfl ?_
      rw [timers, Timer.create, if_neg (by simp [lasting])]
      rfl
    have created := Task.Host.create_made fixed (Config.firstReading_roomy environment) rfl starts main handler
      ⟨now, none, none, 0, 0, []⟩
    refine ⟨fresh.start main, main, ⟨now, none, none, 0, 0, []⟩, timers, rfl, rfl, ?_⟩
    obtain ⟨answer, after, pair⟩ : ∃ answer after, Task.Host.create (fresh.start main) main (settings periodic) handler
        ⟨now, none, none, 0, 0, []⟩ = (answer, after) := ⟨_, _, rfl⟩
    rw [pair] at created
    subst created
    rw [scheduled] at accepted
    simp only [start, threads, accepted, pair]
    rfl

private theorem made_ticks {kernel : Kernel} {config : Config} {ticker : Ticker} {interval : Delay} {times : UInt32}
    (ticks : ticker.ticks = 0) (alarms : ticker.alarms = 0) :
    let task := (Task.Host.made kernel config (settings ⟨interval, .times times⟩) handler ticker
      (some (firstBeat ⟨interval, .times times⟩))).task
    Ticks times.toNat 0 now task 0 (load times.toNat 0 task + 26) := by
  refine ⟨rfl, nofun, rfl, none, rfl, nofun, ⟨rfl, ⟨_, rfl, rfl, rfl, rfl, times, rfl, ?_⟩, rfl, rfl, ticks, ?_⟩, rfl⟩
  · omega
  · rw [Nat.le_zero]
    exact alarms

private theorem made_sound {kernel : Kernel} {config : Config} {ticker : Ticker} {millis : UInt64} {times : UInt32}
    (main : ThreadKey) (timers : kernel.timers = 0) (ticks : ticker.ticks = 0) (alarms : ticker.alarms = 0)
    (lasting : 0 < millis.toNat) (often : 0 < times.toNat) (room : Creation.stackFault? config.stackSize = none) :
    ∃ rank, Sound (made kernel config main ⟨Delay.ofMillis millis, .times times⟩ ticker) times.toNat 0 rank := by
  refine ⟨_, often, (alarmDelay_lasting lasting).2, 0, 2 * span + 4, _, ⟨rfl, rfl, rfl, rfl, ⟨?_, room⟩, ?_⟩,
    made_ticks ticks alarms, rfl⟩
  · show Creation.nameFault? "ticker" = none
    decide +kernel
  · simp [made, Task.Host.made, timers]

private theorem tickOf_isLast {number : Nat} (most : number ≤ count) (small : count < UInt32.size) :
    (tickOf count number).isLast = true ↔ number = count := by
  have fits : (UInt32.ofNat (count - number)).toNat = count - number :=
    UInt32.toNat_ofNat_of_lt' (Nat.lt_of_le_of_lt (Nat.sub_le _ _) small)
  have zero : UInt32.ofNat (count - number) = 0 ↔ (UInt32.ofNat (count - number)).toNat = 0 := UInt32.toNat_inj.symm
  rw [tickOf, Tick.isLast, beq_iff_eq, Option.some.injEq, zero, fits]
  omega

private theorem ticksUpTo_last {number : Nat} {before after : List Tick} {tick : Tick} (most : number ≤ count)
    (small : count < UInt32.size) (split : ticksUpTo count number = before ++ tick :: after)
    (last : tick.isLast = true) : after = [] := by
  have long : number = before.length + (after.length + 1) := by
    have lengths := congrArg List.length split
    simpa [ticksUpTo] using lengths
  have here : (ticksUpTo count number)[before.length]? = some tick := by simp [split]
  have numbered : (ticksUpTo count number)[before.length]? = some (tickOf count (before.length + 1)) := by
    simp [ticksUpTo, List.getElem?_range (show before.length < number by omega)]
  obtain rfl : tickOf count (before.length + 1) = tick := Option.some.inj (numbered.symm.trans here)
  have full := (tickOf_isLast (by omega) small).mp last
  exact List.length_eq_zero_iff.mp (by omega)

/-- What holds in every run of a program that wants a number of ticks. -/
structure TicksOut (demo : Periodic) (count : Nat) : Prop where
  inOrder : ∀ list, ∃ number ≤ count, demo.deliveries list = ticksUpTo count number
  lastIsLast : ∀ list before tick after, demo.deliveries list = before ++ tick :: after → tick.isLast = true → after = []
  endsWell : ∀ list, (demo.moves list).stage = .ended none → ∃ ticker : Ticker,
    ticker.ticks = count ∧ ticker.alarms ≤ 1 ∧ (demo.moves list).host.task.surface.state = ticker ∧
    (demo.moves list).summary = [Line.ofText "", summaryLine demo.interval ticker] ++ footer ∧
    demo.deliveries list = ticksUpTo count count
  -- Main ends otherwise only when its order comes after the last tick, and is refused.
  endsLate : ∀ list refusal, (demo.moves list).stage = .ended (some refusal) →
    refusal = .failed ⟨.queueClosed, .queuePush⟩ ∧ (demo.moves list).host.task.exchange.queue.closed = true ∧
    demo.deliveries list = ticksUpTo count count
  accepted : ∀ list rest failure, (demo.moves list).stage = .joining →
    (demo.moves (list ++ rest)).stage = .ended failure → failure = none
  ends : ∀ schedule, Fair demo schedule → ∃ number, (demo.follow schedule number).IsOver

private theorem Sound.ticksOut (sound : Sound demo count 0 rank) (small : count < UInt32.size) :
    TicksOut demo count where
  inOrder list := by
    obtain ⟨next, lower, after, _, ticks⟩ := sound.moves list
    obtain ⟨_, _, _, _, within, _⟩ := after.stands
    exact ⟨next, within.within, ticks⟩
  lastIsLast list before tick after split last := by
    obtain ⟨next, lower, sound, _, ticks⟩ := sound.moves list
    obtain ⟨_, _, _, _, within, _⟩ := sound.stands
    exact ticksUpTo_last within.within small (ticks.symm.trans split) last
  endsWell list ended := by
    obtain ⟨next, lower, after, interval, ticks⟩ := sound.moves list
    obtain ⟨granted, own, least, stands, done, _⟩ := after.stands
    simp only [Stands, ended] at stands
    obtain ⟨rfl, _, place, summary⟩ := stands
    obtain ⟨rfl, counts⟩ := done.finished (by rw [place]; rfl)
    exact ⟨_, counts.ticks, counts.alarms, rfl, interval ▸ summary, ticks⟩
  endsLate list refusal ended := by
    obtain ⟨next, lower, after, interval, ticks⟩ := sound.moves list
    obtain ⟨granted, own, least, stands, done, _⟩ := after.stands
    simp only [Stands, ended] at stands
    obtain ⟨rfl, _, past, refused⟩ := stands
    obtain ⟨rfl, _⟩ := done.finished past
    exact ⟨refused, done.closed.trans past, ticks⟩
  accepted list rest failure joining ended := by
    obtain ⟨next, lower, after, _, _⟩ := sound.moves list
    rw [Periodic.moves, List.foldl_append] at ended
    rcases after.through_moves (.inl joining) rest with stays | well
    · have clash := ended.symm.trans stays
      cases clash
    · exact Stage.ended.inj (ended.symm.trans well)
  ends schedule fair := sound.ends fair

/-- Some moves, and then turns of main and the thread. -/
def thenTurns (list : List Move) (number : Nat) : Move := list[number]?.getD (if number % 2 = 0 then .main else .serve)

private theorem follow_within (list : List Move) {number : Nat} (within : number ≤ list.length) :
    demo.follow (thenTurns list) number = demo.moves (list.take number) := by
  induction number with
  | zero => rfl
  | succ number ih =>
    have next : list[number]? = some list[number] := List.getElem?_eq_getElem within
    rw [follow, ih (by omega), thenTurns, next, Option.getD_some, List.take_add_one, next, moves, moves,
      List.foldl_append]
    rfl

/-- Nothing moves once main and the thread have ended. -/
structure Settled (demo : Periodic) : Prop where
  finished : demo.IsOver
  ended : demo.host.task.place = .ended

private theorem Settled.turn (settled : Settled demo) (number : Nat) :
    demo.move (if number % 2 = 0 then .main else .serve) = demo := by
  obtain ⟨failure, finished⟩ := settled.finished
  split
  · simp only [Periodic.move, mainStep?, finished]
    rfl
  · exact serve_blocked (by simp only [Task.step?, settled.ended])

private theorem follow_beyond {list : List Move} (settled : Settled (demo.moves list)) {number : Nat}
    (beyond : list.length ≤ number) : demo.follow (thenTurns list) number = demo.moves list := by
  induction number with
  | zero => rw [List.length_eq_zero_iff.mp (Nat.le_zero.mp beyond)]; rfl
  | succ number ih =>
    by_cases last : list.length = number + 1
    · rw [follow_within list (Nat.le_of_eq last.symm), ← last, List.take_length]
    · have absent : list[number]? = none := List.getElem?_eq_none (by omega)
      rw [follow, ih (by omega), thenTurns, absent, Option.getD_none, settled.turn]

/-- Main ends well and so does the thread, nobody waits any longer, and all deadlines on the way have passed. -/
def endsInTime (demo : Periodic) (list : List Move) : Bool :=
  (demo.moves list).stage = .ended none && (demo.moves list).host.task.place matches .ended &&
    (demo.moves list).host.task.exchange.waiting.waiters = [] &&
    (List.range (list.length + 1)).all fun number =>
      (demo.moves (list.take number)).host.task.timers.armed.all fun armed =>
        !armed.deadline.isNever && decide (armed.deadline ≤ (demo.moves list).host.kernel.now)

private theorem settled_of_endsInTime {list : List Move} (inTime : demo.endsInTime list = true) : Settled
    (demo.moves list) ∧ (demo.moves list).host.task.exchange.waiting.waiters = [] ∧
    ∀ number ≤ list.length, ∀ armed ∈ (demo.moves (list.take number)).host.task.timers.armed,
      armed.deadline.isNever = false ∧ armed.deadline ≤ (demo.moves list).host.kernel.now := by
  simp only [endsInTime, Bool.and_eq_true, decide_eq_true_eq, List.all_eq_true, List.mem_range,
    Bool.not_eq_true'] at inTime
  obtain ⟨⟨⟨finished, place⟩, calm⟩, clock⟩ := inTime
  have ended : (demo.moves list).host.task.place = .ended := by
    split at place
    · assumption
    · cases place
  exact ⟨⟨⟨none, finished⟩, ended⟩, calm, fun number within => clock number (by omega)⟩

private theorem fair_of_endsInTime {list : List Move} (inTime : demo.endsInTime list = true) : Fair demo
    (thenTurns list) := by
  obtain ⟨settled, calm, clock⟩ := settled_of_endsInTime inTime
  exact {
    main number := ⟨2 * (list.length + number), by omega, by
      rw [thenTurns, List.getElem?_eq_none (by omega), Option.getD_none, if_pos (by omega)]⟩
    serve number := ⟨2 * (list.length + number) + 1, by omega, by
      rw [thenTurns, List.getElem?_eq_none (by omega), Option.getD_none, if_neg (by omega)]⟩
    clock number armed member := by
      have passed : armed.deadline.isNever = false ∧ armed.deadline ≤ (demo.moves list).host.kernel.now := by
        rcases Nat.le_total number list.length with within | beyond
        · exact clock number within armed (follow_within list within ▸ member)
        · rw [follow_beyond settled beyond] at member
          exact clock list.length (Nat.le_refl _) armed (by rwa [List.take_length])
      refine ⟨passed.1, list.length + number, by omega, ?_⟩
      rw [follow_beyond settled (by omega)]
      exact passed.2
    expire always := by
      obtain ⟨later, beyond, waiter, member, _⟩ := always list.length
      rw [follow_beyond settled beyond, calm] at member
      cases member }

/-- One tick, a millisecond after the start. -/
def shortest : Environment := (Environment.empty.setText "PERIODIC_MS" "1").setText "PERIODIC_COUNT" "1"

private theorem shortest_accepted : scheduled shortest = .ok ⟨Delay.ofMillis 1, .times 1⟩ := by
  have millis : shortest.parse Text.Numeral.word64? "PERIODIC_MS" 100 = 1 := by decide +kernel
  have times : shortest.parse Text.Numeral.word32? "PERIODIC_COUNT" 10 = 1 := by decide +kernel
  rw [scheduled, millis, times]
  rfl

/-- Main orders the alarm before the tick is due. -/
def early : List Move :=
  [.main, .main, .main] ++ List.replicate 3 .serve ++ [.passTo (Instant.zero.addClamped (Delay.ofMillis 1))] ++
    List.replicate 30 .serve ++ [.passTo (Instant.zero.addClamped (Delay.ofMillis 9)), .main]

/-- Whatever schedule is accepted, and however main, the ticker and time take turns, the ticker has all its ticks in
their order, and main ends: well, or with the refusal of an order that came after the last tick. -/
theorem every_accepted_schedule_ticks_out (environment : Environment) (now : Instant) {periodic : Cadence}
    (accepted : scheduled environment = .ok periodic)
    (room : Creation.stackFault? (Config.firstReading environment).1.stackSize = none) :
    ∃ demo, start environment now = .ok demo ∧ demo.stage = .beginning ∧ TicksOut demo (asked environment) := by
  obtain ⟨lasts, often, rfl⟩ := schedule_ok accepted
  obtain ⟨kernel, main, ticker, timers, ticks, alarms, started⟩ :=
    start_made accepted (alarmDelay_lasting lasts).1 now
  obtain ⟨rank, sound⟩ := made_sound main timers ticks alarms lasts often room
  exact ⟨_, started, rfl, sound.ticksOut (UInt32.toNat_lt _)⟩

theorem shortest_schedule_ticks_out : asked shortest = 1 ∧ ∃ demo, start shortest .zero = .ok demo ∧
    demo.stage = .beginning ∧ TicksOut demo (asked shortest) ∧ ∃ schedule, Fair demo schedule := by
  obtain ⟨demo, started, beginning, ticksOut⟩ :=
    every_accepted_schedule_ticks_out shortest .zero shortest_accepted (by decide +kernel)
  have run : (start shortest .zero).toOption.map (·.endsInTime early) = some true := by decide +kernel
  rw [started] at run
  exact ⟨by decide +kernel, demo, started, beginning, ticksOut, _, fair_of_endsInTime (Option.some.inj run)⟩

/-- The ticker is through before main comes to order the alarm. -/
def late : List Move :=
  [.main, .main] ++ List.replicate 3 .serve ++ [.passTo (Instant.zero.addClamped (Delay.ofMillis 1))] ++
    List.replicate 9 .serve ++ [.main]

/-- Main ends with the refusal of its own order, although the schedule is accepted. -/
theorem shortest_schedule_can_fail : scheduled shortest = .ok ⟨Delay.ofMillis 1, .times 1⟩ ∧
    ∃ demo, start shortest .zero = .ok demo ∧
      (demo.moves late).stage = .ended (some (.failed ⟨.queueClosed, .queuePush⟩)) := by
  refine ⟨shortest_accepted, ?_⟩
  have run : (start shortest .zero).toOption.map (fun demo => (demo.moves late).stage) =
      some (.ended (some (.failed ⟨.queueClosed, .queuePush⟩))) := by decide +kernel
  cases started : start shortest .zero with
  | error outcome =>
    rw [started] at run
    cases run
  | ok demo =>
    rw [started] at run
    exact ⟨demo, rfl, Option.some.inj run⟩

end Demo.Periodic

end TaskKernel
