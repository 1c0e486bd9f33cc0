import Mathlib.Data.List.Induction
import TaskKernel.Proofs.Time.Clock
import TaskKernel.Sync.Mutex

/-!
A bounded lock attempt among other threads. The polling thread tries the lock, reads the clock and pauses in
separate steps, and anything may happen in between. It gives up only at a reading past the deadline, but that
reading comes after its last attempt, so a release between the two is missed.
-/
namespace TaskKernel

private theorem Delay.toNanos_min_le (first second : Delay) : (min first second).toNanos ≤ first.toNanos := by
  show (if first ≤ second then first else second).toNanos ≤ first.toNanos
  split
  · exact Nat.le_refl _
  · next above =>
    have above : ¬ (first.secs < second.secs ∨ first.secs = second.secs ∧ first.nanos ≤ second.nanos) := above
    have fraction := second.nanos_lt
    rw [UInt64.lt_iff_toNat_lt, UInt32.le_iff_toNat_le, ← UInt64.toNat_inj] at above
    simp only [toNanos, nanosPerSec] at fraction ⊢
    omega

namespace Sync.Polling

variable {α : Type}

/-- A bounded attempt under way at a lock that others use. -/
structure Session (α : Type) where
  now : Instant
  mutex : Mutex α
  polling : Polling

/-- What happens while a thread polls. Others may do anything with the lock, but for taking it from the
polling thread or for it. -/
inductive Session.Move (α : Type)
  | poll
  | disturb (mutex : Mutex α)
  | passTo (now : Instant)

namespace Session

def Move.isPoll : Move α → Bool
  | poll => true
  | disturb _ | passTo _ => false

def start (now : Instant) (timeout : Delay) (mutex : Mutex α) : Session α :=
  ⟨now, mutex, Polling.start now timeout⟩

def move (config : Config) (thread : ThreadKey) (session : Session α) : Move α → Session α
  | .poll =>
    match session.polling.step? config session.now thread session.mutex with
    | some (polling, mutex) => { session with polling, mutex }
    | none => session
  | .disturb mutex =>
    if mutex.owner = some thread ↔ session.mutex.owner = some thread then { session with mutex } else session
  | .passTo now => if session.now ≤ now then { session with now } else session

def moves (config : Config) (thread : ThreadKey) (session : Session α) (list : List (Move α)) : Session α :=
  list.foldl (move config thread) session

/-- Whether no other thread holds the lock, now and after each of some moves. -/
def StaysOpen (config : Config) (thread : ThreadKey) (session : Session α) : List (Move α) → Prop
  | [] => session.mutex.isOpenTo thread = true
  | move :: rest =>
    session.mutex.isOpenTo thread = true ∧ (session.move config thread move).StaysOpen config thread rest

variable {config : Config} {thread : ThreadKey} {session : Session α}

/-- The steps of the polling thread. -/
inductive Polls (config : Config) (thread : ThreadKey) (session : Session α) : Session α → Prop
  | ended (locked : Bool) (stage : session.polling.stage = .finished locked) : session.Polls config thread session
  | asleep (wake : Instant) (stage : session.polling.stage = .pause wake) (early : ¬ wake ≤ session.now) :
    session.Polls config thread session
  | locked (stage : session.polling.stage = .attempt) (isOpen : session.mutex.isOpenTo thread = true) :
    session.Polls config thread { session with
      polling.stage := .finished true
      mutex := session.mutex.acquire thread }
  | failed (stage : session.polling.stage = .attempt) (taken : session.mutex.isOpenTo thread = false) :
    session.Polls config thread { session with polling.stage := .readClock }
  | gaveUp (stage : session.polling.stage = .readClock) (late : session.polling.deadline ≤ session.now) :
    session.Polls config thread { session with polling.stage := .finished false }
  | yielded (stage : session.polling.stage = .readClock) (early : ¬ session.polling.deadline ≤ session.now)
    (few : session.polling.yields < config.lockSpins.toNat) :
    session.Polls config thread { session with
      polling.yields := session.polling.yields + 1
      polling.stage := .attempt }
  | paused (stage : session.polling.stage = .readClock) (early : ¬ session.polling.deadline ≤ session.now) :
    session.Polls config thread { session with
      polling.stage := .pause (Clock.deadline session.now
        (min (Clock.remaining session.now session.polling.deadline) config.lockBackoff)) }
  | woke (wake : Instant) (stage : session.polling.stage = .pause wake) (late : wake ≤ session.now) :
    session.Polls config thread { session with polling.stage := .attempt }

private theorem move_poll (session : Session α) : session.Polls config thread (session.move config thread .poll) := by
  obtain ⟨now, mutex, deadline, yields, stage⟩ := session
  cases stage with
  | attempt =>
    cases isOpen : mutex.isOpenTo thread with
    | true =>
      simp only [move, step?, Mutex.tryLock, isOpen, if_true]
      exact .locked rfl isOpen
    | false =>
      simp only [move, step?, Mutex.tryLock, isOpen]
      exact .failed rfl isOpen
  | readClock =>
    cases late : (Clock.remaining now deadline).isZero with
    | true =>
      simp only [move, step?, late, if_true]
      exact .gaveUp rfl (Clock.expired_iff.mp (Clock.expired_iff_isZero.mpr late))
    | false =>
      have early : ¬ deadline ≤ now := fun late' => by
        rw [Clock.expired_iff_isZero.mp (Clock.expired_iff.mpr late')] at late
        cases late
      by_cases few : yields < config.lockSpins.toNat
      · simp only [move, step?, late, few, if_true]
        exact .yielded rfl early few
      · simp only [move, step?, late, few]
        exact .paused rfl early
  | pause wake =>
    by_cases late : wake ≤ now
    · simp only [move, step?, late, if_true]
      exact .woke wake rfl late
    · simp only [move, step?, late, if_false]
      exact .asleep wake rfl late
  | finished locked => exact .ended locked rfl

private theorem move_aside {move : Move α} (other : move ≠ .poll) :
    (session.move config thread move).polling = session.polling := by
  cases move with
  | poll => exact absurd rfl other
  | disturb | passTo =>
    rw [Session.move]
    split <;> rfl

private theorem owner_move_aside {move : Move α} (other : move ≠ .poll) :
    (session.move config thread move).mutex.owner = some thread ↔ session.mutex.owner = some thread := by
  cases move with
  | poll => exact absurd rfl other
  | disturb mutex =>
    rw [Session.move]
    split
    · next same => exact same
    · rfl
  | passTo now =>
    rw [Session.move]
    split <;> rfl

private theorem now_le_move (session : Session α) (move : Move α) :
    session.now ≤ (session.move config thread move).now := by
  have still := Instant.le_refl session.now
  cases move with
  | poll =>
    have polled : session.Polls config thread _ := move_poll session
    generalize session.move config thread .poll = after at polled ⊢
    cases polled <;> exact still
  | disturb mutex =>
    rw [Session.move]
    split <;> exact still
  | passTo now =>
    rw [Session.move]
    split
    · next passed => exact passed
    · exact still

private theorem deadline_move (session : Session α) (move : Move α) :
    (session.move config thread move).polling.deadline = session.polling.deadline := by
  by_cases polls : move = .poll
  · subst polls
    have polled : session.Polls config thread _ := move_poll session
    generalize session.move config thread .poll = after at polled ⊢
    cases polled <;> rfl
  · rw [move_aside polls]

private theorem deadline_moves (session : Session α) (list : List (Move α)) :
    (session.moves config thread list).polling.deadline = session.polling.deadline := by
  induction list generalizing session with
  | nil => rfl
  | cons move rest ih => exact (ih (session.move config thread move)).trans (deadline_move session move)

theorem moves_append (first second : List (Move α)) :
    session.moves config thread (first ++ second) = (session.moves config thread first).moves config thread second :=
  List.foldl_append

/-- What holds all along: the clock does not go back, a pause ends by the deadline, a thread that has been told
that it has the lock has it, and it yields no more often than it is configured to. -/
structure Sound (config : Config) (thread : ThreadKey) (began : Instant) (session : Session α) : Prop where
  now : began ≤ session.now
  wake : ∀ wake, session.polling.stage = .pause wake → wake ≤ session.polling.deadline
  locked : session.polling.stage = .finished true → session.mutex.owner = some thread
  yields : session.polling.yields ≤ config.lockSpins.toNat

private theorem wake_le {now deadline : Instant} (begun : Instant.zero ≤ now) (early : ¬ deadline ≤ now)
    (pause : Delay) : Clock.deadline now (min (Clock.remaining now deadline) pause) ≤ deadline := by
  have last := Instant.toNanos_le_last deadline
  have left : ((Clock.remaining now deadline).toNanos : Int) = max 0 (deadline.toNanos - now.toNanos) :=
    Instant.toNanos_since deadline now
  have final : Instant.last.toNanos = Int64.maxValue.toInt * nanosPerSec + 999999999 := rfl
  have start : Instant.zero.toNanos = 0 := by decide
  rw [Instant.le_iff_toNanos_le] at begun early ⊢
  have fits : ((Clock.remaining now deadline).toNanos / nanosPerSec : Nat) ≤ Int64.maxValue.toInt := by
    simp only [nanosPerSec] at final ⊢
    omega
  calc (Clock.deadline now (min (Clock.remaining now deadline) pause)).toNanos
      = Clock.reach now (min (Clock.remaining now deadline) pause).toNanos := Clock.toNanos_deadline now _
    _ ≤ Clock.reach now (Clock.remaining now deadline).toNanos :=
        Clock.reach_mono (Int.le_refl _) (Delay.toNanos_min_le _ _)
    _ ≤ deadline.toNanos := by
        rw [Clock.reach, if_pos fits]
        omega

variable {began : Instant}

theorem Sound.move (sound : session.Sound config thread began) (begun : Instant.zero ≤ began) (move : Move α) :
    (session.move config thread move).Sound config thread began := by
  have now : began ≤ (session.move config thread move).now := Instant.le_trans sound.now (now_le_move session move)
  by_cases polls : move = .poll
  · subst polls
    have polled : session.Polls config thread _ := move_poll session
    generalize session.move config thread .poll = after at polled now ⊢
    cases polled with
    | ended | asleep => exact sound
    | locked => exact ⟨now, nofun, fun _ => rfl, sound.yields⟩
    | failed | gaveUp | woke => exact ⟨now, nofun, nofun, sound.yields⟩
    | yielded stage early few => exact ⟨now, nofun, nofun, few⟩
    | paused stage early =>
      refine ⟨now, ?_, nofun, sound.yields⟩
      rintro _ ⟨⟩
      exact wake_le (Instant.le_trans begun sound.now) early _
  · have same : (session.move config thread move).polling = session.polling := move_aside polls
    refine ⟨now, same ▸ sound.wake, fun stage => ?_, same ▸ sound.yields⟩
    exact (owner_move_aside polls).mpr (sound.locked (same ▸ stage))

theorem Sound.moves (sound : session.Sound config thread began) (begun : Instant.zero ≤ began)
    (list : List (Move α)) : (session.moves config thread list).Sound config thread began := by
  induction list generalizing session with
  | nil => exact sound
  | cons move rest ih => exact ih (sound.move begun move)

/-- How a thread reads the clock: its last attempt has found the lock taken, and it has taken no step since. -/
structure Tried (config : Config) (thread : ThreadKey) (session : Session α)
    (before between : List (Move α)) : Prop where
  attempt : (session.moves config thread before).polling.stage = .attempt
  taken : (session.moves config thread before).mutex.isOpenTo thread = false
  idle : .poll ∉ between

/-- What a thread has been through that reads the clock or has given up. -/
def Recounts (config : Config) (thread : ThreadKey) (session : Session α) (list : List (Move α)) : Stage → Prop
  | .readClock => ∃ before between, list = before ++ .poll :: between ∧ session.Tried config thread before between
  | .finished false => ∃ before between after, list = before ++ .poll :: (between ++ .poll :: after) ∧
    session.Tried config thread before between ∧
    (session.moves config thread (before ++ .poll :: between)).polling.deadline ≤
      (session.moves config thread (before ++ .poll :: between)).now
  | .attempt | .pause _ | .finished true => True

theorem Recounts.aside {list : List (Move α)} {stage : Stage} (recounts : session.Recounts config thread list stage)
    (move : Move α) (other : move ≠ .poll) : session.Recounts config thread (list ++ [move]) stage := by
  cases stage with
  | attempt | pause => trivial
  | readClock =>
    obtain ⟨before, between, rfl, tried⟩ := recounts
    refine ⟨before, between ++ [move], by simp, tried.attempt, tried.taken, ?_⟩
    simpa [other.symm] using tried.idle
  | finished locked =>
    cases locked with
    | true => trivial
    | false =>
      obtain ⟨before, between, after, rfl, tried, late⟩ := recounts
      exact ⟨before, between, after ++ [move], by simp, tried, late⟩

/-- A thread that has begun its attempt can always recount what led it to the clock. -/
private theorem recounts (begins : session.polling.stage = .attempt) (list : List (Move α)) :
    session.Recounts config thread list (session.moves config thread list).polling.stage := by
  induction list using List.reverseRecOn with
  | nil =>
    show session.Recounts config thread [] session.polling.stage
    rw [begins]
    trivial
  | append_singleton past move ih =>
    rw [moves_append]
    show session.Recounts config thread _ ((session.moves config thread past).move config thread move).polling.stage
    by_cases polls : move = .poll
    · subst polls
      have polled : (session.moves config thread past).Polls config thread _ := move_poll _
      generalize (session.moves config thread past).move config thread .poll = after at polled ⊢
      cases polled with
      | ended locked stage =>
        rw [stage] at ih ⊢
        cases locked with
        | true => trivial
        | false =>
          obtain ⟨before, between, after, rfl, tried, late⟩ := ih
          exact ⟨before, between, after ++ [.poll], by simp, tried, late⟩
      | asleep wake stage => rw [stage]; trivial
      | locked | yielded | paused | woke => trivial
      | failed stage taken => exact ⟨past, [], rfl, stage, taken, List.not_mem_nil⟩
      | gaveUp stage late =>
        rw [stage] at ih
        obtain ⟨before, between, rfl, tried⟩ := ih
        exact ⟨before, between, [], by simp, tried, late⟩
    · rw [move_aside polls]
      exact ih.aside move polls

/-- Whether an attempt will come before the clock is read, or has got the lock. -/
def IsTrying : Stage → Prop
  | .attempt | .pause _ | .finished true => True
  | .readClock | .finished false => False

private theorem move_trying (isOpen : session.mutex.isOpenTo thread = true) (trying : IsTrying session.polling.stage)
    (move : Move α) : IsTrying (session.move config thread move).polling.stage := by
  by_cases polls : move = .poll
  · subst polls
    have polled : session.Polls config thread _ := move_poll session
    generalize session.move config thread .poll = after at polled ⊢
    cases polled with
    | ended | asleep => exact trying
    | locked | yielded | paused | woke => trivial
    | failed stage taken =>
      rw [isOpen] at taken
      cases taken
    | gaveUp stage =>
      rw [stage] at trying
      exact trying
  · rwa [move_aside polls]

private theorem StaysOpen.isOpen {list : List (Move α)} (stays : session.StaysOpen config thread list) :
    session.mutex.isOpenTo thread = true := by
  cases list with
  | nil => exact stays
  | cons move rest => exact stays.1

private theorem StaysOpen.trying {list : List (Move α)} (stays : session.StaysOpen config thread list)
    (trying : IsTrying session.polling.stage) : IsTrying (session.moves config thread list).polling.stage := by
  induction list generalizing session with
  | nil => exact trying
  | cons move rest ih => exact ih stays.2 (move_trying stays.isOpen trying move)

private theorem StaysOpen.not_trying {list : List (Move α)} (stays : session.StaysOpen config thread list)
    (busy : (session.moves config thread list).polling.stage = .finished false) :
    ¬ IsTrying session.polling.stage := by
  intro trying
  have tries := stays.trying trying
  rw [busy] at tries
  exact tries

/-- A thread that does not get a lock that stays open has tried it before, and finds the deadline passed when it next
reads the clock. -/
private theorem StaysOpen.missed {list : List (Move α)} (stays : session.StaysOpen config thread list)
    (going : session.polling.stage ≠ .finished false)
    (busy : (session.moves config thread list).polling.stage = .finished false) :
    session.polling.stage = .readClock ∧ ∃ before after, list = before ++ .poll :: after ∧ .poll ∉ before ∧
      session.polling.deadline ≤ (session.moves config thread before).now := by
  have reading : session.polling.stage = .readClock := by
    have idle := stays.not_trying busy
    cases stage : session.polling.stage with
    | readClock => rfl
    | attempt | pause => exact absurd (stage ▸ trivial) idle
    | finished locked =>
      cases locked with
      | true => exact absurd (stage ▸ trivial) idle
      | false => exact absurd stage going
  refine ⟨reading, ?_⟩
  clear going
  induction list generalizing session with
  | nil =>
    rw [show session.moves config thread [] = session from rfl, reading] at busy
    cases busy
  | cons move rest ih =>
    by_cases polls : move = .poll
    · subst polls
      refine ⟨[], rest, rfl, List.not_mem_nil, ?_⟩
      have idle := stays.2.not_trying busy
      have polled : session.Polls config thread _ := move_poll session
      generalize session.move config thread .poll = after at polled idle
      cases polled with
      | gaveUp stage late => exact late
      | yielded | paused => exact absurd trivial idle
      | ended locked stage | asleep wake stage | locked stage | failed stage | woke wake stage =>
        rw [reading] at stage
        cases stage
    · have same : (session.move config thread move).polling = session.polling := move_aside polls
      obtain ⟨before, after, rfl, idle, late⟩ := ih stays.2 busy (same ▸ reading)
      refine ⟨move :: before, after, rfl, by simpa [Ne.symm polls] using idle, ?_⟩
      rwa [same] at late

/-- The steps that a thread still has to take at most when the deadline has passed. -/
def left : Stage → Nat
  | .pause _ => 3
  | .attempt => 2
  | .readClock => 1
  | .finished _ => 0

/-- The deadline has passed, for a thread whose pauses end by then. -/
structure Late (session : Session α) : Prop where
  deadline : session.polling.deadline ≤ session.now
  wake : ∀ wake, session.polling.stage = .pause wake → wake ≤ session.polling.deadline

theorem Late.aside (late : session.Late) {move : Move α} (other : move ≠ .poll) :
    (session.move config thread move).Late := by
  have same : (session.move config thread move).polling = session.polling := move_aside other
  exact ⟨same ▸ Instant.le_trans late.deadline (now_le_move session move), same ▸ late.wake⟩

private theorem Late.poll (late : session.Late) : (session.move config thread .poll).Late ∧
    left (session.move config thread .poll).polling.stage ≤ left session.polling.stage - 1 := by
  have polled : session.Polls config thread _ := move_poll session
  generalize session.move config thread .poll = after at polled ⊢
  cases polled with
  | ended locked stage => exact ⟨late, by simp [stage, left]⟩
  | asleep wake stage early => exact absurd (Instant.le_trans (late.wake wake stage) late.deadline) early
  | locked stage | failed stage | gaveUp stage | woke wake stage =>
    exact ⟨⟨late.deadline, nofun⟩, by simp [stage, left]⟩
  | yielded stage early | paused stage early => exact absurd late.deadline early

theorem Late.moves (late : session.Late) (list : List (Move α)) :
    left (session.moves config thread list).polling.stage ≤
      left session.polling.stage - list.countP Move.isPoll := by
  induction list generalizing session with
  | nil => exact Nat.le_refl _
  | cons move rest ih =>
    by_cases polls : move = .poll
    · subst polls
      obtain ⟨later, fewer⟩ : (session.move config thread .poll).Late ∧ _ := late.poll
      have few := ih later
      rw [List.countP_cons_of_pos rfl]
      exact Nat.le_trans few (by omega)
    · have same : (session.move config thread move).polling = session.polling := move_aside polls
      have aside : move.isPoll = false := by
        cases move with
        | poll => exact absurd rfl polls
        | disturb | passTo => rfl
      have later : (session.move config thread move).Late := late.aside polls
      have few := ih later
      rw [same] at few
      rwa [List.countP_cons_of_neg (by simp [aside])]

private theorem Late.kept (late : session.Late) (list : List (Move α)) : (session.moves config thread list).Late := by
  induction list generalizing session with
  | nil => exact late
  | cons move rest ih =>
    by_cases polls : move = .poll
    · subst polls
      exact ih late.poll.1
    · exact ih (late.aside polls)

/-- How often a thread has tried the lock whose deadline has passed from the beginning. -/
def TriesOnce (list : List (Move α)) : Stage → Prop
  | .attempt => .poll ∉ list
  | .pause _ => False
  | .readClock | .finished _ => True

private theorem Late.tries_once (late : session.Late) (begins : session.polling.stage = .attempt)
    (list : List (Move α)) : TriesOnce list (session.moves config thread list).polling.stage := by
  induction list using List.reverseRecOn with
  | nil =>
    show TriesOnce ([] : List (Move α)) session.polling.stage
    rw [begins]
    exact List.not_mem_nil
  | append_singleton past move ih =>
    rw [moves_append]
    show TriesOnce _ ((session.moves config thread past).move config thread move).polling.stage
    by_cases polls : move = .poll
    · subst polls
      have still : (session.moves config thread past).Late := late.kept past
      have polled : (session.moves config thread past).Polls config thread _ := move_poll _
      generalize (session.moves config thread past).move config thread .poll = after at polled ⊢
      cases polled with
      | ended locked stage => rw [stage]; trivial
      | asleep wake stage | woke wake stage => rw [stage] at ih; exact ih.elim
      | locked | failed | gaveUp => trivial
      | yielded stage early | paused stage early => exact absurd still.deadline early
    · rw [move_aside polls]
      cases stage : (session.moves config thread past).polling.stage with
      | attempt =>
        rw [stage] at ih
        have none : .poll ∉ past := ih
        show .poll ∉ past ++ [move]
        simpa [Ne.symm polls] using none
      | pause wake => rw [stage] at ih; exact ih
      | readClock | finished locked => trivial

/-- What a bounded attempt comes to after some moves. -/
structure Bounded (config : Config) (thread : ThreadKey) (first : Session α) (list : List (Move α)) : Prop where
  locked : (first.moves config thread list).polling.stage = .finished true →
    (first.moves config thread list).mutex.owner = some thread
  gaveUp : (first.moves config thread list).polling.stage = .finished false →
    first.Recounts config thread list (.finished false)
  -- A lock that stays open is only missed by a thread that tries it before and reads the clock past the
  -- deadline.
  missed : ∀ further, (first.moves config thread list).StaysOpen config thread further →
    (first.moves config thread list).polling.stage ≠ .finished false →
    (first.moves config thread (list ++ further)).polling.stage = .finished false →
    (first.moves config thread list).polling.stage = .readClock ∧
      ∃ before after, further = before ++ .poll :: after ∧ .poll ∉ before ∧
        first.polling.deadline ≤ (first.moves config thread (list ++ before)).now
  yields : (first.moves config thread list).polling.yields ≤ config.lockSpins.toNat
  rests : ∀ wake, (first.moves config thread list).polling.stage = .pause wake → wake ≤ first.polling.deadline
  returns : first.polling.deadline ≤ (first.moves config thread list).now →
    ∀ further, 3 ≤ further.countP Move.isPoll →
      ∃ locked, (first.moves config thread (list ++ further)).polling.stage = .finished locked

private theorem left_le (stage : Stage) : left stage ≤ 3 := by
  cases stage <;> simp [left]

private theorem finished_of_left {stage : Stage} (none : left stage = 0) : ∃ locked, stage = .finished locked := by
  cases stage with
  | finished locked => exact ⟨locked, rfl⟩
  | attempt | readClock | pause => cases none

/-- Every bounded attempt ends soon after its deadline, and gets a lock that stays open but for one case. -/
theorem every_attempt_bounded {now : Instant} (begun : Instant.zero ≤ now) (config : Config) (thread : ThreadKey)
    (timeout : Delay) (mutex : Mutex α) (list : List (Move α)) :
    (start now timeout mutex).Bounded config thread list := by
  have fresh : (start now timeout mutex).Sound config thread now :=
    ⟨Instant.le_refl now, nofun, nofun, Nat.zero_le _⟩
  have sound := fresh.moves begun list
  have told : (start now timeout mutex).Recounts config thread list _ := recounts rfl list
  have deadline : ((start now timeout mutex).moves config thread list).polling.deadline = _ :=
    deadline_moves _ list
  constructor
  case locked => exact sound.locked
  case gaveUp => exact fun busy => busy ▸ told
  case missed =>
    intro further stays going busy
    rw [moves_append] at busy
    obtain ⟨reading, before, after, split, idle, late⟩ := stays.missed going busy
    rw [deadline] at late
    exact ⟨reading, before, after, split, idle, by rwa [moves_append]⟩
  case yields => exact sound.yields
  case rests => exact fun wake paused => deadline ▸ sound.wake wake paused
  case returns =>
    intro passed further enough
    rw [moves_append]
    generalize (start now timeout mutex).moves config thread list = reached at sound deadline passed ⊢
    have late : reached.Late := ⟨deadline ▸ passed, sound.wake⟩
    have few : left (reached.moves config thread further).polling.stage ≤ _ := late.moves further
    have most := left_le reached.polling.stage
    exact finished_of_left (by omega)

/-- With no time at all, a thread tries the lock once. -/
theorem no_timeout_tries_once (now : Instant) (config : Config) (thread : ThreadKey) (mutex : Mutex α)
    (list : List (Move α)) :
    TriesOnce list ((start now .zero mutex).moves config thread list).polling.stage := by
  have begins : (start now .zero mutex).polling.stage = .attempt := rfl
  refine Late.tries_once ⟨?_, fun wake paused => ?_⟩ begins list
  · show Clock.deadline now .zero ≤ now
    have none : Delay.zero.toNanos = 0 := rfl
    have last := Instant.toNanos_le_last now
    rw [Instant.le_iff_toNanos_le, Clock.toNanos_deadline, none, Clock.reach, if_pos (by decide)]
    omega
  · rw [begins] at paused
    cases paused

/-- A lock that is released before the deadline, and that nobody takes again, is missed. -/
theorem release_before_deadline_missed :
    let taken : Mutex Unit := (Mutex.ofValue ()).acquire 1
    let tried := (start .zero (Delay.ofNanos 10) taken).moves .library 0 [.poll]
    let released := tried.move .library 0 (.disturb (taken.release 1))
    released.now < released.polling.deadline ∧
      released.StaysOpen .library 0 [.passTo released.polling.deadline, .poll] ∧
      (released.moves .library 0 [.passTo released.polling.deadline, .poll]).polling.stage = .finished false :=
  ⟨by decide, ⟨rfl, rfl, rfl⟩, by decide⟩

end Session

end Sync.Polling

end TaskKernel
