import TaskKernel.Proofs.Timer.Rounds

/-!
Timers that are lined up, each armed at a time of its own, and then fired in rounds. As long as no sum leaves the
range of instants, every timer keeps a timetable that the others do not disturb: its firings are counted from
the time at which it was armed.
-/
namespace TaskKernel.TimerSet

variable {σ : Type} {set : TimerSet σ} {took : Delay} {armed : Armed σ} {fired : List (Instant × Firing σ)}
  {after : TimerSet σ} {round : Instant × Firing σ}

/-- A timer that has not fired yet, and when it is armed. -/
structure Plan (σ : Type) where
  timer : Timer σ
  start : Instant
  unfired : timer.fired = 0
  lasting : timer.interval.isZero = false
  fromZero : Instant.zero ≤ start

namespace Plan

/-- The exact instant of a firing, counted from one: so many intervals, and one firing less, after the start. -/
def instant (took : Delay) (plan : Plan σ) (count : Nat) : Int :=
  plan.start.toNanos + ((count * plan.timer.interval.toNanos + (count - 1) * took.toNanos : Nat) : Int)

/-- The timer as it is armed, if it is to fire at all. -/
def entry? (plan : Plan σ) : Option (Armed σ) :=
  if plan.timer.repeats.isExhausted then none
  else some ⟨plan.start.addClamped plan.timer.interval, plan.timer⟩

end Plan

/-- The timers are armed one after the other. -/
def lineUp (plans : List (Plan σ)) : TimerSet σ :=
  plans.foldl (fun set plan => set.arm plan.timer plan.start) empty

variable {plans : List (Plan σ)} {plan : Plan σ}

private theorem foldl_arm (plans : List (Plan σ)) (set : TimerSet σ) :
    plans.foldl (fun set plan => set.arm plan.timer plan.start) set =
      { set with armed := set.armed ++ plans.filterMap Plan.entry? } := by
  induction plans generalizing set with
  | nil => simp
  | cons plan rest ih =>
    rw [List.foldl_cons, ih, arm, List.filterMap_cons, Plan.entry?]
    split <;> simp

private theorem armed_lineUp (plans : List (Plan σ)) : (lineUp plans).armed = plans.filterMap Plan.entry? :=
  congrArg TimerSet.armed (foldl_arm plans empty)

theorem Plan.entry?_eq_some (found : plan.entry? = some armed) : plan.timer.repeats.isExhausted = false ∧
    armed = ⟨plan.start.addClamped plan.timer.interval, plan.timer⟩ := by
  unfold entry? at found
  split at found
  · cases found
  · rename_i unspent
    cases found
    exact ⟨Bool.eq_false_iff.mpr unspent, rfl⟩

theorem Plan.entry?_eq_none : plan.entry? = none ↔ plan.timer.repeats.isExhausted = true := by
  unfold entry?
  split <;> simp [*]

private theorem mem_lineUp : armed ∈ (lineUp plans).armed ↔ ∃ plan ∈ plans, plan.entry? = some armed := by
  rw [armed_lineUp, List.mem_filterMap]

private theorem ready_lineUp (distinct : plans.Pairwise fun left right => ¬ left.timer.id = right.timer.id) :
    (lineUp plans).Ready := by
  have each {kept : Armed σ → Prop} (new : ∀ plan : Plan σ, plan.timer.repeats.isExhausted = false →
      kept ⟨plan.start.addClamped plan.timer.interval, plan.timer⟩) :
      ∀ armed ∈ (lineUp plans).armed, kept armed := by
    intro armed member
    obtain ⟨plan, _, found⟩ := mem_lineUp.mp member
    obtain ⟨unspent, rfl⟩ := Plan.entry?_eq_some found
    exact new plan unspent
  refine ⟨?_, each fun _ unspent => unspent, each fun plan _ => plan.lasting, each fun plan _ => ?_, ?_⟩
  · rw [Distinct, armed_lineUp, List.pairwise_filterMap]
    refine distinct.imp fun apart one first two second => ?_
    obtain ⟨_, rfl⟩ := Plan.entry?_eq_some first
    obtain ⟨_, rfl⟩ := Plan.entry?_eq_some second
    exact apart
  · have start := (Instant.le_iff_toNanos_le _ _).mp plan.fromZero
    have later := (Instant.le_iff_toNanos_le _ _).mp (Instant.le_addClamped plan.start plan.timer.interval)
    exact Int.le_trans start later
  · rw [lineUp, foldl_arm]
    exact ⟨rfl, rfl⟩

private theorem Plan.instant_succ (took : Delay)
    (inside : plan.start.toNanos + plan.timer.interval.toNanos ≤ Instant.last.toNanos)
    (found : plan.entry? = some armed) (before : Nat) :
    armed.instant took before = plan.instant took (before + 1) := by
  obtain ⟨_, rfl⟩ := Plan.entry?_eq_some found
  have start := (Instant.le_iff_toNanos_le _ _).mp plan.fromZero
  have deadline := Instant.toNanos_addClamped_of_nonneg start plan.timer.interval
  rw [Armed.instant, Plan.instant, deadline, Nat.mul_add, Nat.succ_mul, Nat.add_sub_cancel]
  dsimp only
  omega

/-- What the rounds come to for one timer, whatever the others do. -/
structure Plan.Kept (took : Delay) (plan : Plan σ) (fired : List (Instant × Firing σ)) (after : TimerSet σ) :
    Prop where
  instants : firingsOf plan.timer.id fired =
    (List.range (timesFired plan.timer.id fired)).map fun before => (before + 1, plan.instant took (before + 1))
  allowed : plan.timer.repeats.Allows (timesFired plan.timer.id fired)
  unskipped : ∀ count, timesFired plan.timer.id fired < count → plan.timer.repeats.Allows count →
    ∀ round ∈ fired, Before (moment round) (plan.instant took count, plan.timer.id)
  next : plan.timer.repeats.Allows (timesFired plan.timer.id fired + 1) → ∃ armed ∈ after.armed,
    armed.timer.id = plan.timer.id ∧
      armed.deadline.toNanos = plan.instant took (timesFired plan.timer.id fired + 1)

private theorem Served.kept_plan (served : Served took armed fired after) (found : plan.entry? = some armed)
    (inside : plan.start.toNanos + plan.timer.interval.toNanos ≤ Instant.last.toNanos) :
    plan.Kept took fired after := by
  have instants := Plan.instant_succ took inside found
  obtain ⟨_, rfl⟩ := Plan.entry?_eq_some found
  refine ⟨?_, served.allowed, ?_, ?_⟩
  · rw [served.kept]
    refine List.map_congr_left fun before _ => ?_
    rw [plan.unfired, Nat.zero_add, instants]
  · intro count left allowed round past
    obtain ⟨before, rfl⟩ : ∃ less, count = less + 1 := ⟨count - 1, by omega⟩
    rw [← instants]
    exact served.unskipped before (Nat.le_of_lt_succ left) allowed round past
  · intro allowed
    rw [← instants]
    exact served.next allowed

private theorem Plan.kept_of_spent (spent : plan.timer.repeats.isExhausted = true)
    (absent : ∀ round ∈ fired, round.2.tick.timer ≠ plan.timer.id) : plan.Kept took fired after := by
  have number : timesFired plan.timer.id fired = 0 := congrArg List.length (firingsOf_eq_nil absent)
  have refused (count : Nat) (positive : 0 < count) : ¬ plan.timer.repeats.Allows count := by
    intro allowed
    rw [Repeat.allows_one.mp (allowed.le positive)] at spent
    cases spent
  refine ⟨?_, ?_, ?_, ?_⟩
  · rw [number, firingsOf_eq_nil absent]
    rfl
  · rw [number]
    exact Repeat.allows_zero _
  · intro count left allowed
    exact absurd allowed (refused count (by omega))
  · intro allowed
    exact absurd allowed (refused _ (Nat.succ_pos _))

private theorem Course.own_plan (course : Course took (lineUp plans) fired after) (past : round ∈ fired) :
    ∃ plan ∈ plans, plan.timer.id = round.2.tick.timer ∧ plan.timer.repeats.isExhausted = false := by
  obtain ⟨armed, lined, owner, _⟩ := course.own round past
  obtain ⟨plan, member, entry⟩ := mem_lineUp.mp lined
  obtain ⟨unspent, rfl⟩ := Plan.entry?_eq_some entry
  exact ⟨plan, member, owner, unspent⟩

private theorem Course.kept (course : Course took (lineUp plans) fired after)
    (distinct : plans.Pairwise fun left right => ¬ left.timer.id = right.timer.id)
    (inside : ∀ plan ∈ plans, plan.timer.repeats.isExhausted = false →
      plan.start.toNanos + plan.timer.interval.toNanos ≤ Instant.last.toNanos)
    (member : plan ∈ plans) : plan.Kept took fired after := by
  cases found : plan.entry? with
  | some armed =>
    have served := course.served armed (mem_lineUp.mpr ⟨plan, member, found⟩)
    exact served.kept_plan found (inside plan member (Plan.entry?_eq_some found).1)
  | none =>
    have spent := Plan.entry?_eq_none.mp found
    refine Plan.kept_of_spent spent fun round past same => ?_
    obtain ⟨other, present, owner, unspent⟩ := course.own_plan past
    obtain rfl := eq_of_alike distinct Eq.symm present member (owner.trans same)
    rw [spent] at unspent
    cases unspent

/-- What the rounds of timers that are lined up come to. -/
structure Timetable (took : Delay) (plans : List (Plan σ)) (most : Nat) (fired : List (Instant × Firing σ))
    (after : TimerSet σ) : Prop where
  popped : ∀ rounds deadline, (TimerSet.rounds took rounds (lineUp plans)).2.nextDeadline? = some deadline →
    ∃ timer rest, (TimerSet.rounds took rounds (lineUp plans)).2.popDue? deadline = some (timer, rest)
  own : ∀ round ∈ fired, ∃ plan ∈ plans, plan.timer.id = round.2.tick.timer
  kept : ∀ plan ∈ plans, plan.Kept took fired after
  ascending : fired.Pairwise fun left right => Before (moment left) (moment right)
  stops : fired.length = most ∨ after.armed = []
  ended : ∀ lefts : List UInt32, plans.map (·.timer.repeats) = lefts.map .times →
    fired.length = min most (lefts.map (·.toNat)).sum ∧
      ((lefts.map (·.toNat)).sum ≤ most → after = empty ∧
        ∀ plan ∈ plans, timesFired plan.timer.id fired = plan.timer.repeats.left)

private theorem popDue?_nextDeadline {deadline : Instant} (next : set.nextDeadline? = some deadline) :
    ∃ timer rest, set.popDue? deadline = some (timer, rest) := by
  obtain ⟨first, found, rfl⟩ := Option.map_eq_some_iff.mp next
  exact ⟨_, _, popDue?_of_first found⟩

private theorem owed_lineUp (plans : List (Plan σ)) :
    (lineUp plans).owed = (plans.map (·.timer.repeats.left)).sum := by
  rw [owed, armed_lineUp]
  induction plans with
  | nil => rfl
  | cons plan rest ih =>
    rw [List.filterMap_cons, List.map_cons, List.sum_cons, ← ih]
    cases found : plan.entry? with
    | none =>
      have none := Repeat.left_of_exhausted (Plan.entry?_eq_none.mp found)
      rw [none, Nat.zero_add]
    | some armed => rw [List.map_cons, List.sum_cons, (Plan.entry?_eq_some found).2]

private theorem limited_lineUp {lefts : List UInt32} (limited : plans.map (·.timer.repeats) = lefts.map .times) :
    (lineUp plans).Limited ∧ (lineUp plans).owed = (lefts.map (·.toNat)).sum := by
  constructor
  · intro armed member
    obtain ⟨plan, present, found⟩ := mem_lineUp.mp member
    have repeats : plan.timer.repeats ∈ lefts.map Repeat.times := limited ▸ List.mem_map_of_mem present
    obtain ⟨left, _, same⟩ := List.mem_map.mp repeats
    exact ⟨left, by rw [(Plan.entry?_eq_some found).2, same]⟩
  · have counts := congrArg (List.map Repeat.left) limited
    rw [List.map_map, List.map_map] at counts
    rw [owed_lineUp]
    exact congrArg List.sum counts

theorem Plan.Kept.timesFired_eq {left : UInt32} (kept : plan.Kept took fired empty)
    (limited : plan.timer.repeats = .times left) : timesFired plan.timer.id fired = plan.timer.repeats.left := by
  have allowed := kept.allowed
  rw [limited] at allowed ⊢
  refine Nat.le_antisymm allowed (Nat.le_of_not_lt fun more => ?_)
  obtain ⟨armed, member, _⟩ := kept.next (limited ▸ more)
  cases member

/-- In rounds at each next deadline there is always a timer to pop, and as long as no sum leaves the range of
instants every timer keeps its own timetable. -/
theorem every_timer_keeps_its_timetable (took : Delay) (plans : List (Plan σ)) (most : Nat)
    (distinct : plans.Pairwise fun left right => ¬ left.timer.id = right.timer.id)
    (inside : ∀ plan ∈ plans, plan.timer.repeats.isExhausted = false →
      plan.start.toNanos + plan.timer.interval.toNanos ≤ Instant.last.toNanos)
    (inRange : InRange took (rounds took most (lineUp plans)).1) :
    Timetable took plans most (rounds took most (lineUp plans)).1 (rounds took most (lineUp plans)).2 := by
  have ready := ready_lineUp distinct
  have course := ready.course most inRange
  refine ⟨fun _ _ next => popDue?_nextDeadline next, ?_, fun _ member => course.kept distinct inside member,
    course.ascending, rounds_stop took most _, ?_⟩
  · intro round past
    obtain ⟨plan, member, owner, _⟩ := course.own_plan past
    exact ⟨plan, member, owner⟩
  · intro lefts repeats
    obtain ⟨limited, owed⟩ := limited_lineUp repeats
    obtain ⟨length, rest⟩ := ready.length_rounds took limited most
    rw [← owed]
    refine ⟨length, fun enough => ?_⟩
    have done : (rounds took most (lineUp plans)).2 = empty := by
      apply Ready.eq_empty
      · exact rounds_keep (fun _ _ ready member => ready.followed member) ready most
      · exact rounds_keep (fun _ _ limited member => limited.followed member) limited most
      · omega
    refine ⟨done, fun plan member => ?_⟩
    have present : plan.timer.repeats ∈ lefts.map Repeat.times := repeats ▸ List.mem_map_of_mem member
    obtain ⟨left, _, times⟩ := List.mem_map.mp present
    have kept := course.kept distinct inside member
    rw [done] at kept
    exact kept.timesFired_eq times.symm

/-- A timer that fires twice and one that goes on, both due for the first time at the same instant. -/
theorem tied_timers_keep_their_timetables :
    let took : Delay := ⟨0, 1000000, by decide⟩
    let twice : Plan Unit :=
      ⟨⟨⟨1⟩, ⟨0, 3000000, by decide⟩, .times 2, 0, .dispatch⟩, .zero, rfl, rfl, by decide⟩
    let endless : Plan Unit :=
      ⟨⟨⟨2⟩, ⟨0, 2000000, by decide⟩, .forever, 0, .dispatch⟩, ⟨0, 1000000, by decide⟩, rfl, rfl, by decide⟩
    let run := rounds took 5 (lineUp [endless, twice])
    InRange took run.1 ∧ Timetable took [endless, twice] 5 run.1 run.2 ∧
      run.1.map moment = [(3000000, ⟨1⟩), (3000000, ⟨2⟩), (6000000, ⟨2⟩), (7000000, ⟨1⟩), (9000000, ⟨2⟩)] := by
  intro took twice endless run
  have distinct : [endless, twice].Pairwise fun left right => ¬ left.timer.id = right.timer.id := by decide
  have inside : ∀ plan ∈ [endless, twice], plan.timer.repeats.isExhausted = false →
      plan.start.toNanos + plan.timer.interval.toNanos ≤ Instant.last.toNanos := by decide
  have inRange : InRange took run.1 := by decide +kernel
  have timetable := every_timer_keeps_its_timetable took [endless, twice] 5 distinct inside inRange
  exact ⟨inRange, timetable, by decide +kernel⟩

end TaskKernel.TimerSet
