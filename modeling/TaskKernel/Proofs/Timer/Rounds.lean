import Mathlib.Algebra.GroupWithZero.Nat
import TaskKernel.Proofs.Time.Range
import TaskKernel.Proofs.Timer.Counting

/-!
The rounds of a set of timers. One timer is fired at each next deadline, all for the same time. The firings come
in the order of instants and numbers, and as long as no sum leaves the range of instants those of one timer lie
one interval and one firing apart, whatever the other timers do. Limited timers come to their end.
-/
namespace TaskKernel

/-- Whether a timer that is to fire so often can fire that many times. -/
def Repeat.Allows : Repeat → Nat → Prop
  | times left, count => count ≤ left.toNat
  | forever, _ => True

namespace Repeat

variable {repeats : Repeat} {count : Nat}

theorem allows_zero (repeats : Repeat) : repeats.Allows 0 := by
  cases repeats with
  | times left => exact Nat.zero_le _
  | forever => trivial

theorem Allows.le {fewer : Nat} (allowed : repeats.Allows count) (less : fewer ≤ count) : repeats.Allows fewer := by
  cases repeats with
  | times left => exact Nat.le_trans less allowed
  | forever => trivial

theorem allows_one : repeats.Allows 1 ↔ repeats.isExhausted = false := by
  cases repeats with
  | times left =>
    rw [Allows, isExhausted, beq_eq_false_iff_ne, Ne, ← UInt32.toNat_inj, UInt32.toNat_zero]
    omega
  | forever => exact ⟨fun _ => rfl, fun _ => trivial⟩

private theorem allows_consume (unspent : repeats.isExhausted = false) :
    repeats.consume.Allows count ↔ repeats.Allows (count + 1) := by
  cases repeats with
  | times left =>
    obtain ⟨rest, consumed, sum⟩ := toNat_consumed (allows_one.mpr unspent)
    rw [consumed, Allows, Allows]
    omega
  | forever => exact Iff.rfl

/-- How often a limited timer still fires. -/
def left : Repeat → Nat
  | times left => left.toNat
  | forever => 0

theorem left_of_exhausted (spent : repeats.isExhausted = true) : repeats.left = 0 := by
  cases repeats with
  | times left =>
    rw [isExhausted, beq_iff_eq] at spent
    exact congrArg UInt32.toNat spent
  | forever => rfl

end Repeat

namespace TimerSet

variable {σ : Type} {set : TimerSet σ} {took : Delay} {most : Nat} {armed other first : Armed σ}

/-- The firing of a timer that is armed. -/
def Armed.firing (armed : Armed σ) : Firing σ := ⟨armed.timer.tick.2, armed.timer.tick.1⟩

/-- The timer as it is armed after a firing that began at its deadline. -/
def Armed.next? (took : Delay) (armed : Armed σ) : Option (Armed σ) :=
  if armed.timer.tick.2.repeats.isExhausted then none
  else some ⟨(armed.deadline.addClamped took).addClamped armed.timer.interval, armed.timer.tick.2⟩

/-- The set after a round that has fired a timer. -/
def followed (took : Delay) (set : TimerSet σ) (armed : Armed σ) : TimerSet σ :=
  ⟨(set.remove armed.timer.id).armed ++ (armed.next? took).toList, none, false⟩

theorem popDue?_of_first (found : set.first? = some armed) :
    set.popDue? armed.deadline = some (armed.timer, set.without armed.timer.id) := by
  have reached : ¬ armed.deadline < armed.deadline := Instant.not_lt.mpr (Instant.le_refl _)
  simp only [popDue?, found, if_neg reached, without]

private theorem rounds_of_none (none : set.first? = none) : rounds took most set = ([], set) := by
  cases most with
  | zero => rfl
  | succ most => simp only [rounds, nextDeadline?, none, Option.map_none]

private theorem finish_without (set : TimerSet σ) (armed : Armed σ) :
    (set.without armed.timer.id).finish armed.timer.tick.2 (armed.deadline.addClamped took) =
      set.followed took armed := by
  have uncaught : ¬ ((set.without armed.timer.id).firing = some armed.timer.tick.2.id ∧
      (set.without armed.timer.id).firingCancelled = true) := fun caught => Bool.false_ne_true caught.2
  rw [finish, if_neg uncaught, arm, followed, Armed.next?]
  split
  · simp [without]
  · rfl

private theorem rounds_succ (found : set.first? = some first) : rounds took (most + 1) set =
    ((first.deadline, first.firing) :: (rounds took most (set.followed took first)).1,
      (rounds took most (set.followed took first)).2) := by
  simp only [rounds, nextDeadline?, found, Option.map_some, fire?, popDue?_of_first found, finish_without]
  rfl

/-- The exact instant of a firing of a timer that is armed, by the number of its firings before that one. -/
def Armed.instant (took : Delay) (armed : Armed σ) (before : Nat) : Int :=
  armed.deadline.toNanos + ((before * (took.toNanos + armed.timer.interval.toNanos) : Nat) : Int)

/-- The timer is armed again for one firing and one interval later. -/
structure Armed.Follows (took : Delay) (armed next : Armed σ) : Prop where
  timer : next.timer = armed.timer.tick.2
  deadline : next.deadline.toNanos = armed.deadline.toNanos + took.toNanos + armed.timer.interval.toNanos

/-- No sum with which a timer is armed again leaves the range of instants. -/
def InRange (took : Delay) (fired : List (Instant × Firing σ)) : Prop :=
  ∀ round ∈ fired, round.2.timer.repeats.isExhausted = false →
    round.1.toNanos + took.toNanos + round.2.timer.interval.toNanos ≤ Instant.last.toNanos

instance (took : Delay) (fired : List (Instant × Firing σ)) : Decidable (InRange took fired) :=
  inferInstanceAs (Decidable (∀ round ∈ fired, round.2.timer.repeats.isExhausted = false →
    round.1.toNanos + took.toNanos + round.2.timer.interval.toNanos ≤ Instant.last.toNanos))

/-- What holds of a set between two rounds. -/
structure Ready (set : TimerSet σ) : Prop where
  distinct : set.Distinct
  unspent : ∀ armed ∈ set.armed, armed.timer.repeats.isExhausted = false
  lasting : ∀ armed ∈ set.armed, armed.timer.interval.isZero = false
  fromZero : ∀ armed ∈ set.armed, 0 ≤ armed.deadline.toNanos
  unmarked : set.firing = none ∧ set.firingCancelled = false

namespace Armed

@[simp] theorem instant_zero (took : Delay) (armed : Armed σ) : armed.instant took 0 = armed.deadline.toNanos := by
  simp [instant]

private theorem deadline_le_instant (took : Delay) (armed : Armed σ) (before : Nat) :
    armed.deadline.toNanos ≤ armed.instant took before :=
  Int.le_add_of_nonneg_right (Int.natCast_nonneg _)

theorem Follows.instant_eq (follows : first.Follows took other) (before : Nat) :
    other.instant took before = first.instant took (before + 1) := by
  have interval : other.timer.interval = first.timer.interval := by
    rw [follows.timer]
    rfl
  rw [instant, instant, follows.deadline, interval, Nat.succ_mul]
  omega

theorem Follows.allows_iff (follows : first.Follows took other)
    (unspent : first.timer.repeats.isExhausted = false) (count : Nat) :
    other.timer.repeats.Allows count ↔ first.timer.repeats.Allows (count + 1) := by
  rw [follows.timer]
  exact Repeat.allows_consume unspent

theorem Follows.id_eq (follows : first.Follows took other) : other.timer.id = first.timer.id := by
  rw [follows.timer]
  rfl

theorem Follows.fired_eq (follows : first.Follows took other) : other.timer.fired = first.timer.fired + 1 := by
  rw [follows.timer]
  rfl

private theorem last_of_next? (unspent : armed.timer.repeats.isExhausted = false) (none : armed.next? took = none) :
    ¬ armed.timer.repeats.Allows 2 := by
  rw [← Repeat.allows_consume unspent, Repeat.allows_one, Bool.not_eq_false]
  unfold next? at none
  split at none
  · assumption
  · cases none

theorem next?_eq_some (again : armed.next? took = some other) : other.timer = armed.timer.tick.2 ∧
    armed.timer.repeats.consume.isExhausted = false ∧
    other.deadline = (armed.deadline.addClamped took).addClamped armed.timer.interval := by
  unfold next? at again
  split at again
  · cases again
  · rename_i more
    cases again
    exact ⟨rfl, Bool.eq_false_iff.mpr more, rfl⟩

private theorem follows_of_next? (again : armed.next? took = some other) (fromZero : 0 ≤ armed.deadline.toNanos)
    (inside : armed.firing.timer.repeats.isExhausted = false →
      armed.deadline.toNanos + took.toNanos + armed.timer.interval.toNanos ≤ Instant.last.toNanos) :
    armed.Follows took other := by
  obtain ⟨timer, more, deadline⟩ := next?_eq_some again
  have sum := inside more
  have finished := Instant.toNanos_addClamped_of_nonneg fromZero took
  refine ⟨timer, ?_⟩
  rw [deadline, Instant.toNanos_addClamped_of_nonneg (by omega) armed.timer.interval, finished]
  omega

end Armed

private theorem mem_followed : other ∈ (set.followed took first).armed ↔
    (other ∈ set.armed ∧ other.timer.id ≠ first.timer.id) ∨ first.next? took = some other := by
  rw [followed, List.mem_append, remove, List.mem_filter, decide_eq_true_eq, Option.mem_toList]

theorem Ready.followed (ready : set.Ready) (member : first ∈ set.armed) : (set.followed took first).Ready := by
  -- What is armed afterwards has been armed before, or it is the timer that has fired.
  have each {kept : Armed σ → Prop} (old : ∀ armed ∈ set.armed, kept armed)
      (new : ∀ next, first.next? took = some next → kept next) :
      ∀ armed ∈ (set.followed took first).armed, kept armed := by
    intro armed present
    rcases mem_followed.mp present with ⟨before, _⟩ | again
    · exact old armed before
    · exact new armed again
  refine ⟨?_, each ready.unspent ?_, each ready.lasting ?_, each ready.fromZero ?_, rfl, rfl⟩
  · rw [Distinct, TimerSet.followed, List.pairwise_append]
    refine ⟨List.Pairwise.filter _ ready.distinct, ?_, ?_⟩
    · cases first.next? took with
      | none => exact List.Pairwise.nil
      | some next => exact List.pairwise_singleton _ _
    · intro armed kept next again same
      have apart := of_decide_eq_true (List.mem_filter.mp kept).2
      obtain ⟨timer, _⟩ := Armed.next?_eq_some (Option.mem_toList.mp again)
      rw [timer] at same
      exact apart same
  · intro next again
    obtain ⟨timer, more, _⟩ := Armed.next?_eq_some again
    rw [timer]
    exact more
  · intro next again
    rw [(Armed.next?_eq_some again).1]
    exact ready.lasting first member
  · intro next again
    have one := Instant.le_addClamped first.deadline took
    have two := Instant.le_addClamped (first.deadline.addClamped took) first.timer.interval
    have start := ready.fromZero first member
    rw [Instant.le_iff_toNanos_le] at one two
    rw [(Armed.next?_eq_some again).2.2]
    omega

/-- When a firing begins, and of which timer it is. -/
def moment (round : Instant × Firing σ) : Int × TimerId := (round.1.toNanos, round.2.tick.timer)

/-- The earlier instant comes first, and of two equal ones the lower number. -/
def Before (left right : Int × TimerId) : Prop :=
  left.1 < right.1 ∨ left.1 = right.1 ∧ left.2.number < right.2.number

/-- The firings of one timer, each with its count and its instant. -/
def firingsOf (id : TimerId) (fired : List (Instant × Firing σ)) : List (Nat × Int) :=
  (fired.filter fun round => round.2.tick.timer = id).map fun round => (round.2.tick.count, round.1.toNanos)

def timesFired (id : TimerId) (fired : List (Instant × Firing σ)) : Nat := (firingsOf id fired).length

/-- What the rounds of a set come to for a timer that is armed in it. -/
structure Served (took : Delay) (armed : Armed σ) (fired : List (Instant × Firing σ)) (after : TimerSet σ) :
    Prop where
  kept : firingsOf armed.timer.id fired = (List.range (timesFired armed.timer.id fired)).map fun before =>
    (armed.timer.fired + before + 1, armed.instant took before)
  allowed : armed.timer.repeats.Allows (timesFired armed.timer.id fired)
  unskipped : ∀ before, timesFired armed.timer.id fired ≤ before → armed.timer.repeats.Allows (before + 1) →
    ∀ round ∈ fired, Before (moment round) (armed.instant took before, armed.timer.id)
  next : armed.timer.repeats.Allows (timesFired armed.timer.id fired + 1) → ∃ other ∈ after.armed,
    other.timer.id = armed.timer.id ∧
      other.deadline.toNanos = armed.instant took (timesFired armed.timer.id fired)

variable {fired : List (Instant × Firing σ)} {after : TimerSet σ} {round : Instant × Firing σ} {id : TimerId}

theorem firingsOf_cons_self (same : round.2.tick.timer = id) :
    firingsOf id (round :: fired) = (round.2.tick.count, round.1.toNanos) :: firingsOf id fired := by
  simp [firingsOf, same]

private theorem firingsOf_cons_other (different : round.2.tick.timer ≠ id) :
    firingsOf id (round :: fired) = firingsOf id fired := by
  simp [firingsOf, different]

theorem firingsOf_eq_nil (absent : ∀ round ∈ fired, round.2.tick.timer ≠ id) : firingsOf id fired = [] := by
  simpa [firingsOf] using absent

private theorem firingsOf_cons_firing : firingsOf first.timer.id ((first.deadline, first.firing) :: fired) =
    (first.timer.fired + 1, first.deadline.toNanos) :: firingsOf first.timer.id fired := firingsOf_cons_self rfl

private theorem Before.trans_le {left right : Int × TimerId} {instant : Int} (before : Before left right)
    (later : right.1 ≤ instant) : Before left (instant, right.2) := by
  unfold Before at before ⊢
  dsimp only
  omega

private theorem Served.start (member : armed ∈ set.armed) : Served took armed [] set where
  kept := rfl
  allowed := Repeat.allows_zero _
  unskipped _ _ _ _ past := by cases past
  next _ := ⟨armed, member, rfl, (armed.instant_zero took).symm⟩

theorem Served.aside (served : Served took armed fired after) (different : round.2.tick.timer ≠ armed.timer.id)
    (earlier : Before (moment round) (armed.deadline.toNanos, armed.timer.id)) :
    Served took armed (round :: fired) after := by
  have same : timesFired armed.timer.id (round :: fired) = timesFired armed.timer.id fired :=
    congrArg List.length (firingsOf_cons_other different)
  refine ⟨?_, ?_, ?_, ?_⟩
  · rw [same, firingsOf_cons_other different]
    exact served.kept
  · rw [same]
    exact served.allowed
  · rw [same]
    intro before left allowed other past
    rcases List.mem_cons.mp past with rfl | past
    · exact earlier.trans_le (armed.deadline_le_instant took before)
    · exact served.unskipped before left allowed other past
  · rw [same]
    exact served.next

private theorem Served.again (served : Served took other fired after) (follows : first.Follows took other)
    (unspent : first.timer.repeats.isExhausted = false) (lasting : first.timer.interval.isZero = false) :
    Served took first ((first.deadline, first.firing) :: fired) after := by
  have number : timesFired first.timer.id ((first.deadline, first.firing) :: fired) =
      timesFired other.timer.id fired + 1 := by
    rw [timesFired, firingsOf_cons_firing, follows.id_eq]
    rfl
  -- Counted from the new deadline, every firing comes one earlier than counted from the old one.
  refine ⟨?_, ?_, ?_, ?_⟩
  · rw [number, firingsOf_cons_firing, ← follows.id_eq, served.kept, List.range_succ_eq_map, List.map_cons,
      List.map_map, follows.fired_eq, Armed.instant_zero]
    refine congrArg _ (List.map_congr_left fun before _ => ?_)
    rw [follows.instant_eq, Function.comp, Nat.succ_eq_add_one, Nat.add_right_comm _ 1 before, Nat.add_assoc _ before]
  · rw [number]
    exact (follows.allows_iff unspent _).mp served.allowed
  · rw [number]
    intro before left allowed round past
    obtain ⟨before, rfl⟩ : ∃ less, before = less + 1 := ⟨before - 1, by omega⟩
    rw [← follows.instant_eq, ← follows.id_eq]
    rcases List.mem_cons.mp past with rfl | past
    · left
      have later := other.deadline_le_instant took before
      have positive := Delay.toNanos_pos lasting
      rw [follows.deadline] at later
      show first.deadline.toNanos < _
      omega
    · exact served.unskipped before (by omega) ((follows.allows_iff unspent _).mpr allowed) round past
  · rw [number]
    intro allowed
    obtain ⟨later, member, same, deadline⟩ := served.next ((follows.allows_iff unspent _).mpr allowed)
    exact ⟨later, member, same.trans follows.id_eq, deadline.trans (follows.instant_eq _)⟩

private theorem Served.ended (absent : ∀ round ∈ fired, round.2.tick.timer ≠ first.timer.id)
    (unspent : first.timer.repeats.isExhausted = false) (last : ¬ first.timer.repeats.Allows 2) :
    Served took first ((first.deadline, first.firing) :: fired) after := by
  have once : firingsOf first.timer.id ((first.deadline, first.firing) :: fired) =
      [(first.timer.fired + 1, first.deadline.toNanos)] := by
    rw [firingsOf_cons_firing, firingsOf_eq_nil absent]
  have number : timesFired first.timer.id ((first.deadline, first.firing) :: fired) = 1 := congrArg List.length once
  refine ⟨?_, ?_, ?_, ?_⟩
  · rw [number, once]
    simp
  · rw [number]
    exact Repeat.allows_one.mpr unspent
  · rw [number]
    intro before left allowed
    exact absurd (allowed.le (Nat.succ_le_succ left)) last
  · rw [number]
    intro allowed
    exact absurd allowed last

/-- What the rounds of a set come to. -/
structure Course (took : Delay) (set : TimerSet σ) (fired : List (Instant × Firing σ)) (after : TimerSet σ) :
    Prop where
  own : ∀ round ∈ fired, ∃ armed ∈ set.armed, armed.timer.id = round.2.tick.timer ∧
    armed.deadline.toNanos ≤ round.1.toNanos
  ascending : fired.Pairwise fun left right => Before (moment left) (moment right)
  served : ∀ armed ∈ set.armed, Served took armed fired after

private theorem Course.start (took : Delay) (set : TimerSet σ) : Course took set [] set where
  own _ past := by cases past
  ascending := List.Pairwise.nil
  served _ member := .start member

private theorem Ready.before_followed (ready : set.Ready) (found : set.first? = some first)
    (again : ∀ next, first.next? took = some next → first.Follows took next)
    (member : other ∈ (set.followed took first).armed) :
    Before (first.deadline.toNanos, first.timer.id) (other.deadline.toNanos, other.timer.id) := by
  obtain ⟨present, least⟩ := first?_eq_some found
  rcases mem_followed.mp member with ⟨old, different⟩ | next
  · have behind := least other old
    have numbers : other.timer.id.number ≠ first.timer.id.number := fun same => different (congrArg TimerId.mk same)
    rw [← Bool.not_eq_true, Armed.precedes_iff] at behind
    unfold Before
    dsimp only
    omega
  · have positive := Delay.toNanos_pos (ready.lasting first present)
    have deadline := (again other next).deadline
    left
    dsimp only
    omega

private theorem Course.cons {rest : TimerSet σ} (ready : set.Ready) (found : set.first? = some first)
    (inside : first.firing.timer.repeats.isExhausted = false →
      first.deadline.toNanos + took.toNanos + first.timer.interval.toNanos ≤ Instant.last.toNanos)
    (course : Course took (set.followed took first) fired rest) :
    Course took set ((first.deadline, first.firing) :: fired) rest := by
  obtain ⟨present, _⟩ := first?_eq_some found
  have unspent := ready.unspent first present
  have again (next : Armed σ) (same : first.next? took = some next) : first.Follows took next :=
    Armed.follows_of_next? same (ready.fromZero first present) inside
  refine ⟨?_, List.pairwise_cons.mpr ⟨?_, course.ascending⟩, ?_⟩
  · intro round past
    rcases List.mem_cons.mp past with rfl | past
    · exact ⟨first, present, rfl, Int.le_refl _⟩
    · obtain ⟨armed, member, same, later⟩ := course.own round past
      rcases mem_followed.mp member with ⟨old, _⟩ | next
      · exact ⟨armed, old, same, later⟩
      · have follows := again armed next
        have deadline := follows.deadline
        exact ⟨first, present, follows.id_eq.symm.trans same, by omega⟩
  · intro round past
    obtain ⟨armed, member, same, later⟩ := course.own round past
    have before := (ready.before_followed found again member).trans_le later
    rwa [same] at before
  · intro armed member
    by_cases same : armed.timer.id = first.timer.id
    · obtain rfl := ready.distinct.eq_of_id member present same
      cases next : armed.next? took with
      | none =>
        refine .ended (fun round past gone => ?_) unspent (Armed.last_of_next? unspent next)
        obtain ⟨other, left, owner, _⟩ := course.own round past
        rcases mem_followed.mp left with ⟨_, different⟩ | more
        · exact different (owner.trans gone)
        · rw [next] at more
          cases more
      | some other =>
        have served := course.served other (mem_followed.mpr (.inr next))
        exact served.again (again other next) unspent (ready.lasting armed present)
    · have old : armed ∈ (set.followed took first).armed := mem_followed.mpr (.inl ⟨member, same⟩)
      exact (course.served armed old).aside (fun equal => same equal.symm) (ready.before_followed found again old)

/-- The rounds of a set, as long as no sum leaves the range of instants. -/
theorem Ready.course (ready : set.Ready) (most : Nat) (inRange : InRange took (rounds took most set).1) :
    Course took set (rounds took most set).1 (rounds took most set).2 := by
  -- The induction is on the rounds from the first one on: what is armed after it is a ready set again.
  induction most generalizing set with
  | zero => exact .start took set
  | succ most ih =>
    cases found : set.first? with
    | none =>
      rw [rounds_of_none found]
      exact .start took set
    | some first =>
      rw [rounds_succ found] at inRange ⊢
      rw [InRange, List.forall_mem_cons] at inRange
      exact .cons ready found inRange.1 (ih (ready.followed (first?_eq_some found).1) inRange.2)

theorem rounds_keep {kept : TimerSet σ → Prop}
    (step : ∀ set armed, kept set → armed ∈ set.armed → kept (set.followed took armed))
    (initial : kept set) (most : Nat) : kept (rounds took most set).2 := by
  induction most generalizing set with
  | zero => exact initial
  | succ most ih =>
    cases found : set.first? with
    | none =>
      rw [rounds_of_none found]
      exact initial
    | some first =>
      rw [rounds_succ found]
      exact ih (step set first initial (first?_eq_some found).1)

theorem rounds_stop (took : Delay) (most : Nat) (set : TimerSet σ) :
    (rounds took most set).1.length = most ∨ (rounds took most set).2.armed = [] := by
  induction most generalizing set with
  | zero => exact .inl rfl
  | succ most ih =>
    cases found : set.first? with
    | none =>
      rw [rounds_of_none found]
      exact .inr (first?_eq_none.mp found)
    | some first =>
      rw [rounds_succ found]
      exact (ih (set.followed took first)).imp_left fun length => congrArg (· + 1) length

def Limited (set : TimerSet σ) : Prop := ∀ armed ∈ set.armed, ∃ left, armed.timer.repeats = .times left

/-- How many firings the timers of a set have left. -/
def owed (set : TimerSet σ) : Nat := (set.armed.map fun armed => armed.timer.repeats.left).sum

theorem Limited.followed (limited : set.Limited) (member : first ∈ set.armed) :
    (set.followed took first).Limited := by
  intro armed present
  rcases mem_followed.mp present with ⟨old, _⟩ | again
  · exact limited armed old
  · obtain ⟨left, times⟩ := limited first member
    rw [(Armed.next?_eq_some again).1]
    exact ⟨_, congrArg Repeat.consume times⟩

private theorem Ready.owed_followed (ready : set.Ready) (took : Delay) (limited : set.Limited)
    (member : first ∈ set.armed) : (set.followed took first).owed + 1 = set.owed := by
  have unspent := ready.unspent first member
  obtain ⟨left, times⟩ := limited first member
  have whole := ((ready.distinct.perm_remove member).map fun armed => armed.timer.repeats.left).sum_nat
  have some := Repeat.allows_one.mpr unspent
  rw [List.map_cons, List.sum_cons] at whole
  rw [owed, owed, whole, TimerSet.followed, List.map_append, List.sum_append_nat]
  cases next : first.next? took with
  | none =>
    have last := Armed.last_of_next? unspent next
    rw [times, Repeat.Allows] at some last
    rw [times, Repeat.left, Option.toList_none, List.map_nil, List.sum_nil]
    omega
  | some other =>
    rw [times] at some
    obtain ⟨rest, consumed, sum⟩ := Repeat.toNat_consumed some
    have after : other.timer.repeats = .times rest := by
      rw [(Armed.next?_eq_some next).1, ← consumed, ← times]
      rfl
    rw [times, Option.toList_some, List.map_singleton, List.sum_singleton, after, Repeat.left, Repeat.left]
    omega

theorem Ready.length_rounds (ready : set.Ready) (took : Delay) (limited : set.Limited) (most : Nat) :
    (rounds took most set).1.length = min most set.owed ∧ (rounds took most set).2.owed = set.owed - most := by
  induction most generalizing set with
  | zero => exact ⟨(Nat.zero_min _).symm, rfl⟩
  | succ most ih =>
    cases found : set.first? with
    | none =>
      have none : set.owed = 0 := by rw [owed, first?_eq_none.mp found, List.map_nil, List.sum_nil]
      rw [rounds_of_none found, none]
      exact ⟨(Nat.min_zero _).symm, (Nat.zero_sub _).symm⟩
    | some first =>
      have present := (first?_eq_some found).1
      obtain ⟨length, owed⟩ := ih (ready.followed present) (limited.followed present)
      have one := ready.owed_followed took limited present
      rw [rounds_succ found, List.length_cons, length, owed]
      omega

theorem Ready.eq_empty (ready : set.Ready) (limited : set.Limited) (spent : set.owed = 0) : set = empty := by
  obtain ⟨armed, firing, firingCancelled⟩ := set
  obtain ⟨rfl, rfl⟩ : firing = none ∧ firingCancelled = false := ready.unmarked
  cases armed with
  | nil => rfl
  | cons first rest =>
    have some := Repeat.allows_one.mpr (ready.unspent first List.mem_cons_self)
    obtain ⟨left, times⟩ := limited first List.mem_cons_self
    rw [times, Repeat.Allows] at some
    rw [owed, List.map_cons, List.sum_cons, times, Repeat.left] at spent
    omega

end TimerSet

end TaskKernel
