import Mathlib.Data.List.Forall2
import TaskKernel.Proofs.Sync.WaitSet

/-!
How many waiters of a set are parked, and how many are about to look again. A signal takes one waiter from
the first number to the second; only a look takes a waiter out of the second, and no more than one.
-/
namespace TaskKernel.Sync.WaitSet

/-- What becomes of a waiter that does not look: it stays as it is, is woken, or its deadline passes. -/
inductive Waiter.Roused (now : Instant) : Waiter → Waiter → Prop
  | still (waiter : Waiter) : Roused now waiter waiter
  | woken (waiter : Waiter) (parked : waiter.stance = .parked) : Roused now waiter { waiter with stance := .woken }
  | expired (waiter : Waiter) (overdue : waiter.deadline.any (· ≤ now) = true) :
      Roused now waiter { waiter with stance := .expired }

/-- Let a thread that has been woken find its deadline passed. It has used up the wake-up nevertheless. -/
def overtake (set : WaitSet) (now : Instant) (thread : ThreadKey) : WaitSet :=
  ⟨set.waiters.map fun waiter =>
    if waiter.thread = thread ∧ waiter.stance = .woken ∧ waiter.deadline.any (· ≤ now) then
      { waiter with stance := .expired }
    else waiter⟩

variable {set after : WaitSet} {now : Instant} {thread : ThreadKey}

/-- No thread waits twice. -/
def Apart (set : WaitSet) : Prop := (set.waiters.map (·.thread)).Nodup

/-- All waiters still wait, and perhaps some more of them are about to look. -/
def Rouses (now : Instant) (set after : WaitSet) : Prop :=
  List.Forall₂ (Waiter.Roused now) set.waiters after.waiters

theorem parkedCount_eq_zero : set.parkedCount = 0 ↔ set.AllAwake := by simp [parkedCount, AllAwake]

theorem counts_add (set : WaitSet) : set.parkedCount + set.recheckingCount = set.waiters.length := by
  have split := List.length_eq_countP_add_countP (l := set.waiters) (fun waiter => decide (waiter.stance = .parked))
  simp only [decide_eq_true_eq] at split
  exact split.symm

theorem Rouses.refl (now : Instant) (set : WaitSet) : set.Rouses now set :=
  List.forall₂_same.mpr fun waiter _ => .still waiter

private theorem wakeNumber_roused (now : Instant) (number : Nat) (waiters : List Waiter) :
    List.Forall₂ (Waiter.Roused now) waiters (wakeNumber number waiters) := by
  induction waiters generalizing number with
  | nil => exact .nil
  | cons waiter rest ih =>
    unfold wakeNumber
    split
    · rename_i parked
      cases number with
      | zero => exact .cons (.woken waiter parked) (List.forall₂_same.mpr fun other _ => .still other)
      | succ before => exact .cons (.still waiter) (ih before)
    · exact .cons (.still waiter) (ih number)

private theorem countP_wakeNumber {number : Nat} {waiters : List Waiter}
    (enough : number < waiters.countP (·.stance = .parked)) :
    (wakeNumber number waiters).countP (·.stance = .parked) + 1 = waiters.countP (·.stance = .parked) := by
  induction waiters generalizing number with
  | nil => simp at enough
  | cons waiter rest ih =>
    unfold wakeNumber
    by_cases parked : waiter.stance = .parked
    · rw [List.countP_cons_of_pos (by simpa using parked)] at enough ⊢
      rw [if_pos parked]
      cases number with
      | zero => rw [List.countP_cons_of_neg (by simp)]
      | succ before =>
        rw [List.countP_cons_of_pos (by simpa using parked), ih (Nat.lt_of_succ_lt_succ enough)]
    · rw [List.countP_cons_of_neg (by simpa using parked)] at enough ⊢
      rw [if_neg parked, List.countP_cons_of_neg (by simpa using parked), ih enough]

theorem signal_rouses (now : Instant) (set : WaitSet) (pick : Nat) : set.Rouses now (set.signal pick) :=
  wakeNumber_roused now _ _

private theorem rouses_map {change : Waiter → Waiter} (roused : ∀ waiter, Waiter.Roused now waiter (change waiter)) :
    set.Rouses now ⟨set.waiters.map change⟩ :=
  List.forall₂_map_right_iff.mpr (List.forall₂_same.mpr fun waiter _ => roused waiter)

theorem broadcast_rouses (now : Instant) (set : WaitSet) : set.Rouses now set.broadcast := by
  refine rouses_map fun waiter => ?_
  split
  · exact .woken waiter ‹_›
  · exact .still waiter

theorem rouse_rouses (now : Instant) (set : WaitSet) (thread : ThreadKey) :
    set.Rouses now (set.rouse thread) := by
  refine rouses_map fun waiter => ?_
  split
  · rename_i own
    exact .woken waiter own.2
  · exact .still waiter

theorem expire_rouses (now : Instant) (set : WaitSet) (thread : ThreadKey) :
    set.Rouses now (set.expire now thread) := by
  refine rouses_map fun waiter => ?_
  split
  · rename_i own
    exact .expired waiter (Bool.and_eq_true_iff.mp own.2).2
  · exact .still waiter

theorem overtake_rouses (now : Instant) (set : WaitSet) (thread : ThreadKey) :
    set.Rouses now (set.overtake now thread) := by
  refine rouses_map fun waiter => ?_
  split
  · rename_i own
    exact .expired waiter own.2.2
  · exact .still waiter

theorem Rouses.mem (rouses : set.Rouses now after) {waiter : Waiter} (member : waiter ∈ after.waiters) :
    ∃ before ∈ set.waiters, Waiter.Roused now before waiter := by
  unfold Rouses at rouses
  generalize set.waiters = left, after.waiters = right at rouses member
  induction rouses with
  | nil => cases member
  | @cons before current _ _ roused _ ih =>
    rcases List.mem_cons.mp member with rfl | later
    · exact ⟨before, List.mem_cons_self, roused⟩
    · obtain ⟨found, present, same⟩ := ih later
      exact ⟨found, List.mem_cons_of_mem before present, same⟩

theorem Rouses.keys (rouses : set.Rouses now after) :
    after.waiters.map (fun waiter => (waiter.thread, waiter.deadline)) =
      set.waiters.map fun waiter => (waiter.thread, waiter.deadline) := by
  unfold Rouses at rouses
  generalize set.waiters = left, after.waiters = right at rouses
  induction rouses with
  | nil => rfl
  | cons roused _ ih =>
    simp only [List.map_cons, ih, List.cons.injEq, and_true]
    cases roused <;> rfl

theorem threads_eq (set : WaitSet) : set.waiters.map (·.thread) =
    (set.waiters.map fun waiter => (waiter.thread, waiter.deadline)).map Prod.fst := by
  rw [List.map_map]
  rfl

theorem Rouses.apart (rouses : set.Rouses now after) (apart : set.Apart) : after.Apart := by
  unfold Apart at apart ⊢
  rwa [threads_eq, rouses.keys, ← threads_eq]

theorem Rouses.parkedCount_le (rouses : set.Rouses now after) : after.parkedCount ≤ set.parkedCount := by
  unfold Rouses at rouses
  unfold parkedCount
  generalize set.waiters = left, after.waiters = right at rouses
  induction rouses with
  | nil => exact Nat.le_refl _
  | cons roused _ ih =>
    simp only [List.countP_cons]
    cases roused with
    | still => omega
    | woken | expired => simp; omega

theorem Rouses.recheckingCount_le (rouses : set.Rouses now after) :
    set.recheckingCount ≤ after.recheckingCount := by
  have fewer := rouses.parkedCount_le
  have same := rouses.length_eq
  have before := set.counts_add
  have now := after.counts_add
  omega

/-- A signal that finds somebody parked makes one more waiter look again. -/
theorem recheckingCount_signal (set : WaitSet) (pick : Nat) (some : 0 < set.parkedCount) :
    (set.signal pick).recheckingCount = set.recheckingCount + 1 := by
  have fewer : (set.signal pick).parkedCount + 1 = set.parkedCount :=
    countP_wakeNumber (Nat.mod_lt pick some)
  have same := (signal_rouses .zero set pick).length_eq
  have before := set.counts_add
  have now := (set.signal pick).counts_add
  omega

theorem parkedCount_leave (set : WaitSet) (thread : ThreadKey) :
    (set.leave thread).parkedCount ≤ set.parkedCount := List.filter_sublist.countP_le

theorem Apart.recheckingCount_leave (apart : set.Apart) (thread : ThreadKey) :
    set.recheckingCount ≤ (set.leave thread).recheckingCount + 1 := by
  have once := List.nodup_iff_count.mp apart thread
  rw [List.count_eq_countP, List.countP_map] at once
  have split := List.countP_eq_countP_filter_add set.waiters (·.stance ≠ .parked) (·.thread ≠ thread)
  have few : (set.waiters.filter fun waiter => !decide (waiter.thread ≠ thread)).countP (·.stance ≠ .parked) ≤
      set.waiters.countP ((· == thread) ∘ (·.thread)) := by
    refine Nat.le_trans List.countP_le_length ?_
    rw [← List.countP_eq_length_filter]
    refine List.countP_mono_left fun waiter _ own => ?_
    simpa using own
  simp only [recheckingCount, leave]
  omega

theorem Apart.leave (apart : set.Apart) (thread : ThreadKey) : (set.leave thread).Apart :=
  (List.filter_sublist.map _).nodup apart

theorem Apart.park (apart : set.Apart) (thread : ThreadKey) (deadline : Option Instant) :
    (set.park thread deadline).Apart := by
  unfold Apart WaitSet.park
  rw [List.map_append, List.nodup_append]
  refine ⟨apart.leave thread, by simp, ?_⟩
  intro other member own present same
  obtain ⟨waiter, left, rfl⟩ := List.mem_map.mp member
  have different := (List.mem_filter.mp left).2
  simp only [List.map_cons, List.map_nil, List.mem_singleton] at present
  simp [same, present] at different

theorem mem_threads_leave {other : ThreadKey} : other ∈ (set.leave thread).waiters.map (·.thread) ↔
    other ∈ set.waiters.map (·.thread) ∧ other ≠ thread := by
  simp only [leave, List.mem_map, List.mem_filter, decide_eq_true_eq]
  constructor
  · rintro ⟨waiter, ⟨member, different⟩, rfl⟩
    exact ⟨⟨waiter, member, rfl⟩, different⟩
  · rintro ⟨⟨waiter, member, rfl⟩, different⟩
    exact ⟨waiter, ⟨member, different⟩, rfl⟩

theorem mem_threads_park {other : ThreadKey} {deadline : Option Instant} :
    other ∈ (set.park thread deadline).waiters.map (·.thread) ↔
      other ∈ set.waiters.map (·.thread) ∨ other = thread := by
  rw [park, List.map_append, List.mem_append, mem_threads_leave]
  simp only [List.map_cons, List.map_nil, List.mem_singleton]
  by_cases same : other = thread <;> simp [same]

theorem stance?_eq_some {stance : Stance} (found : set.stance? thread = some stance) :
    ∃ waiter ∈ set.waiters, waiter.thread = thread ∧ waiter.stance = stance := by
  obtain ⟨waiter, present, same⟩ := Option.map_eq_some_iff.mp found
  exact ⟨waiter, List.mem_of_find?_eq_some present, by simpa using List.find?_some present, same⟩

end TaskKernel.Sync.WaitSet
