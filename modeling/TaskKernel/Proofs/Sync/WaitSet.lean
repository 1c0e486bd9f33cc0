import TaskKernel.Sync.WaitSet

/-!
Deadlines that have passed, and wait sets in which nobody is parked. Nothing but parking brings a parked
waiter back.
-/
namespace TaskKernel.Sync

theorem overdue_later {deadline : Option Instant} {now next : Instant} (passed : now ≤ next)
    (overdue : deadline.any (· ≤ now) = true) : deadline.any (· ≤ next) = true := by
  cases deadline with
  | none => simp at overdue
  | some instant =>
    simp only [Option.any_some, decide_eq_true_eq] at overdue ⊢
    exact Instant.le_trans overdue passed

theorem overdue_of_limit {deadline : Option Instant} {now : Instant}
    (overdue : (limit deadline).any (· ≤ now) = true) : deadline.any (· ≤ now) = true := by
  cases deadline with
  | none => exact overdue
  | some instant =>
    simp only [limit, Option.any_filter, Option.any_some, Bool.and_eq_true] at overdue
    exact overdue.2

namespace WaitSet

variable {set : WaitSet}

def AllAwake (set : WaitSet) : Prop := ∀ waiter ∈ set.waiters, waiter.stance ≠ .parked

theorem broadcast_allAwake (set : WaitSet) : set.broadcast.AllAwake := by
  intro waiter member
  obtain ⟨before, _, same⟩ := List.mem_map.mp member
  subst same
  split
  · simp
  · assumption

theorem AllAwake.stance?_ne (awake : set.AllAwake) (thread : ThreadKey) :
    set.stance? thread ≠ some .parked := by
  intro parked
  obtain ⟨waiter, found, stance⟩ := Option.map_eq_some_iff.mp parked
  exact awake waiter (List.mem_of_find?_eq_some found) stance

theorem AllAwake.leave (awake : set.AllAwake) (thread : ThreadKey) : (set.leave thread).AllAwake :=
  fun waiter member => awake waiter (List.mem_filter.mp member).1

theorem AllAwake.rouse (awake : set.AllAwake) (thread : ThreadKey) : (set.rouse thread).AllAwake := by
  intro waiter member
  obtain ⟨before, present, same⟩ := List.mem_map.mp member
  subst same
  split
  · simp
  · exact awake before present

theorem AllAwake.expire (awake : set.AllAwake) (now : Instant) (thread : ThreadKey) :
    (set.expire now thread).AllAwake := by
  intro waiter member
  obtain ⟨before, present, same⟩ := List.mem_map.mp member
  subst same
  split
  · simp
  · exact awake before present

end WaitSet

end TaskKernel.Sync
