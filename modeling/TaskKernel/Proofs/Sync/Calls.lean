import TaskKernel.Proofs.Selection
import TaskKernel.Proofs.Sync.Waking

/-!
Calls that block. The waiters of a set are the threads of the calls that have not come back, each with the
deadline of its call, and one that has expired has had its deadline passed.
-/
namespace TaskKernel.Sync

/-- A call that blocks until it is served or its deadline has passed. -/
structure Call where
  thread : ThreadKey
  deadline : Option Instant
deriving DecidableEq

/-- How a call is known among the waiters. -/
def Call.key (call : Call) : ThreadKey × Option Instant := (call.thread, limit call.deadline)

def Waiter.key (waiter : Waiter) : ThreadKey × Option Instant := (waiter.thread, waiter.deadline)

/-- The calls of all threads but one. -/
def others (calls : List Call) (thread : ThreadKey) : List Call := calls.filter (·.thread ≠ thread)

namespace WaitSet

/-- The waits of a set, while the clock shows `now`, are those of these calls. -/
structure Carries (set : WaitSet) (calls : List Call) (now : Instant) : Prop where
  apart : set.Apart
  waits : (set.waiters.map Waiter.key).Perm (calls.map Call.key)
  punctual : ∀ waiter ∈ set.waiters, waiter.stance = .expired → waiter.deadline.any (· ≤ now) = true

variable {set after : WaitSet} {calls : List Call} {call other : Call} {now next : Instant}

theorem empty_carries (now : Instant) : empty.Carries [] now := ⟨List.nodup_nil, .refl _, nofun⟩

theorem Carries.roused (carries : set.Carries calls now) (rouses : set.Rouses now after)
    (passed : now ≤ next) : after.Carries calls next where
  apart := rouses.apart carries.apart
  waits := by
    have keys : after.waiters.map Waiter.key = set.waiters.map Waiter.key := rouses.keys
    rw [keys]
    exact carries.waits
  punctual waiter member late := by
    obtain ⟨before, present, roused⟩ := rouses.mem member
    refine overdue_later passed ?_
    cases roused with
    | still => exact carries.punctual waiter present late
    | woken => cases late
    | expired overdue => exact overdue

private theorem map_key_others (calls : List Call) (thread : ThreadKey) :
    (others calls thread).map Call.key = (calls.map Call.key).filter (·.1 ≠ thread) := by
  rw [List.filter_map]
  rfl

private theorem map_key_leave (set : WaitSet) (thread : ThreadKey) :
    (set.leave thread).waiters.map Waiter.key = (set.waiters.map Waiter.key).filter (·.1 ≠ thread) := by
  rw [List.filter_map]
  rfl

theorem Carries.leave (carries : set.Carries calls now) (thread : ThreadKey) :
    (set.leave thread).Carries (others calls thread) now where
  apart := carries.apart.leave thread
  waits := by
    rw [map_key_others, map_key_leave]
    exact carries.waits.filter _
  punctual waiter member := carries.punctual waiter (List.mem_filter.mp member).1

theorem Carries.park (carries : set.Carries calls now) (call : Call) :
    (set.park call.thread (limit call.deadline)).Carries (others calls call.thread ++ [call]) now where
  apart := carries.apart.park call.thread _
  waits := by
    rw [WaitSet.park, List.map_append, List.map_append]
    exact (carries.leave call.thread).waits.append_right _
  punctual waiter member late := by
    rcases List.mem_append.mp member with old | new
    · exact (carries.leave call.thread).punctual waiter old late
    · rw [List.mem_singleton.mp new] at late
      cases late

private theorem Carries.threads (carries : set.Carries calls now) :
    (set.waiters.map (·.thread)).Perm (calls.map (·.thread)) := by
  have same := carries.waits.map Prod.fst
  rwa [List.map_map, List.map_map] at same

theorem Carries.same_call (carries : set.Carries calls now) (one : call ∈ calls) (two : other ∈ calls)
    (same : call.thread = other.thread) : call = other := by
  have apart := carries.threads.nodup_iff.mp carries.apart
  exact eq_of_alike (List.pairwise_map.mp apart) Eq.symm one two same

theorem Carries.call_of_stance (carries : set.Carries calls now) {thread : ThreadKey} {stance : Stance}
    (found : set.stance? thread = some stance) :
    ∃ call ∈ calls, call.thread = thread ∧
      (stance = .expired → call.deadline.any (· ≤ now) = true) := by
  obtain ⟨waiter, member, rfl, rfl⟩ := stance?_eq_some found
  obtain ⟨call, present, same⟩ := List.mem_map.mp (carries.waits.mem_iff.mp (List.mem_map_of_mem member))
  obtain ⟨own, limit⟩ := Prod.mk.inj same
  refine ⟨call, present, own, fun late => overdue_of_limit ?_⟩
  rw [limit]
  exact carries.punctual waiter member late

theorem Carries.stance?_of_fresh (carries : set.Carries calls now) (thread : ThreadKey)
    (fresh : ∀ call ∈ calls, call.thread ≠ thread) : set.stance? thread = none := by
  cases found : set.stance? thread with
  | none => rfl
  | some stance =>
    obtain ⟨call, present, own, _⟩ := carries.call_of_stance found
    exact absurd own (fresh call present)

end WaitSet

end TaskKernel.Sync
