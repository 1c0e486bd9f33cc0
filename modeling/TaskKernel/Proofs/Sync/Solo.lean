import TaskKernel.Sync.WaitSet

/-!
A condition on which no more than one thread ever waits.
-/
namespace TaskKernel.Sync

/-- A parked thread is woken. -/
def Stance.woke : Stance → Stance
  | .parked => .woken
  | other => other

/-- A wait: its deadline, and where the thread stands. -/
abbrev Wait : Type := Option Instant × Stance

def Wait.woke (wait : Wait) : Wait := (wait.1, wait.2.woke)

/-- The wait once its deadline may have been noticed. -/
def Wait.late (now : Instant) (wait : Wait) : Wait :=
  (wait.1, if wait.2 = .parked ∧ wait.1.any (· ≤ now) = true then .expired else wait.2)

namespace WaitSet

/-- The set with the wait of one thread, if it waits. -/
def solo (thread : ThreadKey) : Option Wait → WaitSet
  | none => ⟨[]⟩
  | some (deadline, stance) => ⟨[⟨thread, deadline, stance⟩]⟩

variable (thread : ThreadKey) (wait : Option Wait)

theorem solo_stance : (solo thread wait).stance? thread = wait.map (·.2) := by
  cases wait <;> simp [solo, stance?]

theorem solo_leave : (solo thread wait).leave thread = solo thread none := by
  cases wait <;> simp [solo, leave]

theorem solo_park (deadline : Option Instant) :
    (solo thread wait).park thread deadline = solo thread (some (deadline, .parked)) := by
  rw [park, solo_leave]
  rfl

theorem solo_signal : (solo thread wait).signal 0 = solo thread (wait.map Wait.woke) := by
  cases wait with
  | none => rfl
  | some wait =>
    obtain ⟨deadline, stance⟩ := wait
    cases stance <;> rfl

theorem solo_broadcast : (solo thread wait).broadcast = solo thread (wait.map Wait.woke) := by
  cases wait with
  | none => rfl
  | some wait =>
    obtain ⟨deadline, stance⟩ := wait
    cases stance <;> rfl

theorem solo_rouse : (solo thread wait).rouse thread = solo thread (wait.map Wait.woke) := by
  cases wait with
  | none => rfl
  | some wait =>
    obtain ⟨deadline, stance⟩ := wait
    cases stance <;> simp [solo, rouse, Wait.woke, Stance.woke]

theorem solo_expire (now : Instant) :
    (solo thread wait).expire now thread = solo thread (wait.map (Wait.late now)) := by
  cases wait with
  | none => rfl
  | some wait =>
    obtain ⟨deadline, stance⟩ := wait
    by_cases overdue : stance = .parked ∧ deadline.any (· ≤ now) = true <;>
      simp [solo, expire, Waiter.isOverdue, Wait.late, overdue]

end WaitSet

end TaskKernel.Sync
