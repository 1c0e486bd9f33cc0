import TaskKernel.Proofs.Sync.Takers

/-!
The units of a semaphore. Those that are left and those that have been taken are, at every moment, the ones
it began with and the ones that have been posted.
-/
namespace TaskKernel.Sync.Semaphore.Session

variable {session after : Session}

def Outcome.isTaken : Outcome → Bool
  | took _ | tried true => true
  | gaveUp _ | tried false | posted | refused _ | counted _ => false

def Outcome.isPosted : Outcome → Bool
  | posted => true
  | took _ | gaveUp _ | tried _ | refused _ | counted _ => false

/-- How many units have been taken. -/
def unitsTaken (past : List Outcome) : Nat := past.countP Outcome.isTaken

/-- How many units have been posted. -/
def unitsPosted (past : List Outcome) : Nat := past.countP Outcome.isPosted

/-- What the threads have come back with in a list of moves, in the order of time. -/
def outcomes (session : Session) : List Move → List Outcome
  | [] => []
  | move :: rest => (session.outcome? move).toList ++ (session.move move).outcomes rest

/-- The count before and after a move agrees with what comes of it. A taker that gives up has found no unit,
after its deadline. -/
def Accounts (session after : Session) : Option Outcome → Prop
  | some (.took _) | some (.tried true) =>
    0 < session.semaphore.count ∧ after.semaphore.count = session.semaphore.count - 1
  | some .posted =>
    session.semaphore.count < mostUnits ∧ after.semaphore.count = session.semaphore.count + 1
  | some (.gaveUp call) =>
    session.semaphore.count = 0 ∧ after.semaphore.count = 0 ∧
      call.deadline.any (· ≤ session.now) = true
  | some (.tried false) => session.semaphore.count = 0 ∧ after.semaphore.count = 0
  | some (.refused failure) =>
    session.semaphore.count = mostUnits ∧ after.semaphore.count = mostUnits ∧ failure.kind = .badValue
  | some (.counted count) =>
    count = session.semaphore.count ∧ after.semaphore.count = session.semaphore.count
  | none => after.semaphore.count = session.semaphore.count

private theorem Step.accounts {outcome : Option Outcome} (step : session.Step after outcome) :
    session.Accounts after outcome := by
  cases step with
  | took call semaphore count =>
    show 0 < session.semaphore.count ∧ semaphore.count = session.semaphore.count - 1
    omega
  | tookAtOnce semaphore count =>
    show 0 < session.semaphore.count ∧ semaphore.count = session.semaphore.count - 1
    omega
  | gaveUp call spent overdue => exact ⟨spent, spent, overdue⟩
  | parked => rfl
  | failed spent => exact ⟨spent, spent⟩
  | posted semaphore pick count =>
    exact ⟨Nat.lt_of_lt_of_le (Nat.lt_of_lt_of_eq (Nat.lt_succ_self _) count.symm) semaphore.count_le, count⟩
  | refused failure full kind => exact ⟨full, full, kind⟩
  | counted => exact ⟨rfl, rfl⟩
  | roused => rfl

private theorem Step.balanced {outcome : Option Outcome} (step : session.Step after outcome) :
    after.semaphore.count + unitsTaken outcome.toList = session.semaphore.count + unitsPosted outcome.toList := by
  cases step with
  | took call semaphore count => exact count
  | tookAtOnce semaphore count => exact count
  | posted semaphore pick count => exact count
  | gaveUp | parked | failed | refused | counted | roused => rfl

private theorem Attended.balanced (attended : session.Attended) (list : List Move) :
    (session.moves list).semaphore.count + unitsTaken (session.outcomes list) =
      session.semaphore.count + unitsPosted (session.outcomes list) := by
  induction list generalizing session with
  | nil => rfl
  | cons move rest ih =>
    have step := (move_step attended.carries move).balanced
    have later := ih (attended.move move)
    simp only [outcomes, unitsTaken, unitsPosted, List.countP_append] at step later ⊢
    show ((session.move move).moves rest).semaphore.count + _ = _
    omega

private theorem count_create {initial : Nat} {semaphore : Semaphore} (created : create initial = .ok semaphore) :
    semaphore.count = initial := by
  unfold create at created
  split at created <;> cases created
  rfl

/-- A semaphore and what its threads have come back with. -/
structure Balanced (initial : Nat) (session : Session) (past : List Outcome) : Prop where
  balance : session.semaphore.count + unitsTaken past = initial + unitsPosted past
  within : session.semaphore.count ≤ mostUnits
  held : unitsTaken past ≤ initial + unitsPosted past
  outstanding : unitsTaken past - unitsPosted past ≤ initial
  moves : ∀ move, session.Accounts (session.move move) (session.outcome? move)

/-- No unit is lost and none comes from nowhere, in every interleaving of takers and those who post. -/
theorem every_unit_accounted_for {initial : Nat} {semaphore : Semaphore}
    (created : create initial = .ok semaphore) (now : Instant) (list : List Move) :
    Balanced initial ((start now semaphore).moves list) ((start now semaphore).outcomes list) := by
  have attended := start_attended now created
  have balance := attended.balanced list
  rw [start, count_create created] at balance
  exact {
    balance
    within := Semaphore.count_le _
    held := by
      rw [start]
      omega
    outstanding := by
      rw [start]
      omega
    moves := fun move => (move_step (attended.moves list).carries move).accounts }

/-- One taker gets a unit that is posted to another one, which then gives up. -/
theorem stolen_unit_accounted_for : ∃ semaphore, create 0 = .ok semaphore ∧
    let session := start .zero semaphore
    let list : List Move := [.enter ⟨7, some .zero⟩, .post 0, .tryTake, .recheck 7, .expire 7, .recheck 7]
    (session.outcomes list).length = 3 ∧ Balanced 0 (session.moves list) (session.outcomes list) :=
  have created : create 0 = .ok ⟨0, WaitSet.empty, by decide⟩ := rfl
  ⟨_, created, by decide, every_unit_accounted_for created .zero _⟩

end TaskKernel.Sync.Semaphore.Session
