import TaskKernel.Proofs.Sync.Calls
import TaskKernel.Proofs.Time.Instant
import TaskKernel.Sync.Semaphore

/-!
Takers that wait for units of a semaphore. As long as one of them is parked there is, for every unit,
another one that is about to look, so no unit is left to a taker that nobody wakes.
-/
namespace TaskKernel.Sync.Semaphore

theorem tryTake_cases (semaphore : Semaphore) :
    (semaphore.count = 0 ∧ semaphore.tryTake = (false, semaphore)) ∨
    ∃ after, semaphore.tryTake = (true, after) ∧ after.count + 1 = semaphore.count ∧
      after.waiting = semaphore.waiting := by
  by_cases spent : semaphore.count = 0
  · exact .inl ⟨spent, if_pos spent⟩
  · exact .inr ⟨_, if_neg spent, Nat.sub_add_cancel (Nat.pos_of_ne_zero spent), rfl⟩

theorem take_cases {semaphore : Semaphore} {call : Call}
    (awake : semaphore.waiting.stance? call.thread ≠ some .parked) :
    (∃ after, semaphore.take call.thread call.deadline = (.taken, after) ∧
      after.count + 1 = semaphore.count ∧ after.waiting = semaphore.waiting.leave call.thread) ∨
    (semaphore.count = 0 ∧
      ((semaphore.waiting.stance? call.thread = some .expired ∧
        semaphore.take call.thread call.deadline =
          (.gaveUp, { semaphore with waiting := semaphore.waiting.leave call.thread })) ∨
      semaphore.take call.thread call.deadline =
        (.parked, { semaphore with
          waiting := semaphore.waiting.park call.thread (limit call.deadline) }))) := by
  unfold take
  split
  · contradiction
  · by_cases spent : semaphore.count = 0
    · rw [if_pos spent]
      by_cases late : semaphore.waiting.stance? call.thread = some .expired
      · exact .inr ⟨spent, .inl ⟨late, if_pos late⟩⟩
      · exact .inr ⟨spent, .inr (if_neg late)⟩
    · rw [if_neg spent]
      exact .inl ⟨_, rfl, Nat.sub_add_cancel (Nat.pos_of_ne_zero spent), rfl⟩

theorem post_cases (semaphore : Semaphore) (pick : Nat) :
    (semaphore.count = mostUnits ∧ ∃ failure, semaphore.post pick = .error failure ∧
      failure.kind = .badValue) ∨
    ∃ after, semaphore.post pick = .ok after ∧ after.count = semaphore.count + 1 ∧
      after.waiting = semaphore.waiting.signal pick := by
  by_cases room : semaphore.count + 1 ≤ mostUnits
  · exact .inr ⟨_, dif_pos room, rfl, rfl⟩
  · have most := semaphore.count_le
    exact .inl ⟨by omega, _, dif_neg room, rfl⟩

/-- Let a taker that has been woken find its deadline passed before it looks. -/
def overtake (semaphore : Semaphore) (now : Instant) (thread : ThreadKey) : Semaphore :=
  { semaphore with waiting := semaphore.waiting.overtake now thread }

/-- A semaphore with the calls that wait for a unit. -/
structure Session where
  now : Instant
  semaphore : Semaphore
  calls : List Call

/-- Takers that block begin a call or look again in it; the deadline of one that has been woken may overtake
it before it looks. -/
inductive Session.Move
  | enter (call : Call)
  | recheck (thread : ThreadKey)
  | tryTake
  | post (pick : Nat)
  | read
  | rouse (thread : ThreadKey)
  | expire (thread : ThreadKey)
  | overtake (thread : ThreadKey)
  | passTo (now : Instant)

/-- What a thread comes back with. -/
inductive Session.Outcome
  | took (call : Call)
  | gaveUp (call : Call)
  | tried (success : Bool)
  | posted
  | refused (failure : Failure)
  | counted (count : Nat)

namespace Session

def start (now : Instant) (semaphore : Semaphore) : Session := ⟨now, semaphore, []⟩

/-- The call in which a taker looks. A taker is in one call at a time, and does not look while it is
parked. -/
def looking? (session : Session) : Move → Option Call
  | .enter call => if session.calls.any (·.thread = call.thread) then none else some call
  | .recheck thread =>
    if session.semaphore.waiting.stance? thread = some .parked then none
    else session.calls.find? (·.thread = thread)
  | .tryTake | .post _ | .read | .rouse _ | .expire _ | .overtake _ | .passTo _ => none

/-- A call comes back unless it parks. -/
def look (session : Session) (call : Call) : Session :=
  let (taking, semaphore) := session.semaphore.take call.thread call.deadline
  { session with
    semaphore
    calls := others session.calls call.thread ++ if taking = .parked then [call] else [] }

/-- What is not the look of a taker that blocks. -/
def aside (session : Session) : Move → Session
  | .enter _ | .recheck _ | .read => session
  | .tryTake => { session with semaphore := session.semaphore.tryTake.2 }
  | .post pick =>
    match session.semaphore.post pick with
    | .ok semaphore => { session with semaphore }
    | .error _ => session
  | .rouse thread => { session with semaphore := session.semaphore.rouse thread }
  | .expire thread => { session with semaphore := session.semaphore.expire session.now thread }
  | .overtake thread => { session with semaphore := session.semaphore.overtake session.now thread }
  | .passTo now => if session.now ≤ now then { session with now } else session

/-- Make a move. A move that cannot be made changes nothing. -/
def move (session : Session) (move : Move) : Session :=
  match session.looking? move with
  | some call => session.look call
  | none => session.aside move

/-- What a move comes to for the thread that makes it, unless the thread waits. -/
def outcome? (session : Session) (move : Move) : Option Outcome :=
  match session.looking? move, move with
  | some call, _ =>
    match (session.semaphore.take call.thread call.deadline).1 with
    | .taken => some (.took call)
    | .gaveUp => some (.gaveUp call)
    | .parked => none
  | none, .tryTake => some (.tried session.semaphore.tryTake.1)
  | none, .post pick =>
    match session.semaphore.post pick with
    | .ok _ => some .posted
    | .error failure => some (.refused failure)
  | none, .read => some (.counted session.semaphore.count)
  | none, _ => none

def moves (session : Session) (list : List Move) : Session := list.foldl move session

/-- What a move can do, and what comes of it. -/
inductive Step (session : Session) : Session → Option Outcome → Prop
  | took (call : Call) (semaphore : Semaphore) (count : semaphore.count + 1 = session.semaphore.count)
      (waiting : semaphore.waiting = session.semaphore.waiting.leave call.thread) :
      Step session ⟨session.now, semaphore, others session.calls call.thread⟩ (some (.took call))
  | gaveUp (call : Call) (spent : session.semaphore.count = 0)
      (overdue : call.deadline.any (· ≤ session.now) = true) :
      Step session
        ⟨session.now,
          { session.semaphore with waiting := session.semaphore.waiting.leave call.thread },
          others session.calls call.thread⟩
        (some (.gaveUp call))
  | parked (call : Call) (spent : session.semaphore.count = 0) :
      Step session
        ⟨session.now,
          { session.semaphore with
            waiting := session.semaphore.waiting.park call.thread (limit call.deadline) },
          others session.calls call.thread ++ [call]⟩
        none
  | tookAtOnce (semaphore : Semaphore) (count : semaphore.count + 1 = session.semaphore.count)
      (waiting : semaphore.waiting = session.semaphore.waiting) :
      Step session { session with semaphore } (some (.tried true))
  | failed (spent : session.semaphore.count = 0) : Step session session (some (.tried false))
  | posted (semaphore : Semaphore) (pick : Nat) (count : semaphore.count = session.semaphore.count + 1)
      (waiting : semaphore.waiting = session.semaphore.waiting.signal pick) :
      Step session { session with semaphore } (some .posted)
  | refused (failure : Failure) (full : session.semaphore.count = mostUnits)
      (kind : failure.kind = .badValue) : Step session session (some (.refused failure))
  | counted : Step session session (some (.counted session.semaphore.count))
  | roused (next : Instant) (waiting : WaitSet)
      (rouses : session.semaphore.waiting.Rouses session.now waiting) (passed : session.now ≤ next) :
      Step session ⟨next, { session.semaphore with waiting }, session.calls⟩ none

variable {session after : Session} {outcome : Option Outcome} {call : Call}

private theorem awake_of_looking (carries : session.semaphore.waiting.Carries session.calls session.now)
    {move : Move} (looks : session.looking? move = some call) :
    session.semaphore.waiting.stance? call.thread ≠ some .parked ∧
      (session.semaphore.waiting.stance? call.thread = some .expired →
        call.deadline.any (· ≤ session.now) = true) := by
  cases move with
  | enter entered =>
    simp only [looking?] at looks
    split at looks
    · cases looks
    · rename_i alone
      cases looks
      have absent := carries.stance?_of_fresh call.thread (by simpa using alone)
      simp [absent]
  | recheck thread =>
    simp only [looking?] at looks
    split at looks
    · cases looks
    · rename_i awake
      obtain rfl : call.thread = thread := by simpa using List.find?_some looks
      refine ⟨awake, fun late => ?_⟩
      obtain ⟨found, present, own, overdue⟩ := carries.call_of_stance late
      obtain rfl := carries.same_call present (List.mem_of_find?_eq_some looks) own
      exact overdue rfl
  | tryTake | post | read | rouse | expire | overtake | passTo => cases looks

private theorem look_step (carries : session.semaphore.waiting.Carries session.calls session.now) {move : Move}
    (looks : session.looking? move = some call) :
    session.Step (session.look call) (session.outcome? move) := by
  obtain ⟨awake, overdue⟩ := awake_of_looking carries looks
  rcases take_cases awake with ⟨semaphore, taken, count, waiting⟩ | ⟨spent, ⟨late, gaveUp⟩ | parked⟩
  · simp only [look, outcome?, looks, taken, reduceCtorEq, if_false, List.append_nil]
    exact .took call semaphore count waiting
  · simp only [look, outcome?, looks, gaveUp, reduceCtorEq, if_false, List.append_nil]
    exact .gaveUp call spent (overdue late)
  · simp only [look, outcome?, looks, parked, if_true]
    exact .parked call spent

private theorem aside_step (session : Session) {move : Move} (blind : session.looking? move = none) :
    session.Step (session.aside move) (session.outcome? move) := by
  have passed := Instant.le_refl session.now
  cases move with
  | enter | recheck =>
    simp only [aside, outcome?, blind]
    exact .roused session.now _ (.refl _ _) passed
  | tryTake =>
    simp only [aside, outcome?, blind]
    rcases session.semaphore.tryTake_cases with ⟨spent, tried⟩ | ⟨semaphore, tried, count, waiting⟩
    · rw [tried]
      exact .failed spent
    · rw [tried]
      exact .tookAtOnce semaphore count waiting
  | post pick =>
    simp only [aside, outcome?, blind]
    rcases session.semaphore.post_cases pick with ⟨full, failure, posted, kind⟩ |
      ⟨semaphore, posted, count, waiting⟩
    · rw [posted]
      exact .refused failure full kind
    · rw [posted]
      exact .posted semaphore pick count waiting
  | read =>
    simp only [aside, outcome?, blind]
    exact .counted
  | rouse thread => exact .roused session.now _ (WaitSet.rouse_rouses _ _ thread) passed
  | expire thread => exact .roused session.now _ (WaitSet.expire_rouses _ _ thread) passed
  | overtake thread => exact .roused session.now _ (WaitSet.overtake_rouses _ _ thread) passed
  | passTo now =>
    simp only [aside, outcome?, blind]
    split
    · rename_i later
      exact .roused now _ (.refl _ _) later
    · exact .roused session.now _ (.refl _ _) passed

theorem move_step (carries : session.semaphore.waiting.Carries session.calls session.now) (move : Move) :
    session.Step (session.move move) (session.outcome? move) := by
  unfold Session.move
  split
  · exact look_step carries ‹_›
  · exact session.aside_step ‹_›

/-- What is so of the takers all along. -/
structure Attended (session : Session) : Prop where
  carries : session.semaphore.waiting.Carries session.calls session.now
  covered : 0 < session.semaphore.waiting.parkedCount →
    session.semaphore.count ≤ session.semaphore.waiting.recheckingCount

theorem start_attended (now : Instant) {initial : Nat} {semaphore : Semaphore}
    (created : create initial = .ok semaphore) : (start now semaphore).Attended := by
  unfold create at created
  split at created
  · cases created
    exact ⟨WaitSet.empty_carries now, fun parked => absurd parked (Nat.lt_irrefl 0)⟩
  · cases created

theorem Attended.step (attended : session.Attended) (step : session.Step after outcome) : after.Attended := by
  obtain ⟨carries, covered⟩ := attended
  cases step with
  | took call semaphore count waiting =>
    refine ⟨waiting ▸ carries.leave call.thread, fun parked => ?_⟩
    rw [waiting] at parked ⊢
    have all := covered (Nat.lt_of_lt_of_le parked (WaitSet.parkedCount_leave _ _))
    have most := carries.apart.recheckingCount_leave call.thread
    show semaphore.count ≤ _
    omega
  | gaveUp call spent =>
    exact ⟨carries.leave call.thread, fun _ => Nat.le_trans (Nat.le_of_eq spent) (Nat.zero_le _)⟩
  | parked call spent =>
    exact ⟨carries.park call, fun _ => Nat.le_trans (Nat.le_of_eq spent) (Nat.zero_le _)⟩
  | tookAtOnce semaphore count waiting =>
    refine ⟨waiting ▸ carries, fun parked => ?_⟩
    rw [waiting] at parked ⊢
    have all := covered parked
    show semaphore.count ≤ _
    omega
  | posted semaphore pick count waiting =>
    have rouses := session.semaphore.waiting.signal_rouses session.now pick
    refine ⟨waiting ▸ carries.roused rouses (Instant.le_refl _), fun parked => ?_⟩
    rw [waiting] at parked ⊢
    -- If somebody is parked even now, the signal has woken somebody else, who answers for the new unit.
    have before := Nat.lt_of_lt_of_le parked rouses.parkedCount_le
    have all := covered before
    have more := session.semaphore.waiting.recheckingCount_signal pick before
    show semaphore.count ≤ _
    omega
  | roused next waiting rouses passed =>
    refine ⟨carries.roused rouses passed, fun parked => ?_⟩
    exact Nat.le_trans (covered (Nat.lt_of_lt_of_le parked rouses.parkedCount_le)) rouses.recheckingCount_le
  | failed | refused | counted => exact ⟨carries, covered⟩

theorem Attended.move (attended : session.Attended) (move : Move) : (session.move move).Attended :=
  attended.step (move_step attended.carries move)

theorem Attended.moves (attended : session.Attended) (list : List Move) : (session.moves list).Attended := by
  induction list generalizing session with
  | nil => exact attended
  | cons move rest ih => exact ih (attended.move move)

private theorem Attended.takes (attended : session.Attended) (member : call ∈ session.calls)
    (awake : session.semaphore.waiting.stance? call.thread ≠ some .parked)
    (units : 0 < session.semaphore.count) : session.outcome? (.recheck call.thread) = some (.took call) := by
  have looks : session.looking? (.recheck call.thread) = some call := by
    simp only [looking?, if_neg awake]
    cases found : session.calls.find? (·.thread = call.thread) with
    | none =>
      have absent := List.find?_eq_none.mp found call member
      simp at absent
    | some other =>
      have own : other.thread = call.thread := by simpa using List.find?_some found
      rw [attended.carries.same_call (List.mem_of_find?_eq_some found) member own]
  rcases take_cases awake with ⟨semaphore, taken, _⟩ | ⟨spent, _⟩
  · simp only [outcome?, looks, taken]
  · exact absurd spent (Nat.ne_of_gt units)

/-- What is so of the takers of a semaphore, at every moment. -/
structure Wakeful (session : Session) : Prop where
  waits : (session.semaphore.waiting.waiters.map Waiter.key).Perm (session.calls.map Call.key)
  -- While a taker is parked, as many others as there are units are about to look.
  covered : 0 < session.semaphore.waiting.parkedCount →
    session.semaphore.count ≤ session.semaphore.waiting.recheckingCount
  unstuck : ¬ (0 < session.semaphore.count ∧ 0 < session.semaphore.waiting.parkedCount ∧
    session.semaphore.waiting.recheckingCount = 0)
  takes : ∀ call ∈ session.calls, session.semaphore.waiting.stance? call.thread ≠ some .parked →
    0 < session.semaphore.count → session.outcome? (.recheck call.thread) = some (.took call)

/-- No wake-up is lost, in every interleaving of takers and those who post. A signal that wakes several
takers is one that wakes one, and wake-ups for no reason right after it. -/
theorem every_unit_has_a_taker {initial : Nat} {semaphore : Semaphore}
    (created : create initial = .ok semaphore) (now : Instant) (list : List Move) :
    ((start now semaphore).moves list).Wakeful := by
  have attended := (start_attended now created).moves list
  exact {
    waits := attended.carries.waits
    covered := attended.covered
    unstuck := fun ⟨units, parked, nobody⟩ => by
      have all := attended.covered parked
      omega
    takes := fun _ member awake units => attended.takes member awake units }

/-- Two takers are parked when a unit comes. One is woken for it, and the other waits on. -/
theorem posted_unit_has_a_taker : ∃ semaphore, create 1 = .ok semaphore ∧
    let session := (start .zero semaphore).moves
      [.tryTake, .enter ⟨7, none⟩, .enter ⟨8, some .zero⟩, .post 1]
    session.semaphore.count = 1 ∧ session.semaphore.waiting.parkedCount = 1 ∧ session.Wakeful :=
  have created : create 1 = .ok ⟨1, WaitSet.empty, by decide⟩ := rfl
  ⟨_, created, by decide, by decide, every_unit_has_a_taker created .zero _⟩

end Session

end TaskKernel.Sync.Semaphore
