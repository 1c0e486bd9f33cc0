import TaskKernel.Proofs.Timer.Order

/-!
A timer set in use: the timers that have been made, the one that is out, and what has happened. A timer
is in one place only, so no two timers have the same number, and a timer that is gone never comes back.
-/
namespace TaskKernel.TimerSet

variable {σ : Type}

/-- A cancellation says whether it has found its timer. -/
inductive Session.Event (σ : Type)
  | armed (timer : Timer σ)
  | fired (firing : Firing σ)
  | cancelled (id : TimerId) (known : Bool)
  | cleared (entries : List (Armed σ))

/-- A timer set with the timers that have been made and not been handed to it, the one that is out, as its
firing has been counted, and the events in the order of time. -/
structure Session (σ : Type) where
  set : TimerSet σ
  given : Nat
  made : List (Timer σ)
  out : Option (Timer σ)
  history : List (Session.Event σ)

inductive Session.Move (σ : Type)
  | allocate
  | create (interval : Delay) (repeats : Repeat) (action : TimerAction σ) (operation : Operation)
  | arm (id : TimerId) (now : Instant)
  | fire (now : Instant)
  | cancel (id : TimerId)
  | finish (now : Instant)
  | clear

namespace Session

def start (given : Nat) : Session σ := ⟨TimerSet.empty, given, [], none, []⟩

def note (session : Session σ) (event : Event σ) : Session σ :=
  { session with history := session.history ++ [event] }

/-- Make a move. A move that cannot be made changes nothing: one timer is out at a time, and nothing is
cleared while one is. -/
def move (session : Session σ) : Move σ → Session σ
  | .allocate => { session with given := session.given + 1 }
  | .create interval repeats action operation =>
    match Timer.create session.given interval repeats action operation with
    | .error _ => session
    | .ok timer => { session with given := session.given + 1, made := session.made ++ [timer] }
  | .arm id now =>
    match session.made.find? (·.id = id) with
    | none => session
    | some timer =>
      { session with
        set := session.set.arm timer now
        made := session.made.filter (·.id ≠ id) }.note (.armed timer)
  | .fire now =>
    match session.out, session.set.fire? now with
    | none, some (firing, set) => { session with set, out := some firing.timer }.note (.fired firing)
    | _, _ => session
  | .cancel id =>
    { session with set := (session.set.cancel id).2 }.note (.cancelled id (session.set.cancel id).1)
  | .finish now =>
    match session.out with
    | some timer => { session with set := session.set.finish timer now, out := none }
    | none => session
  | .clear =>
    match session.out with
    | some _ => session
    | none => { session with set := session.set.clear }.note (.cleared session.set.armed)

def moves (session : Session σ) (list : List (Move σ)) : Session σ := list.foldl move session

theorem moves_append (session : Session σ) (first second : List (Move σ)) :
    session.moves (first ++ second) = (session.moves first).moves second := List.foldl_append

/-- What a move can do. -/
inductive Step (session : Session σ) : Session σ → Prop
  | stayed : Step session session
  | allocated : Step session { session with given := session.given + 1 }
  | created (timer : Timer σ) (number : timer.id.number = session.given + 1) (unfired : timer.fired = 0)
      (lasting : timer.interval.isZero = false) :
      Step session { session with given := session.given + 1, made := session.made ++ [timer] }
  | armed (timer : Timer σ) (now : Instant) (member : timer ∈ session.made) :
      Step session
        ({ session with
          set := session.set.arm timer now
          made := session.made.filter (·.id ≠ timer.id) }.note (.armed timer))
  | fired (now : Instant) (armed : Armed σ) (idle : session.out = none) (member : armed ∈ session.set.armed)
      (reached : armed.deadline ≤ now) :
      Step session
        ({ session with
          set := session.set.without armed.timer.id
          out := some armed.timer.tick.2 }.note (.fired ⟨armed.timer.tick.2, armed.timer.tick.1⟩))
  | caught (id : TimerId) (marked : session.set.firing = some id) :
      Step session
        ({ session with set := { session.set with firingCancelled := true } }.note (.cancelled id true))
  | cancelled (id : TimerId) (unmarked : session.set.firing ≠ some id) :
      Step session
        ({ session with set := session.set.remove id }.note (.cancelled id (session.set.contains id)))
  | retired (timer : Timer σ) (out : session.out = some timer)
      (caught : session.set.firing = some timer.id ∧ session.set.firingCancelled = true) :
      Step session { session with set := { session.set with firing := none, firingCancelled := false }, out := none }
  | finished (timer : Timer σ) (now : Instant) (out : session.out = some timer)
      (uncaught : ¬ (session.set.firing = some timer.id ∧ session.set.firingCancelled = true)) :
      Step session
        { session with
          set := { session.set with firing := none, firingCancelled := false }.arm timer now
          out := none }
  | cleared (idle : session.out = none) :
      Step session ({ session with set := TimerSet.empty }.note (.cleared session.set.armed))

variable {session after : Session σ} {timer : Timer σ} {id : TimerId}

theorem move_step (session : Session σ) (move : Move σ) : session.Step (session.move move) := by
  cases move with
  | allocate => exact .allocated
  | create interval repeats action operation =>
    simp only [Session.move, Timer.create]
    by_cases zero : interval.isZero = true
    · rw [if_pos zero]
      exact .stayed
    · rw [if_neg zero]
      exact .created _ rfl rfl (Bool.eq_false_iff.mpr zero)
  | arm id now =>
    simp only [Session.move]
    split
    · exact .stayed
    · rename_i timer found
      obtain rfl : timer.id = id := by simpa using List.find?_some found
      exact .armed timer now (List.mem_of_find?_eq_some found)
  | fire now =>
    simp only [Session.move]
    split
    · rename_i firing set idle fired
      obtain ⟨armed, member, reached, _, rfl, rfl⟩ := fire?_eq_some fired
      exact .fired now armed idle member reached
    · exact .stayed
  | cancel id =>
    simp only [Session.move, cancel]
    split
    · rename_i marked
      exact .caught id marked
    · rename_i unmarked
      exact .cancelled id unmarked
  | finish now =>
    simp only [Session.move, finish]
    split
    · rename_i timer out
      split
      · exact .retired timer out ‹_›
      · exact .finished timer now out ‹_›
    · exact .stayed
  | clear =>
    simp only [Session.move]
    split
    · exact .stayed
    · exact .cleared ‹_›

theorem moves_keep {kept : Session σ → Prop}
    (step : ∀ session after, kept session → session.Step after → kept after)
    (initial : kept session) (list : List (Move σ)) : kept (session.moves list) := by
  induction list generalizing session with
  | nil => exact initial
  | cons move rest ih => exact ih (step _ _ initial (session.move_step move))

theorem Step.history (step : session.Step after) : session.history <+: after.history := by
  cases step with
  | stayed | allocated | created | retired | finished => exact List.prefix_rfl
  | armed | fired | caught | cancelled | cleared => exact List.prefix_append _ _

theorem moves_history (session : Session σ) (list : List (Move σ)) :
    session.history <+: (session.moves list).history := by
  let kept (after : Session σ) : Prop := session.history <+: after.history
  have step (before after : Session σ) (early : kept before) (step : before.Step after) : kept after :=
    early.trans step.history
  exact moves_keep step List.prefix_rfl list

@[simp] def Event.tick? : Event σ → Option Tick
  | fired firing => some firing.tick
  | armed _ | cancelled .. | cleared _ => none

/-- The ticks that have been produced, in the order of time. -/
def ticks (history : List (Event σ)) : List Tick := history.filterMap Event.tick?

@[simp] theorem ticks_append (history : List (Event σ)) (event : Event σ) :
    ticks (history ++ [event]) = ticks history ++ event.tick?.toList := by
  rw [ticks, List.filterMap_append, List.filterMap_cons]
  cases event.tick? <;> rfl

private theorem move_ticks (session : Session σ) {move : Move σ} (unfiring : ∀ now, move ≠ .fire now) :
    ticks (session.move move).history = ticks session.history := by
  cases move with
  | fire now => exact absurd rfl (unfiring now)
  | allocate => rfl
  | create | finish =>
    simp only [Session.move]
    split <;> rfl
  | arm | clear =>
    simp only [Session.move]
    split
    · rfl
    · simp [note]
  | cancel id => simp [Session.move, note]

theorem moves_ticks (session : Session σ) (list : List (Move σ))
    (unfiring : ∀ move ∈ list, ∀ now, move ≠ .fire now) :
    ticks (session.moves list).history = ticks session.history := by
  induction list generalizing session with
  | nil => rfl
  | cons move rest ih =>
    rw [List.forall_mem_cons] at unfiring
    exact (ih (session.move move) unfiring.2).trans (session.move_ticks unfiring.1)

/-- The numbers of the timers that have been made, are out or are armed. -/
def ids (session : Session σ) : List TimerId :=
  session.made.map (·.id) ++ ((session.out.map (·.id)).toList ++ session.set.armed.map (·.timer.id))

theorem count_ids (session : Session σ) (id : TimerId) : session.ids.count id =
    (session.made.map (·.id)).count id + (((session.out.map (·.id)).toList).count id +
      (session.set.armed.map (·.timer.id)).count id) := by
  rw [ids, List.count_append, List.count_append]

theorem count_without {γ : Type} (key : γ → TimerId) (list : List γ) (id other : TimerId) :
    ((list.filter fun item => key item ≠ id).map key).count other =
      if other = id then 0 else (list.map key).count other := by
  have same : (list.filter fun item => key item ≠ id).map key = (list.map key).filter (· ≠ id) := by
    rw [List.filter_map]
    rfl
  rw [same]
  split
  · rename_i equal
    apply List.count_eq_zero.mpr
    intro member
    exact of_decide_eq_true (List.mem_filter.mp member).2 equal
  · rename_i different
    exact List.count_filter (decide_eq_true different)

theorem arm_cases (set : TimerSet σ) (timer : Timer σ) (now : Instant) :
    (timer.repeats.isExhausted = true ∧ set.arm timer now = set) ∨
    (timer.repeats.isExhausted = false ∧ set.arm timer now =
      { set with armed := set.armed ++ [⟨now.addClamped timer.interval, timer⟩] }) := by
  unfold arm
  cases timer.repeats.isExhausted with
  | true => exact .inl ⟨rfl, if_pos rfl⟩
  | false => exact .inr ⟨rfl, if_neg Bool.false_ne_true⟩

private theorem count_arm (set : TimerSet σ) (timer : Timer σ) (now : Instant) (id : TimerId) :
    ((set.arm timer now).armed.map (·.timer.id)).count id ≤
      (set.armed.map (·.timer.id)).count id + [timer.id].count id := by
  rcases arm_cases set timer now with ⟨_, same⟩ | ⟨_, same⟩
  · rw [same]
    exact Nat.le_add_right _ _
  · rw [same, List.map_append, List.count_append]
    exact Nat.le_refl _

private theorem Step.count_ids (step : session.Step after) (id : TimerId) :
    after.ids.count id ≤ session.ids.count id ∨
      (id.number = session.given + 1 ∧ after.given = session.given + 1 ∧
        after.ids.count id ≤ session.ids.count id + 1) := by
  simp only [Session.count_ids]
  cases step with
  | stayed | allocated | caught => exact .inl (Nat.le_refl _)
  | created timer number =>
    simp only [List.map_append, List.map_cons, List.map_nil, List.count_append]
    by_cases same : id = timer.id
    · subst same
      refine .inr ⟨number, trivial, ?_⟩
      rw [List.count_singleton_self]
      omega
    · have none : [timer.id].count id = 0 := List.count_eq_zero.mpr (by simpa using same)
      omega
  | armed timer now member =>
    have fewer := count_without (fun timer : Timer σ => timer.id) session.made timer.id id
    have more := count_arm session.set timer now id
    have present : timer.id ∈ session.made.map (·.id) := List.mem_map_of_mem member
    refine .inl ?_
    simp only [note, fewer]
    split
    · rename_i same
      subst same
      have some := List.count_pos_iff.mpr present
      rw [List.count_singleton_self] at more
      omega
    · rename_i different
      have none : [timer.id].count id = 0 := List.count_eq_zero.mpr (by simpa using different)
      omega
  | fired now armed idle member reached =>
    have fewer := count_without (fun armed : Armed σ => armed.timer.id) session.set.armed armed.timer.id id
    have present : armed.timer.id ∈ session.set.armed.map (·.timer.id) :=
      List.mem_map_of_mem (f := fun armed : Armed σ => armed.timer.id) member
    refine .inl ?_
    simp only [note, without, remove, fewer, idle, Option.map_some, Option.map_none, Option.toList_some,
      Option.toList_none, List.count_nil]
    split
    · rename_i same
      subst same
      have some := List.count_pos_iff.mpr present
      have one : [armed.timer.tick.2.id].count armed.timer.id = 1 := List.count_singleton_self
      omega
    · rename_i different
      have none : [armed.timer.tick.2.id].count id = 0 :=
        List.count_eq_zero.mpr (by simpa [Timer.tick] using different)
      omega
  | cancelled gone unmarked =>
    have fewer := count_without (fun armed : Armed σ => armed.timer.id) session.set.armed gone id
    refine .inl ?_
    simp only [note, remove, fewer]
    split <;> omega
  | retired timer out =>
    refine .inl ?_
    simp only [Option.map_none, Option.toList_none, List.count_nil]
    omega
  | finished timer now out =>
    have more := count_arm { session.set with firing := none, firingCancelled := false } timer now id
    refine .inl ?_
    simp only [out, Option.map_none, Option.toList_none, List.count_nil, Option.map_some, Option.toList_some]
    simp only at more
    omega
  | cleared idle =>
    refine .inl ?_
    simp only [note, idle, TimerSet.empty, List.map_nil, List.count_nil]
    omega

/-- A timer set as a task keeps it. -/
structure Sound (session : Session σ) : Prop where
  apart : session.ids.Nodup
  numbered : ∀ id ∈ session.ids, id.number ≤ session.given
  lasting : ∀ timer : Timer σ, timer ∈ session.made ∨ session.out = some timer ∨
    (∃ armed ∈ session.set.armed, armed.timer = timer) → timer.interval.isZero = false
  unfired : ∀ timer ∈ session.made, timer.fired = 0
  unspent : ∀ armed ∈ session.set.armed, armed.timer.repeats.isExhausted = false
  marked : session.set.firing = session.out.map (·.id)
  uncaught : session.out = none → session.set.firingCancelled = false

theorem start_sound (given : Nat) : (start given : Session σ).Sound where
  apart := .nil
  numbered := by simp [start, ids, TimerSet.empty]
  lasting := by simp [start, TimerSet.empty]
  unfired := by simp [start]
  unspent := by simp [start, TimerSet.empty]
  marked := rfl
  uncaught _ := rfl

theorem mem_armed_arm {set : TimerSet σ} {timer : Timer σ} {now : Instant} {armed : Armed σ}
    (member : armed ∈ (set.arm timer now).armed) : armed ∈ set.armed ∨
      (timer.repeats.isExhausted = false ∧ armed.timer = timer ∧
        armed.deadline = now.addClamped timer.interval) := by
  rcases arm_cases set timer now with ⟨_, same⟩ | ⟨unspent, same⟩
  · rw [same] at member
    exact .inl member
  · rw [same] at member
    refine (List.mem_append.mp member).imp id fun new => ?_
    rw [List.mem_singleton.mp new]
    exact ⟨unspent, rfl, rfl⟩

theorem arm_firing (set : TimerSet σ) (timer : Timer σ) (now : Instant) :
    (set.arm timer now).firing = set.firing ∧
      (set.arm timer now).firingCancelled = set.firingCancelled := by
  rcases arm_cases set timer now with ⟨_, same⟩ | ⟨_, same⟩ <;> rw [same] <;> exact ⟨rfl, rfl⟩

theorem Step.given (step : session.Step after) : session.given ≤ after.given := by
  cases step with
  | allocated | created => exact Nat.le_succ _
  | stayed | armed | fired | caught | cancelled | retired | finished | cleared => exact Nat.le_refl _

theorem moves_given (session : Session σ) (list : List (Move σ)) : session.given ≤ (session.moves list).given := by
  let kept (after : Session σ) : Prop := session.given ≤ after.given
  have step (before after : Session σ) (least : kept before) (step : before.Step after) : kept after :=
    Nat.le_trans least step.given
  exact moves_keep step (Nat.le_refl session.given) list

private theorem Sound.numbered_step (sound : session.Sound) (step : session.Step after) :
    ∀ id ∈ after.ids, id.number ≤ after.given := by
  intro id member
  have given := step.given
  have some := List.count_pos_iff.mpr member
  rcases step.count_ids id with fewer | ⟨number, new, _⟩
  · have bound := sound.numbered id (List.count_pos_iff.mp (by omega))
    omega
  · omega

private theorem Sound.apart_step (sound : session.Sound) (step : session.Step after) : after.ids.Nodup := by
  rw [List.nodup_iff_count]
  intro id
  have once := List.nodup_iff_count.mp sound.apart id
  rcases step.count_ids id with fewer | ⟨number, _, more⟩
  · omega
  · have none : session.ids.count id = 0 := by
      apply List.count_eq_zero.mpr
      intro member
      have bound := sound.numbered id member
      omega
    omega

private theorem Sound.lasting_step (sound : session.Sound) (step : session.Step after) (timer : Timer σ)
    (place : timer ∈ after.made ∨ after.out = some timer ∨ ∃ armed ∈ after.set.armed, armed.timer = timer) :
    timer.interval.isZero = false := by
  cases step with
  | stayed | allocated | caught => exact sound.lasting timer place
  | created new number unfired lasting =>
    rcases place with made | elsewhere
    · rcases List.mem_append.mp made with old | new
      · exact sound.lasting timer (.inl old)
      · rwa [List.mem_singleton.mp new]
    · exact sound.lasting timer (.inr elsewhere)
  | armed new now member =>
    obtain made | out | ⟨armed, present, rfl⟩ := place
    · exact sound.lasting timer (.inl (List.mem_filter.mp made).1)
    · exact sound.lasting timer (.inr (.inl out))
    · rcases mem_armed_arm present with old | ⟨_, same, _⟩
      · exact sound.lasting armed.timer (.inr (.inr ⟨armed, old, rfl⟩))
      · exact sound.lasting armed.timer (.inl (same ▸ member))
  | fired now armed idle member reached =>
    obtain made | out | ⟨armed, present, rfl⟩ := place
    · exact sound.lasting timer (.inl made)
    · cases out
      exact sound.lasting armed.timer (.inr (.inr ⟨armed, member, rfl⟩))
    · exact sound.lasting armed.timer (.inr (.inr ⟨armed, (List.mem_filter.mp present).1, rfl⟩))
  | cancelled id unmarked =>
    obtain made | out | ⟨armed, present, rfl⟩ := place
    · exact sound.lasting timer (.inl made)
    · exact sound.lasting timer (.inr (.inl out))
    · exact sound.lasting armed.timer (.inr (.inr ⟨armed, (List.mem_filter.mp present).1, rfl⟩))
  | retired old out caught =>
    obtain made | gone | armed := place
    · exact sound.lasting timer (.inl made)
    · cases gone
    · exact sound.lasting timer (.inr (.inr armed))
  | finished old now out uncaught =>
    obtain made | gone | ⟨armed, present, rfl⟩ := place
    · exact sound.lasting timer (.inl made)
    · cases gone
    · rcases mem_armed_arm present with old | ⟨_, same, _⟩
      · exact sound.lasting armed.timer (.inr (.inr ⟨armed, old, rfl⟩))
      · exact sound.lasting armed.timer (.inr (.inl (same ▸ out)))
  | cleared idle =>
    obtain made | out | ⟨armed, present, rfl⟩ := place
    · exact sound.lasting timer (.inl made)
    · exact sound.lasting timer (.inr (.inl out))
    · cases present

private theorem Sound.unfired_step (sound : session.Sound) (step : session.Step after) :
    ∀ timer ∈ after.made, timer.fired = 0 := by
  cases step with
  | created timer number unfired lasting =>
    exact List.forall_mem_append.mpr ⟨sound.unfired, List.forall_mem_singleton.mpr unfired⟩
  | armed timer now member => exact fun other made => sound.unfired other (List.mem_filter.mp made).1
  | stayed | allocated | fired | caught | cancelled | retired | finished | cleared => exact sound.unfired

private theorem Sound.unspent_step (sound : session.Sound) (step : session.Step after) :
    ∀ armed ∈ after.set.armed, armed.timer.repeats.isExhausted = false := by
  have arms (set : TimerSet σ) (same : set.armed = session.set.armed) (timer : Timer σ) (now : Instant)
      (armed : Armed σ) (present : armed ∈ (set.arm timer now).armed) :
      armed.timer.repeats.isExhausted = false := by
    rcases mem_armed_arm present with old | ⟨unspent, same, _⟩
    · exact sound.unspent armed (same ▸ old)
    · rwa [same]
  cases step with
  | armed timer now member => exact arms session.set rfl timer now
  | finished timer now out uncaught =>
    exact arms { session.set with firing := none, firingCancelled := false } rfl timer now
  | fired | cancelled => exact fun other present => sound.unspent other (List.mem_filter.mp present).1
  | cleared => exact List.forall_mem_nil _
  | stayed | allocated | created | caught | retired => exact sound.unspent

private theorem Sound.marked_step (sound : session.Sound) (step : session.Step after) :
    after.set.firing = after.out.map (·.id) ∧ (after.out = none → after.set.firingCancelled = false) := by
  cases step with
  | stayed | allocated | created | cancelled => exact ⟨sound.marked, sound.uncaught⟩
  | armed timer now member =>
    obtain ⟨firing, cancelled⟩ := arm_firing session.set timer now
    exact ⟨firing.trans sound.marked, fun idle => cancelled.trans (sound.uncaught idle)⟩
  | fired => exact ⟨rfl, nofun⟩
  | caught id marked =>
    refine ⟨sound.marked, fun idle => ?_⟩
    have wrong := sound.marked
    rw [show session.out = none from idle, marked] at wrong
    cases wrong
  | retired => exact ⟨rfl, fun _ => rfl⟩
  | finished timer now out uncaught =>
    obtain ⟨firing, cancelled⟩ := arm_firing { session.set with firing := none, firingCancelled := false } timer now
    exact ⟨firing, fun _ => cancelled⟩
  | cleared idle => exact ⟨(congrArg (Option.map fun timer : Timer σ => timer.id) idle).symm, fun _ => rfl⟩

theorem Sound.step (sound : session.Sound) (step : session.Step after) : after.Sound where
  apart := sound.apart_step step
  numbered := sound.numbered_step step
  lasting := sound.lasting_step step
  unfired := sound.unfired_step step
  unspent := sound.unspent_step step
  marked := (sound.marked_step step).1
  uncaught := (sound.marked_step step).2

theorem Sound.moves (sound : session.Sound) (list : List (Move σ)) : (session.moves list).Sound :=
  moves_keep (fun _ _ sound step => sound.step step) sound list

theorem Sound.distinct (sound : session.Sound) : session.set.Distinct := by
  have apart := sound.apart
  rw [ids, List.nodup_append, List.nodup_append] at apart
  exact List.pairwise_map.mp apart.2.1.2.1

theorem mem_ids_of_armed {entry : Armed σ} (member : entry ∈ session.set.armed) :
    entry.timer.id ∈ session.ids := by
  have present : entry.timer.id ∈ session.set.armed.map (·.timer.id) :=
    List.mem_map_of_mem (f := fun armed : Armed σ => armed.timer.id) member
  simp only [ids, List.mem_append]
  exact .inr (.inr present)

theorem mem_ids_of_out (out : session.out = some timer) : timer.id ∈ session.ids := by simp [ids, out]

theorem Sound.not_armed_of_out (sound : session.Sound) (out : session.out = some timer) :
    ∀ entry ∈ session.set.armed, entry.timer.id ≠ timer.id := by
  intro entry member same
  have apart := sound.apart
  rw [ids, List.nodup_append, List.nodup_append, out] at apart
  exact apart.2.1.2.2 timer.id (List.mem_singleton_self _) entry.timer.id
    (List.mem_map_of_mem (f := fun armed : Armed σ => armed.timer.id) member) same.symm

/-- The number belongs to a timer that has not been armed, or to none yet. -/
def Ahead (id : TimerId) (session : Session σ) : Prop :=
  id ∈ session.made.map (·.id) ∨ session.given < id.number

theorem Ahead.before (ahead : after.Ahead id) (step : session.Step after) : session.Ahead id := by
  have given := step.given
  rcases ahead with made | number
  · cases step with
    | stayed | allocated | fired | caught | cancelled | retired | finished | cleared => exact .inl made
    | created timer number =>
      rw [List.map_append] at made
      rcases List.mem_append.mp made with old | new
      · exact .inl old
      · right
        rw [List.mem_singleton.mp new, number]
        exact Nat.lt_succ_self session.given
    | armed => exact .inl ((List.filter_sublist.map _).subset made)
  · exact .inr (Nat.lt_of_le_of_lt given number)

theorem Sound.not_armed_of_ahead (sound : session.Sound) (ahead : session.Ahead id) :
    ∀ entry ∈ session.set.armed, entry.timer.id ≠ id := by
  rintro entry member rfl
  rcases ahead with made | number
  · have apart := sound.apart
    rw [ids, List.nodup_append, List.nodup_append] at apart
    refine apart.2.2 entry.timer.id made entry.timer.id ?_ rfl
    exact List.mem_append_right _ (List.mem_map_of_mem (f := fun armed : Armed σ => armed.timer.id) member)
  · have bound := sound.numbered entry.timer.id (mem_ids_of_armed member)
    omega

private theorem Sound.made_apart (sound : session.Sound) : (session.made.map (·.id)).Nodup := by
  have apart := sound.apart
  rw [ids, List.nodup_append] at apart
  exact apart.1

private theorem Sound.find_made (sound : session.Sound) (member : timer ∈ session.made) :
    session.made.find? (·.id = timer.id) = some timer := by
  cases found : session.made.find? (·.id = timer.id) with
  | none =>
    have unlike := List.find?_eq_none.mp found timer member
    simp at unlike
  | some other =>
    have same : other.id = timer.id := by simpa using List.find?_some found
    have apart := List.pairwise_map.mp sound.made_apart
    exact congrArg some (eq_of_alike apart Eq.symm (List.mem_of_find?_eq_some found) member same)

theorem Sound.move_arm (sound : session.Sound) (member : timer ∈ session.made) (now : Instant) :
    session.move (.arm timer.id now) =
      ({ session with
        set := session.set.arm timer now
        made := session.made.filter (·.id ≠ timer.id) }.note (.armed timer)) := by
  simp only [Session.move, sound.find_made member]

theorem Sound.made_without (sound : session.Sound) {rest : List (Timer σ)}
    (made : session.made.Perm (timer :: rest)) : (session.made.filter (·.id ≠ timer.id)).Perm rest := by
  have apart := (made.map (·.id)).nodup_iff.mp sound.made_apart
  rw [List.map_cons, List.nodup_cons] at apart
  refine (made.filter _).trans (List.Perm.of_eq ?_)
  rw [List.filter_cons_of_neg (by simp)]
  apply List.filter_eq_self.mpr
  intro other member
  exact decide_eq_true fun same => apart.1 (List.mem_map.mpr ⟨other, member, same⟩)

private theorem move_create {interval : Delay} {repeats : Repeat} {action : TimerAction σ} {operation : Operation}
    (created : Timer.create session.given interval repeats action operation = .ok timer) :
    session.move (.create interval repeats action operation) =
      { session with given := session.given + 1, made := session.made ++ [timer] } := by
  simp only [Session.move, created]

theorem created_id {given : Nat} {interval : Delay} {repeats : Repeat} {action : TimerAction σ}
    {operation : Operation} (created : Timer.create given interval repeats action operation = .ok timer) :
    timer.id = ⟨given + 1⟩ := by
  unfold Timer.create at created
  split at created <;> cases created
  rfl

theorem Sound.create_arm (sound : session.Sound) {interval : Delay} {repeats : Repeat} {action : TimerAction σ}
    {operation : Operation} (created : Timer.create session.given interval repeats action operation = .ok timer)
    (now : Instant) :
    session.moves [.create interval repeats action operation, .arm timer.id now] =
      ({ session with
        given := session.given + 1
        set := session.set.arm timer now }.note (.armed timer)) := by
  have absent : ∀ other ∈ session.made, other.id ≠ timer.id := by
    intro other member same
    have bound := sound.numbered other.id (List.mem_append_left _ (List.mem_map_of_mem member))
    rw [same, created_id created] at bound
    exact Nat.not_succ_le_self _ bound
  have left : (session.made ++ [timer]).filter (fun other => decide (other.id ≠ timer.id)) = session.made := by
    rw [List.filter_append, List.filter_cons_of_neg (by simp), List.filter_nil, List.append_nil]
    exact List.filter_eq_self.mpr fun other member => decide_eq_true (absent other member)
  have step := session.move_step (.create interval repeats action operation)
  rw [move_create created] at step
  show (session.move (.create interval repeats action operation)).move (.arm timer.id now) = _
  rw [move_create created, (sound.step step).move_arm (by simp), left]

/-- The number has been given out, and there is no timer with it any more. -/
structure Gone (id : TimerId) (session : Session σ) : Prop where
  given : id.number ≤ session.given
  absent : id ∉ session.ids

theorem Gone.step (gone : session.Gone id) (step : session.Step after) : after.Gone id where
  given := Nat.le_trans gone.given step.given
  absent := by
    have none := List.count_eq_zero.mpr gone.absent
    have given := gone.given
    apply List.count_eq_zero.mp
    rcases step.count_ids id with fewer | ⟨number, _, _⟩ <;> omega

theorem Gone.moves (gone : session.Gone id) (list : List (Move σ)) : (session.moves list).Gone id :=
  moves_keep (fun _ _ gone step => gone.step step) gone list

theorem Sound.cancel_gone (sound : session.Sound) (given : id.number ≤ session.given) (idle : session.out = none)
    (unmade : id ∉ session.made.map (·.id)) : (session.move (.cancel id)).Gone id := by
  have unmarked : session.set.firing ≠ some id := by
    rw [sound.marked, idle]
    nofun
  refine ⟨given, ?_⟩
  simp only [Session.move, note, cancel, if_neg unmarked, ids, idle, List.mem_append]
  rintro (made | out | armed)
  · exact unmade made
  · cases out
  · obtain ⟨entry, left, same⟩ := List.mem_map.mp armed
    exact of_decide_eq_true (List.mem_filter.mp left).2 same

/-- The ticks that are new are none of the timer. -/
def Spares (id : TimerId) (before after : List Tick) : Prop :=
  ∃ more, after = before ++ more ∧ ∀ tick ∈ more, tick.timer ≠ id

theorem Spares.of_eq {before after : List Tick} (same : after = before) : Spares id before after :=
  ⟨[], by rw [same, List.append_nil], List.forall_mem_nil _⟩

theorem Spares.trans {first second third : List Tick} (one : Spares id first second)
    (two : Spares id second third) : Spares id first third := by
  obtain ⟨more, rfl, none⟩ := one
  obtain ⟨rest, rfl, others⟩ := two
  refine ⟨more ++ rest, List.append_assoc _ _ _, fun tick member => ?_⟩
  exact (List.mem_append.mp member).elim (none tick) (others tick)

private theorem Gone.move_spares (gone : session.Gone id) (move : Move σ) :
    Spares id (ticks session.history) (ticks (session.move move).history) := by
  by_cases fires : ∃ now, move = .fire now
  · obtain ⟨now, rfl⟩ := fires
    simp only [Session.move]
    split
    · rename_i firing set _ fired
      obtain ⟨armed, member, _, _, rfl, _⟩ := fire?_eq_some fired
      refine ⟨[armed.timer.tick.1], ticks_append _ _, ?_⟩
      rintro _ (_ | ⟨_, ⟨⟩⟩) same
      exact gone.absent (same ▸ mem_ids_of_armed member)
    · exact .of_eq rfl
  · exact .of_eq (session.move_ticks fun now same => fires ⟨now, same⟩)

/-- A timer that is gone never ticks again. -/
theorem Gone.moves_spares (gone : session.Gone id) (list : List (Move σ)) :
    Spares id (ticks session.history) (ticks (session.moves list).history) := by
  induction list generalizing session with
  | nil => exact .of_eq rfl
  | cons move rest ih => exact (gone.move_spares move).trans (ih (gone.step (session.move_step move)))

end Session

end TaskKernel.TimerSet
