import TaskKernel.Proofs.Timer.Counting

/-!
Cancelling a timer. A timer that is cancelled is gone, or is out and will not be put back, and with the
other timers everything goes on as if it had been left alone.
-/
namespace TaskKernel.TimerSet.Session

variable {σ : Type} {session after left right : Session σ} {timer : Timer σ} {id : TimerId}

/-- The timer is out for the last time: it has been cancelled meanwhile, or it is used up. -/
def Leaving (id : TimerId) (session : Session σ) : Prop :=
  ∃ timer, session.out = some timer ∧ timer.id = id ∧
    (session.set.firingCancelled = true ∨ timer.repeats.isExhausted = true)

theorem leaving_iff : session.Leaving id ↔ session.out.any (fun timer =>
    decide (timer.id = id) && (session.set.firingCancelled || timer.repeats.isExhausted)) = true := by
  simp [Leaving, Option.any_eq_true]

instance : Decidable (session.Leaving id) := decidable_of_iff _ leaving_iff.symm

/-- There is no timer with the number any more, but for one that will not be put back. -/
def Doomed (id : TimerId) (session : Session σ) : Prop := session.Gone id ∨ session.Leaving id

private theorem Sound.unmade_of_out (sound : session.Sound) (out : session.out = some timer) :
    timer.id ∉ session.made.map (·.id) := by
  intro made
  have apart := sound.apart
  rw [ids, List.nodup_append, out] at apart
  exact apart.2.2 timer.id made timer.id (List.mem_append_left _ (List.mem_singleton_self _)) rfl

private theorem Sound.marked_of_out (sound : session.Sound) (out : session.out = some timer) :
    session.set.firing = some timer.id := by
  rw [sound.marked, out]
  rfl

private theorem Leaving.finish_armed (leaving : session.Leaving id) (sound : session.Sound)
    (out : session.out = some timer) (now : Instant) :
    (session.set.finish timer now).armed = session.set.armed := by
  obtain ⟨other, current, _, last⟩ := leaving
  obtain rfl := Option.some.inj (out.symm.trans current)
  unfold finish
  split
  · rfl
  · rename_i uncaught
    have spent := last.resolve_left fun caught => uncaught ⟨sound.marked_of_out out, caught⟩
    rw [arm, if_pos spent]

theorem Leaving.step (leaving : session.Leaving id) (sound : session.Sound) (step : session.Step after) :
    after.Doomed id := by
  have unchanged {timer : Timer σ} (out : session.out = some timer) := leaving.finish_armed sound out
  obtain ⟨timer, out, rfl, last⟩ := leaving
  have whole := step
  cases step with
  | stayed | allocated | created | cancelled => exact .inr ⟨timer, out, rfl, last⟩
  | armed other now member =>
    refine .inr ⟨timer, out, rfl, ?_⟩
    rwa [note, (arm_firing session.set other now).2]
  | caught => exact .inr ⟨timer, out, rfl, .inl rfl⟩
  | fired now armed idle | cleared idle =>
    rw [idle] at out
    cases out
  | retired other current caught =>
    obtain rfl := Option.some.inj (out.symm.trans current)
    exact .inl (sound.gone_of_out whole out rfl rfl rfl)
  | finished other now current uncaught =>
    obtain rfl := Option.some.inj (out.symm.trans current)
    have armed := unchanged out now
    rw [finish, if_neg uncaught] at armed
    exact .inl (sound.gone_of_out whole out rfl rfl armed)

theorem Doomed.step (doomed : session.Doomed id) (sound : session.Sound) (step : session.Step after) :
    after.Doomed id := by
  rcases doomed with gone | leaving
  · exact .inl (gone.step step)
  · exact leaving.step sound step

theorem Doomed.moves (doomed : session.Doomed id) (sound : session.Sound) (list : List (Move σ)) :
    (session.moves list).Doomed id := by
  let kept (after : Session σ) : Prop := after.Sound ∧ after.Doomed id
  have step (before after : Session σ) (held : kept before) (step : before.Step after) : kept after :=
    ⟨held.1.step step, held.2.step held.1 step⟩
  have held : kept (session.moves list) := moves_keep step ⟨sound, doomed⟩ list
  exact held.2

private theorem Doomed.unarmed (doomed : session.Doomed id) (sound : session.Sound) :
    ∀ entry ∈ session.set.armed, entry.timer.id ≠ id := by
  rcases doomed with gone | leaving
  · rintro entry member rfl
    exact gone.absent (mem_ids_of_armed member)
  · obtain ⟨timer, out, rfl, _⟩ := leaving
    exact sound.not_armed_of_out out

private theorem Doomed.finish_armed (doomed : session.Doomed id) (sound : session.Sound)
    (out : session.out = some timer) (same : timer.id = id) (now : Instant) :
    (session.set.finish timer now).armed = session.set.armed := by
  rcases doomed with gone | leaving
  · exact absurd (same ▸ mem_ids_of_out out) gone.absent
  · exact leaving.finish_armed sound out now

private theorem Doomed.unmade (doomed : session.Doomed id) (sound : session.Sound) :
    ∀ timer ∈ session.made, timer.id ≠ id := by
  rintro timer member rfl
  have present : timer.id ∈ session.made.map (·.id) := List.mem_map_of_mem member
  rcases doomed with gone | leaving
  · exact gone.absent (List.mem_append_left _ present)
  · obtain ⟨other, out, same, _⟩ := leaving
    exact sound.unmade_of_out out (same ▸ present)

private theorem Doomed.moves_ticksOf (doomed : session.Doomed id) (sound : session.Sound) (list : List (Move σ)) :
    ticksOf id (session.moves list).history = ticksOf id session.history := by
  induction list generalizing session with
  | nil => rfl
  | cons move rest ih =>
    have step := session.move_step move
    exact (ih (doomed.step sound step) (sound.step step)).trans (step.ticksOf (doomed.unarmed sound))

private theorem remove_absent {set : TimerSet σ} (absent : ∀ entry ∈ set.armed, entry.timer.id ≠ id) :
    set.remove id = set := by
  have all : set.armed.filter (fun entry => decide (entry.timer.id ≠ id)) = set.armed :=
    List.filter_eq_self.mpr fun entry member => decide_eq_true (absent entry member)
  rw [remove, all]

/-- A timer that is out and cancelled is not armed, so that nothing is lost to either way of cancelling. -/
private theorem Sound.cancel_armed (sound : session.Sound) (id : TimerId) :
    (session.set.cancel id).2.armed = (session.set.remove id).armed := by
  unfold cancel
  split
  · rename_i marked
    obtain ⟨timer, out, rfl⟩ := Option.map_eq_some_iff.mp (sound.marked.symm.trans marked)
    rw [remove_absent (sound.not_armed_of_out out)]
  · rfl

theorem Sound.found_iff (sound : session.Sound) : (session.set.cancel id).1 = true ↔
    (∃ timer, session.out = some timer ∧ timer.id = id) ∨ ∃ entry ∈ session.set.armed, entry.timer.id = id := by
  rw [← Option.map_eq_some_iff, ← sound.marked, ← contains_eq_true]
  unfold cancel
  split <;> simp [*]

private theorem Sound.cancel_doomed (sound : session.Sound) (found : (session.set.cancel id).1 = true) :
    (session.move (.cancel id)).Doomed id := by
  have step := session.move_step (.cancel id)
  rcases sound.found_iff.mp found with ⟨timer, out, rfl⟩ | ⟨entry, member, same⟩
  · refine .inr ⟨timer, out, rfl, .inl ?_⟩
    simp [Session.move, note, cancel, sound.marked_of_out out]
  · refine .inl (sound.gone_of_armed step member same rfl rfl ?_)
    simp [Session.move, note, sound.cancel_armed, remove]

/-- The ticks of the other timers, in the order of time. -/
def ticksBut (id : TimerId) (history : List (Event σ)) : List Tick := (ticks history).filter (·.timer ≠ id)

@[simp] theorem ticksBut_append (id : TimerId) (history : List (Event σ)) (event : Event σ) :
    ticksBut id (history ++ [event]) = ticksBut id history ++ event.tick?.toList.filter (·.timer ≠ id) := by
  rw [ticksBut, ticksBut, ticks_append, List.filter_append]

/-- Whether nothing comes of a move for the other timers: the timer is out after it, which has just been
fired, or for which the move would have to wait. -/
def idles (id : TimerId) (session : Session σ) : Move σ → Bool
  | .fire now => (session.move (.fire now)).out.any (·.id = id)
  | .clear => session.out.any (·.id = id)
  | .allocate | .create .. | .arm .. | .cancel _ | .finish _ => false

/-- What is left of the moves without those. -/
def spared (id : TimerId) : Session σ → List (Move σ) → List (Move σ)
  | _, [] => []
  | session, move :: rest =>
    if session.idles id move then spared id (session.move move) rest
    else move :: spared id (session.move move) rest

/-- Two sessions that differ in one timer only, which the second one has lost. -/
structure Alike (id : TimerId) (left right : Session σ) : Prop where
  given : right.given = left.given
  made : right.made = left.made
  armed : right.set.armed = (left.set.remove id).armed
  out : right.out = left.out ∨ right.out = none ∧ ∃ timer, left.out = some timer ∧ timer.id = id
  caught : ∀ timer, left.out = some timer → timer.id ≠ id →
    right.set.firingCancelled = left.set.firingCancelled
  ticks : ticksBut id right.history = ticksBut id left.history

private theorem remove_comm (set : TimerSet σ) (id other : TimerId) :
    ((set.remove id).remove other).armed = ((set.remove other).remove id).armed := by
  simp only [remove, List.filter_filter, Bool.and_comm]

private theorem remove_remove (set : TimerSet σ) (id : TimerId) :
    ((set.remove id).remove id).armed = (set.remove id).armed := by
  simp only [remove, List.filter_filter, Bool.and_self]

theorem remove_arm_self (set : TimerSet σ) (timer : Timer σ) (now : Instant) :
    ((set.arm timer now).remove timer.id).armed = (set.remove timer.id).armed := by
  rcases arm_cases set timer now with ⟨_, same⟩ | ⟨_, same⟩ <;> simp [same, remove]

private theorem remove_finish (set : TimerSet σ) (timer : Timer σ) (now : Instant) :
    ((set.finish timer now).remove timer.id).armed = (set.remove timer.id).armed := by
  unfold finish
  split
  · rfl
  · exact remove_arm_self _ timer now

private theorem cancel_caught (set : TimerSet σ) (id : TimerId) :
    (set.cancel id).2.firingCancelled = (decide (set.firing = some id) || set.firingCancelled) := by
  unfold cancel
  split
  · simp [*]
  · simp [remove, *]

private theorem remove_arm_other {set other : TimerSet σ} (same : other.armed = (set.remove id).armed)
    (different : timer.id ≠ id) (now : Instant) :
    (other.arm timer now).armed = ((set.arm timer now).remove id).armed := by
  simp only [arm]
  split
  · exact same
  · simp [remove, List.filter_append, same, different]

namespace Alike

variable (alike : Alike id left right) (sound : left.Sound) (sound' : right.Sound)
  (doomed : right.Doomed id)
include alike

private theorem idle (idle : left.out = none) : right.out = none := by
  rcases alike.out with same | ⟨none, _⟩
  · rw [same, idle]
  · exact none

private theorem out_other (out : left.out = some timer) (different : timer.id ≠ id) : right.out = some timer := by
  rcases alike.out with same | ⟨_, other, current, same⟩
  · rw [same, out]
  · obtain rfl := Option.some.inj (out.symm.trans current)
    exact absurd same different

include sound in
private theorem due (now : Instant) :
    right.set.due now = (left.set.due now).filter (·.timer.id ≠ id) :=
  (due_congr alike.armed now).trans (sound.distinct.due_remove id now)

include sound sound' in
private theorem fire {now : Instant} (other : left.idles id (.fire now) = false) :
    Alike id (left.move (.fire now)) (right.move (.fire now)) := by
  cases out : left.out with
  | some timer =>
    simp only [idles, Session.move, out, Option.any_some, decide_eq_false_iff_not] at other
    simp only [Session.move, out, alike.out_other out other]
    exact alike
  | none =>
    have fires := sound.distinct.fire?_eq now
    have fires' := sound'.distinct.fire?_eq now
    rw [alike.due sound] at fires'
    cases first : left.set.due now with
    | nil =>
      simp only [first, List.filter_nil, List.head?_nil, Option.map_none] at fires fires'
      simp only [Session.move, out, alike.idle out, fires, fires']
      exact alike
    | cons entry rest =>
      simp only [first, List.head?_cons, Option.map_some] at fires
      have different : entry.timer.id ≠ id := by
        simpa [idles, Session.move, out, fires, note, Timer.tick] using other
      rw [first, List.filter_cons_of_pos (by simpa using different), List.head?_cons, Option.map_some] at fires'
      simp only [Session.move, out, alike.idle out, fires, fires']
      refine ⟨alike.given, alike.made, ?_, .inl rfl, fun _ _ _ => rfl, ?_⟩
      · show (right.set.remove entry.timer.id).armed = _
        rw [remove, alike.armed]
        exact remove_comm left.set id entry.timer.id
      · simp [note, alike.ticks]

include sound in
private theorem fire_idle {now : Instant} (own : left.idles id (.fire now) = true) :
    Alike id (left.move (.fire now)) right := by
  cases out : left.out with
  | some timer =>
    simp only [Session.move, out]
    exact alike
  | none =>
    have fires := sound.distinct.fire?_eq now
    cases first : left.set.due now with
    | nil =>
      simp only [first, List.head?_nil, Option.map_none] at fires
      simp [idles, Session.move, out, fires] at own
    | cons entry rest =>
      simp only [first, List.head?_cons, Option.map_some] at fires
      obtain rfl : entry.timer.id = id := by
        simpa [idles, Session.move, out, fires, note, Timer.tick] using own
      simp only [Session.move, out, fires]
      refine ⟨alike.given, alike.made, ?_, .inr ⟨alike.idle out, _, rfl, rfl⟩, ?_, ?_⟩
      · exact alike.armed.trans (remove_remove left.set entry.timer.id).symm
      · intro timer current different
        cases current
        exact absurd rfl different
      · simp [note, alike.ticks, Timer.tick]

include sound' doomed in
private theorem arm (other : TimerId) (now : Instant) :
    Alike id (left.move (.arm other now)) (right.move (.arm other now)) := by
  simp only [Session.move, alike.made]
  cases found : left.made.find? (·.id = other) with
  | none => exact alike
  | some timer =>
    have member : timer ∈ right.made := alike.made ▸ List.mem_of_find?_eq_some found
    have different := doomed.unmade sound' timer member
    refine ⟨alike.given, rfl, remove_arm_other alike.armed different now, alike.out, ?_, ?_⟩
    · intro current out unlike
      exact ((arm_firing right.set timer now).2.trans (alike.caught current out unlike)).trans
        (arm_firing left.set timer now).2.symm
    · simp [note, alike.ticks]

include sound sound' in
private theorem cancel (other : TimerId) :
    Alike id (left.move (.cancel other)) (right.move (.cancel other)) := by
  refine ⟨alike.given, alike.made, ?_, alike.out, ?_, by simp [Session.move, note, alike.ticks]⟩
  · show (right.set.cancel other).2.armed = ((left.set.cancel other).2.armed.filter (·.timer.id ≠ id))
    rw [sound'.cancel_armed, sound.cancel_armed, remove, alike.armed]
    exact remove_comm left.set id other
  · intro timer out different
    show (right.set.cancel other).2.firingCancelled = (left.set.cancel other).2.firingCancelled
    rw [cancel_caught, cancel_caught, alike.caught timer out different, sound.marked_of_out out,
      sound'.marked_of_out (alike.out_other out different)]

private theorem clear (other : left.idles id .clear = false) : Alike id (left.move .clear) (right.move .clear) := by
  cases out : left.out with
  | some timer =>
    simp only [idles, out, Option.any_some, decide_eq_false_iff_not] at other
    simp only [Session.move, out, alike.out_other out other]
    exact alike
  | none =>
    simp only [Session.move, out, alike.idle out]
    exact ⟨alike.given, alike.made, rfl, .inl rfl, fun _ _ _ => rfl, by simp [note, alike.ticks]⟩

private theorem clear_idle (own : left.idles id .clear = true) : Alike id (left.move .clear) right := by
  cases out : left.out with
  | some timer =>
    simp only [Session.move, out]
    exact alike
  | none => simp [idles, out] at own

include sound sound' doomed in
private theorem finish (now : Instant) : Alike id (left.move (.finish now)) (right.move (.finish now)) := by
  cases out : left.out with
  | none =>
    simp only [Session.move, out, alike.idle out]
    exact alike
  | some timer =>
    by_cases own : timer.id = id
    · subst own
      have armed : right.set.armed = ((left.set.finish timer now).remove timer.id).armed :=
        alike.armed.trans (remove_finish left.set timer now).symm
      rcases alike.out with same | ⟨none, _⟩
      · have current := same.trans out
        simp only [Session.move, out, current]
        exact ⟨alike.given, alike.made, (doomed.finish_armed sound' current rfl now).trans armed, .inl rfl,
          by simp, alike.ticks⟩
      · simp only [Session.move, out, none]
        exact ⟨alike.given, alike.made, armed, .inl none, by simp, alike.ticks⟩
    · have current := alike.out_other out own
      simp only [Session.move, out, current]
      refine ⟨alike.given, alike.made, ?_, .inl rfl, by simp, alike.ticks⟩
      simp only [TimerSet.finish, sound.marked_of_out out, sound'.marked_of_out current, alike.caught timer out own]
      split
      · exact alike.armed
      · refine remove_arm_other ?_ own now
        exact alike.armed

private theorem create (interval : Delay) (repeats : Repeat) (action : TimerAction σ) (operation : Operation) :
    Alike id (left.move (.create interval repeats action operation))
      (right.move (.create interval repeats action operation)) := by
  simp only [Session.move, alike.given]
  cases Timer.create left.given interval repeats action operation with
  | error => exact alike
  | ok timer => exact { alike with given := rfl, made := by rw [alike.made] }

include sound sound' doomed in
theorem move (move : Move σ) :
    Alike id (left.move move) (right.moves (if left.idles id move then [] else [move])) := by
  by_cases own : left.idles id move = true
  · rw [if_pos own]
    cases move with
    | fire now => exact alike.fire_idle sound own
    | clear => exact alike.clear_idle own
    | allocate | create | arm | cancel | finish => cases own
  · rw [if_neg own]
    rw [Bool.not_eq_true] at own
    cases move with
    | allocate => exact { alike with given := congrArg (· + 1) alike.given }
    | create interval repeats action operation => exact alike.create interval repeats action operation
    | arm other now => exact alike.arm sound' doomed other now
    | fire now => exact alike.fire sound sound' own
    | cancel other => exact alike.cancel sound sound' other
    | finish now => exact alike.finish sound sound' doomed now
    | clear => exact alike.clear own

end Alike

theorem Alike.moves (alike : Alike id left right) (sound : left.Sound) (sound' : right.Sound)
    (doomed : right.Doomed id) (list : List (Move σ)) :
    Alike id (left.moves list) (right.moves (spared id left list)) := by
  induction list generalizing left right with
  | nil => exact alike
  | cons move rest ih =>
    have split : spared id left (move :: rest) =
        (if left.idles id move then [] else [move]) ++ spared id (left.move move) rest := by
      rw [spared]
      split <;> rfl
    rw [split, moves_append]
    exact ih (alike.move sound sound' doomed move) (sound.step (left.move_step move)) (sound'.moves _)
      (doomed.moves sound' _)

private theorem Sound.cancel_alike (sound : session.Sound) : Alike id session (session.move (.cancel id)) := by
  refine ⟨rfl, rfl, sound.cancel_armed id, .inl rfl, ?_, by simp [Session.move, note]⟩
  intro timer out different
  show (session.set.cancel id).2.firingCancelled = _
  rw [cancel_caught, sound.marked_of_out out]
  simp [different]

/-- The session with another past. -/
def withPast (session : Session σ) (past : List (Event σ)) : Session σ := { session with history := past }

private theorem move_withPast (session : Session σ) (past : List (Event σ)) (move : Move σ) :
    ∃ more, (session.move move).history = session.history ++ more ∧
      (session.withPast past).move move = (session.move move).withPast (past ++ more) := by
  cases move with
  | allocate => exact ⟨[], by simp [Session.move, withPast]⟩
  | cancel id => exact ⟨[.cancelled id (session.set.cancel id).1], rfl, rfl⟩
  | create | finish =>
    simp only [Session.move, withPast]
    split
    all_goals exact ⟨[], by simp⟩
  | arm | clear =>
    simp only [Session.move, withPast]
    split
    · exact ⟨[], by simp⟩
    · exact ⟨[_], rfl, rfl⟩
  | fire =>
    simp only [Session.move, withPast]
    split
    · exact ⟨[_], rfl, rfl⟩
    · exact ⟨[], by simp⟩

private theorem moves_withPast (session : Session σ) (past : List (Event σ)) (list : List (Move σ)) :
    ∃ more, (session.moves list).history = session.history ++ more ∧
      (session.withPast past).moves list = (session.moves list).withPast (past ++ more) := by
  induction list generalizing session past with
  | nil => exact ⟨[], by simp [moves]⟩
  | cons move rest ih =>
    obtain ⟨first, grown, same⟩ := session.move_withPast past move
    obtain ⟨more, later, others⟩ := ih (session.move move) (past ++ first)
    refine ⟨first ++ more, ?_, ?_⟩
    · exact later.trans (by rw [grown, List.append_assoc])
    · rw [← List.append_assoc]
      exact (congrArg (moves · rest) same).trans others

/-- A cancellation ends one timer, and nothing else. -/
structure EndsOne (id : TimerId) (session : Session σ) : Prop where
  ends : (session.set.cancel id).1 = true → ∀ list,
    (∀ entry ∈ ((session.move (.cancel id)).moves list).set.armed, entry.timer.id ≠ id) ∧
      ticksOf id ((session.move (.cancel id)).moves list).history = ticksOf id session.history
  refuses : (session.set.cancel id).1 = false → (session.set.cancel id).2 = session.set ∧ ∀ list, ∃ more,
    (session.moves list).history = session.history ++ more ∧
      (session.move (.cancel id)).moves list =
        (session.moves list).withPast (session.history ++ [.cancelled id false] ++ more)
  others : (session.set.cancel id).2.armed.filter (·.timer.id ≠ id) =
    session.set.armed.filter (·.timer.id ≠ id)
  out : ∀ timer, session.out = some timer → timer.id ≠ id →
    (session.move (.cancel id)).out = some timer ∧ (session.set.cancel id).2.firing = session.set.firing ∧
      (session.set.cancel id).2.firingCancelled = session.set.firingCancelled
  -- Whatever is done afterwards, the other timers lie armed, are out and fire as they would have.
  later : (session.set.cancel id).1 = true → ∀ list,
    Alike id (session.moves list) ((session.move (.cancel id)).moves (spared id session list))

private theorem cancel_firing (set : TimerSet σ) (id : TimerId) : (set.cancel id).2.firing = set.firing := by
  unfold cancel
  split <;> rfl

private theorem cancel_refused {set : TimerSet σ} (refused : (set.cancel id).1 = false) : (set.cancel id).2 = set := by
  unfold cancel at refused ⊢
  split at refused
  · cases refused
  · rename_i unmarked
    rw [if_neg unmarked]
    apply remove_absent
    intro entry member same
    rw [contains_eq_true.mpr ⟨entry, member, same⟩] at refused
    cases refused

private theorem Sound.endsOne (sound : session.Sound) (id : TimerId) : session.EndsOne id where
  ends known list := by
    have step := session.move_step (.cancel id)
    have doomed := sound.cancel_doomed known
    refine ⟨(doomed.moves (sound.step step) list).unarmed ((sound.step step).moves list), ?_⟩
    rw [doomed.moves_ticksOf (sound.step step)]
    simp [Session.move, note]
  refuses refused := by
    refine ⟨cancel_refused refused, fun list => ?_⟩
    obtain ⟨more, grown, same⟩ := session.moves_withPast (session.history ++ [.cancelled id false]) list
    refine ⟨more, grown, ?_⟩
    rw [← same, Session.move, cancel_refused refused, refused]
    rfl
  others := by
    rw [sound.cancel_armed]
    exact remove_remove session.set id
  out timer current different := by
    refine ⟨current, cancel_firing session.set id, ?_⟩
    rw [cancel_caught, sound.marked_of_out current]
    simp [different]
  later known := sound.cancel_alike.moves sound (sound.step (session.move_step _)) (sound.cancel_doomed known)

/-- In every interleaving of all that is done with a set, a cancellation ends the timer it finds, for good,
and leaves the others alone. -/
theorem every_cancellation_ends_one (given : Nat) (list : List (Move σ)) (id : TimerId) :
    ((start given).moves list).EndsOne id := ((start_sound given).moves list).endsOne id

/-- There is a way for the timer to fire once more. -/
def MayFire (id : TimerId) (session : Session σ) : Prop :=
  ∃ list, (ticksOf id session.history).length < (ticksOf id (session.moves list).history).length

private theorem Doomed.not_mayFire (doomed : session.Doomed id) (sound : session.Sound) : ¬ session.MayFire id := by
  rintro ⟨list, more⟩
  rw [doomed.moves_ticksOf sound] at more
  exact Nat.lt_irrefl _ more

private theorem MayFire.of_moves (list : List (Move σ)) (later : (session.moves list).MayFire id) :
    session.MayFire id := by
  obtain ⟨rest, more⟩ := later
  refine ⟨list ++ rest, ?_⟩
  have early : ticksOf id session.history <+: ticksOf id (session.moves list).history :=
    (session.moves_history list).filterMap _
  rw [moves_append]
  exact Nat.lt_of_le_of_lt early.length_le more

private theorem Sound.moves_cancel (sound : session.Sound) (idle : session.out = none) (others : List TimerId) :
    (session.moves (others.map .cancel)).out = none ∧
      (session.moves (others.map .cancel)).set.armed =
        session.set.armed.filter fun entry => decide (entry.timer.id ∉ others) := by
  induction others generalizing session with
  | nil => exact ⟨idle, (List.filter_eq_self.mpr (by simp)).symm⟩
  | cons id rest ih =>
    have step := session.move_step (.cancel id)
    obtain ⟨still, armed⟩ := ih (sound.step step) idle
    refine ⟨still, armed.trans ?_⟩
    show (session.set.cancel id).2.armed.filter _ = _
    rw [sound.cancel_armed, remove, List.filter_filter]
    congr 1
    funext entry
    simp [Bool.and_comm]

/-- An armed timer may fire: it does at its deadline, when the others have been cancelled. -/
private theorem Sound.mayFire_of_armed (sound : session.Sound) (idle : session.out = none) {entry : Armed σ}
    (member : entry ∈ session.set.armed) : session.MayFire entry.timer.id := by
  let others := (session.set.armed.map (·.timer.id)).filter (· ≠ entry.timer.id)
  obtain ⟨still, armed⟩ := sound.moves_cancel idle others
  apply MayFire.of_moves (others.map .cancel)
  generalize session.moves (others.map .cancel) = after at still armed
  refine ⟨[.fire entry.deadline], ?_⟩
  have left : entry ∈ after.set.armed := by
    rw [armed]
    exact List.mem_filter.mpr ⟨member, by simp [others]⟩
  cases fired : after.set.fire? entry.deadline with
  | none => exact absurd (fire?_eq_none.mp fired entry left) (Instant.not_lt.mpr (Instant.le_refl _))
  | some result =>
    obtain ⟨firing, set⟩ := result
    obtain ⟨other, present, _, _, rfl, rfl⟩ := fire?_eq_some fired
    have same : other.timer.id = entry.timer.id := by
      rw [armed] at present
      obtain ⟨old, kept⟩ := List.mem_filter.mp present
      have listed : other.timer.id ∈ session.set.armed.map (·.timer.id) :=
        List.mem_map_of_mem (f := fun armed : Armed σ => armed.timer.id) old
      by_cases same : other.timer.id = entry.timer.id
      · exact same
      · exact absurd (List.mem_filter.mpr ⟨listed, decide_eq_true same⟩) (of_decide_eq_true kept)
    simp [Session.moves, Session.move, still, fired, note, Timer.tick, same]

theorem mem_finish {set : TimerSet σ} {entry : Armed σ} {now : Instant} (member : entry ∈ set.armed) :
    entry ∈ (set.finish timer now).armed := by
  unfold finish
  split
  · exact member
  · exact mem_arm member

private theorem Sound.mayFire (sound : session.Sound) (staying : ¬ session.Leaving id)
    (found : (session.set.cancel id).1 = true) : session.MayFire id := by
  have step := session.move_step (.finish Instant.last)
  apply MayFire.of_moves [.finish Instant.last]
  show (session.move (.finish Instant.last)).MayFire id
  have idle : (session.move (.finish Instant.last)).out = none := by
    simp only [Session.move]
    split
    · rfl
    · assumption
  suffices armed : ∃ entry ∈ (session.move (.finish Instant.last)).set.armed, entry.timer.id = id by
    obtain ⟨entry, member, rfl⟩ := armed
    exact (sound.step step).mayFire_of_armed idle member
  rcases sound.found_iff.mp found with ⟨timer, out, rfl⟩ | ⟨entry, member, same⟩
  · have kept : ¬ (session.set.firingCancelled = true ∨ timer.repeats.isExhausted = true) :=
      fun last => staying ⟨timer, out, rfl, last⟩
    rw [not_or, Bool.not_eq_true, Bool.not_eq_true] at kept
    simp [Session.move, out, TimerSet.finish, arm, kept]
  · refine ⟨entry, ?_, same⟩
    simp only [Session.move]
    split
    · exact mem_finish member
    · exact member

private theorem Sound.unknown_of_ahead (sound : session.Sound) (ahead : session.Ahead id) :
    (session.set.cancel id).1 = false := by
  rw [← Bool.not_eq_true, sound.found_iff]
  rintro (⟨timer, out, rfl⟩ | ⟨entry, member, same⟩)
  · rcases ahead with made | number
    · exact sound.unmade_of_out out made
    · exact absurd (sound.numbered timer.id (mem_ids_of_out out)) (Nat.not_le_of_lt number)
  · exact sound.not_armed_of_ahead ahead entry member same

private theorem Sound.unknown_of_gone (sound : session.Sound) (gone : session.Gone id) :
    (session.set.cancel id).1 = false := by
  rw [← Bool.not_eq_true, sound.found_iff]
  rintro (⟨timer, out, rfl⟩ | ⟨entry, member, rfl⟩)
  · exact gone.absent (mem_ids_of_out out)
  · exact gone.absent (mem_ids_of_armed member)

private theorem Sound.gone_of_unknown (sound : session.Sound) (unknown : (session.set.cancel id).1 = false)
    (handed : ¬ session.Ahead id) : session.Gone id := by
  rw [Ahead, not_or, Nat.not_lt] at handed
  rw [← Bool.not_eq_true, sound.found_iff] at unknown
  refine ⟨handed.2, ?_⟩
  simp only [ids, List.mem_append, Option.mem_toList, List.mem_map]
  rintro (made | out | armed)
  · exact handed.1 (List.mem_map.mpr made)
  · exact unknown (.inl (Option.map_eq_some_iff.mp out))
  · exact unknown (.inr armed)

/-- What the answer to a cancellation says. -/
structure Answers (id : TimerId) (session : Session σ) : Prop where
  ahead : session.Ahead id → (session.set.cancel id).1 = false
  gone : session.Gone id → (session.set.cancel id).1 = false
  -- Of the others it says whether they may fire again, but for one that is out for the last time.
  known : ¬ session.Ahead id → ¬ session.Leaving id →
    ((session.set.cancel id).1 = true ↔ session.MayFire id)
  leaving : session.Leaving id → (session.set.cancel id).1 = true ∧ ¬ session.MayFire id

private theorem Sound.answers (sound : session.Sound) (id : TimerId) : session.Answers id where
  ahead := sound.unknown_of_ahead
  gone := sound.unknown_of_gone
  known handed staying := by
    constructor
    · exact sound.mayFire staying
    · intro may
      rw [← Bool.not_eq_false]
      intro unknown
      exact Doomed.not_mayFire (.inl (sound.gone_of_unknown unknown handed)) sound may
  leaving leaving := by
    refine ⟨?_, Doomed.not_mayFire (.inr leaving) sound⟩
    obtain ⟨timer, out, same, _⟩ := leaving
    exact sound.found_iff.mpr (.inl ⟨timer, out, same⟩)

/-- In every interleaving of all that is done with a set, the answer to a cancellation tells whether the
timer may fire again, unless it is out for the last time. -/
theorem every_cancellation_answered (given : Nat) (list : List (Move σ)) (id : TimerId) :
    ((start given).moves list).Answers id := ((start_sound given).moves list).answers id

/-- A timer that is cancelled twice while it is out is found twice, and so is one in its last firing. -/
theorem leaving_timers_found :
    let second (secs : Int64) : Instant := ⟨secs, 0, by decide⟩
    let firing (repeats : Repeat) : Session Unit :=
      (start 0).moves
        [.create ⟨1, 0, by decide⟩ repeats .dispatch .taskAddTimer, .arm ⟨1⟩ (second 0), .fire (second 1)]
    let again := (firing .forever).move (.cancel ⟨1⟩)
    let last := firing (.times 1)
    (((firing .forever).set.cancel ⟨1⟩).1 = true ∧ (again.set.cancel ⟨1⟩).1 = true ∧ ¬ again.MayFire ⟨1⟩) ∧
      (last.set.cancel ⟨1⟩).1 = true ∧ ¬ last.MayFire ⟨1⟩ := by
  intro second firing again last
  have sound (repeats : Repeat) : (firing repeats).Sound := (start_sound 0).moves _
  have caught : again.Leaving ⟨1⟩ := by decide +kernel
  have spent : last.Leaving ⟨1⟩ := by decide +kernel
  refine ⟨⟨by decide +kernel, by decide +kernel, ?_⟩, by decide +kernel, ?_⟩
  · exact Doomed.not_mayFire (.inr caught) ((sound _).step (move_step _ _))
  · exact Doomed.not_mayFire (.inr spent) (sound _)

end TaskKernel.TimerSet.Session
