import TaskKernel.Proofs.Timer.Session

/-!
How a timer comes to be armed: once it has been made, or when its firing is over. Its deadline is then one
interval after the reading of the clock.
-/
namespace TaskKernel.TimerSet.Session

variable {σ : Type} {session : Session σ} {armed : Armed σ} {id : TimerId} {now : Instant}

theorem armed_move {move : Move σ} (member : armed ∈ (session.move move).set.armed) :
    armed ∈ session.set.armed ∨ ∃ now, armed.deadline = now.addClamped armed.timer.interval ∧
      ((move = .arm armed.timer.id now ∧ armed.timer ∈ session.made) ∨
        (move = .finish now ∧ session.out = some armed.timer)) := by
  cases move with
  | allocate => exact .inl member
  | create =>
    simp only [Session.move] at member
    split at member <;> exact .inl member
  | arm id now =>
    simp only [Session.move] at member
    split at member
    · exact .inl member
    · rename_i timer found
      obtain rfl : timer.id = id := by simpa using List.find?_some found
      refine (mem_armed_arm member).imp_right ?_
      rintro ⟨_, rfl, deadline⟩
      exact ⟨now, deadline, .inl ⟨rfl, List.mem_of_find?_eq_some found⟩⟩
  | fire now =>
    simp only [Session.move] at member
    split at member
    · rename_i firing set _ fired
      obtain ⟨_, _, _, _, _, rfl⟩ := fire?_eq_some fired
      exact .inl (List.mem_filter.mp member).1
    · exact .inl member
  | cancel id =>
    simp only [Session.move, note, cancel] at member
    split at member
    · exact .inl member
    · exact .inl (List.mem_filter.mp member).1
  | finish now =>
    simp only [Session.move, finish] at member
    split at member
    · rename_i timer out
      split at member
      · exact .inl member
      · refine (mem_armed_arm member).imp_right ?_
        rintro ⟨_, rfl, deadline⟩
        exact ⟨now, deadline, .inr ⟨rfl, out⟩⟩
    · exact .inl member
  | clear =>
    simp only [Session.move] at member
    split at member
    · exact .inl member
    · cases member

/-- A move that puts no timer back, and arms one at this instant or not at all. -/
def Move.Prompt (now : Instant) : Move σ → Prop
  | arm _ instant => instant = now
  | finish _ => False
  | allocate | create .. | fire _ | cancel _ | clear => True

theorem Ahead.before_moves (list : List (Move σ)) (ahead : (session.moves list).Ahead id) : session.Ahead id := by
  induction list generalizing session with
  | nil => exact ahead
  | cons move rest ih => exact (ih ahead).before (session.move_step move)

theorem Sound.not_ahead_of_out (sound : session.Sound) {timer : Timer σ} (out : session.out = some timer) :
    ¬ session.Ahead timer.id := by
  rintro (made | number)
  · have apart := sound.apart
    rw [ids, List.nodup_append, out] at apart
    exact apart.2.2 timer.id made timer.id (List.mem_append_left _ (List.mem_singleton_self _)) rfl
  · have bound := sound.numbered timer.id (mem_ids_of_out out)
    omega

theorem Sound.armed_moves (sound : session.Sound) {list : List (Move σ)}
    (prompt : ∀ move ∈ list, move.Prompt now) (member : armed ∈ (session.moves list).set.armed) :
    armed ∈ session.set.armed ∨ (armed.deadline = now.addClamped armed.timer.interval ∧
      armed.timer.fired = 0 ∧ session.Ahead armed.timer.id) := by
  induction list generalizing session with
  | nil => exact .inl member
  | cons move rest ih =>
    rw [List.forall_mem_cons] at prompt
    have step := session.move_step move
    rcases ih (sound.step step) prompt.2 member with present | ⟨deadline, unfired, ahead⟩
    · refine (armed_move present).imp_right ?_
      rintro ⟨instant, deadline, ⟨rfl, made⟩ | ⟨rfl, _⟩⟩
      · obtain rfl : instant = now := prompt.1
        exact ⟨deadline, sound.unfired armed.timer made, .inl (List.mem_map_of_mem made)⟩
      · exact prompt.1.elim
    · exact .inr ⟨deadline, unfired, ahead.before step⟩

end TaskKernel.TimerSet.Session
