import TaskKernel.Proofs.Task.Line
import TaskKernel.Proofs.Task.Spacing

/-!
The timer set of a task is in order at every moment. Each timer is in one place, nothing that is armed is used up,
and the marker stands for the timer that has been taken out and whose firing is not over.
-/
namespace TaskKernel

variable {σ π ρ υ : Type}

namespace TimerSet.Session

variable {session : Session σ}

private theorem move_out {move : Move σ} (unfiring : ∀ now, move ≠ .fire now) (unending : ∀ now, move ≠ .finish now) :
    (session.move move).out = session.out := by
  cases move with
  | fire now => exact absurd rfl (unfiring now)
  | finish now => exact absurd rfl (unending now)
  | allocate | cancel => rfl
  | create | arm | clear =>
    simp only [Session.move]
    split <;> rfl

private theorem moves_out {list : List (Move σ)} (unfiring : ∀ move ∈ list, ∀ now, move ≠ .fire now)
    (unending : ∀ move ∈ list, ∀ now, move ≠ .finish now) : (session.moves list).out = session.out := by
  induction list generalizing session with
  | nil => rfl
  | cons move rest ih =>
    rw [List.forall_mem_cons] at unfiring unending
    exact (ih unfiring.2 unending.2).trans (move_out unfiring.1 unending.1)

end TimerSet.Session

namespace Task.Host

variable {host : Host σ π ρ υ} {session : TimerSet.Session σ}

/-- The timer whose firing a move ends. -/
def finishes? (host : Host σ π ρ υ) : Move σ π υ → Option (Timer σ)
  | .serve =>
    match host.task.place with
    | .rearming _ timer => some timer
    | _ => none
  | _ => none

/-- The numbers of the timers that a run takes out, in the order of time. -/
def popped (host : Host σ π ρ υ) : List (Move σ π υ) → List TimerId
  | [] => []
  | move :: rest => ((host.pops? move).map (·.2.id)).toList ++ (host.move move).popped rest

/-- The numbers of the timers whose firings a run ends, in the order of time. -/
def finished (host : Host σ π ρ υ) : List (Move σ π υ) → List TimerId
  | [] => []
  | move :: rest => ((host.finishes? move).map (·.id)).toList ++ (host.move move).finished rest

/-- The number of the timer that is out, if there is one. -/
def outside (host : Host σ π ρ υ) : List TimerId := (host.task.place.out?.map (·.id)).toList

private theorem outside_of_place {after : Host σ π ρ υ} (same : after.task.place = host.task.place) :
    after.outside = host.outside := by rw [outside, same, outside]

private theorem outside_of_draining {began : Instant} (draining : host.task.place = .draining began) :
    (host.move .serve).outside = ((host.pops? .serve).map (·.2.id)).toList := by
  cases pops : host.pops? .serve with
  | some popped => rw [outside, out_of_pops pops]; rfl
  | none =>
    have unfired : host.task.timers.fire? began = none := by
      simp only [pops?, draining, Option.map_eq_none_iff] at pops
      rw [TimerSet.fire?, pops, Option.map_none]
    simp [outside, Host.move, Host.step?, Task.step?, draining, unfired, Place.out?]

private theorem outside_of_rearming {began : Instant} {timer : Timer σ}
    (ends : host.task.place = .rearming began timer) : (host.move .serve).outside = [] := by
  have place : (host.move .serve).task.place = if host.task.quitting then .closing else .draining began := by
    simp [Host.move, Host.step?, Task.step?, ends]
  rw [outside, place]
  split <;> rfl

private theorem Keeps.outside_of_serve (keeps : host.Keeps session) (calm : ∀ began, host.task.place ≠ .draining began)
    (ongoing : ∀ began timer, host.task.place ≠ .rearming began timer) :
    (host.move .serve).outside = host.outside := by
  have unending : ∀ timing ∈ host.timings .serve, ∀ now, timing ≠ .finish now := by
    rcases host.timings_prompt .serve with prompt | ⟨began, timer, place, _⟩
    · rintro timing member now rfl
      exact prompt _ member
    · exact absurd place (ongoing began timer)
  have out : (session.moves (host.timings .serve)).out = session.out :=
    TimerSet.Session.moves_out (host.timings_unfiring calm .serve) unending
  rw [(keeps.move .serve).out, keeps.out] at out
  rw [Host.outside, out, Host.outside]

private theorem Keeps.outside (keeps : host.Keeps session) (move : Move σ π υ) :
    host.outside ++ ((host.pops? move).map (·.2.id)).toList =
      ((host.finishes? move).map (·.id)).toList ++ (host.move move).outside := by
  cases serves : move.isServe with
  | false =>
    have still : (host.move move).outside = host.outside := by
      rcases host.move_place serves with same | ⟨idle, _, lost | entering⟩
      · exact outside_of_place same
      · rw [Host.outside, lost, Host.outside, idle]; rfl
      · rw [Host.outside, entering, Host.outside, idle]; rfl
    have neither : host.pops? move = none ∧ host.finishes? move = none := by
      cases move <;> first | exact ⟨rfl, rfl⟩ | cases serves
    rw [still, neither.1, neither.2]
    exact List.append_nil _
  | true =>
    obtain rfl := Host.Move.eq_serve serves
    cases place : host.task.place with
    | draining began =>
      rw [outside_of_draining place]
      simp [Host.outside, finishes?, place, Place.out?]
    | rearming began timer =>
      rw [outside_of_rearming place]
      simp [Host.outside, finishes?, pops?, place, Place.out?]
    | _ =>
      rw [keeps.outside_of_serve (by simp [place]) (by simp [place])]
      simp [finishes?, pops?, place]

private theorem Keeps.popped (keeps : host.Keeps session) (list : List (Move σ π υ)) :
    host.outside ++ host.popped list = host.finished list ++ (host.moves list).outside := by
  induction list generalizing host session with
  | nil => exact List.append_nil _
  | cons move rest ih =>
    rw [Host.popped, finished, ← List.append_assoc, keeps.outside move, List.append_assoc, ih (keeps.move move),
      List.append_assoc]
    rfl

/-- What holds of the timers of a task after a run. -/
structure InOrder (host : Host σ π ρ υ) (list : List (Move σ π υ)) : Prop where
  apart : ((host.moves list).task.timers.firing.toList ++ ((host.moves list).task.timers.armed.map (·.timer.id) ++
    (host.moves list).task.waiting.map (·.id))).Nodup
  marked : (host.moves list).task.timers.firing = (host.moves list).task.place.out?.map (·.id)
  -- The timers that have been taken out are those whose firings are over, and then the one that is marked.
  awaited : host.popped list = host.finished list ++ (host.moves list).task.timers.firing.toList
  lasting : ∀ armed ∈ (host.moves list).task.timers.armed, armed.timer.interval.isZero = false
  unspent : ∀ armed ∈ (host.moves list).task.timers.armed, armed.timer.repeats ≠ .times 0
  ticks : ∀ move began timer, (host.moves list).pops? move = some (began, timer) → timer.repeats ≠ .times 0
  caught : (host.moves list).task.timers.firingCancelled = true → (host.moves list).task.timers.firing ≠ none

variable {list : List (Move σ π υ)}

private theorem Keeps.apart (keeps : host.Keeps session) : (host.task.timers.firing.toList ++
    (host.task.timers.armed.map (·.timer.id) ++ host.task.waiting.map (·.id))).Nodup := by
  have apart := keeps.sound.apart
  obtain ⟨refused, made, _⟩ := keeps.made
  rw [TimerSet.Session.ids, ← keeps.sound.marked, keeps.set, ((made.map (·.id)).append_right _).nodup_iff,
    List.map_append] at apart
  rw [← List.append_assoc, List.perm_append_comm.nodup_iff]
  exact apart.sublist ((List.sublist_append_left _ _).append_right _)

private theorem Keeps.inOrder (keeps : (host.moves list).Keeps session) (awaited : host.popped list =
    host.finished list ++ (host.moves list).outside) : host.InOrder list := by
  have sound := keeps.sound
  have marked : (host.moves list).task.timers.firing = (host.moves list).task.place.out?.map (·.id) := by
    rw [← keeps.set, sound.marked, keeps.out]
  have unspent : ∀ armed ∈ (host.moves list).task.timers.armed, armed.timer.repeats ≠ .times 0 := by
    rw [← keeps.set]
    intro armed member same
    have left := sound.unspent armed member
    rw [same] at left
    cases left
  refine ⟨keeps.apart, marked, ?_, ?_, unspent, ?_, ?_⟩
  · rw [marked]
    exact awaited
  · rw [← keeps.set]
    exact fun armed member => sound.lasting armed.timer (.inr (.inr ⟨armed, member, rfl⟩))
  · intro move began timer pops
    obtain ⟨_, _, rest, found⟩ := pops?_eq_some pops
    obtain ⟨armed, member, _, _, rfl, _⟩ := TimerSet.popDue?_eq_some found
    exact unspent armed member
  · rw [← keeps.set, sound.marked]
    intro caught unmarked
    rw [sound.uncaught (Option.map_eq_none_iff.mp unmarked)] at caught
    cases caught

end Task.Host

namespace Task

/-- The timers of a task are in order after every run of it. -/
theorem every_timer_set_in_order {kernel : Kernel} {thread : ThreadKey} {settings : Settings υ}
    {handler : Handler σ π ρ υ} {state : σ} {host : Host σ π ρ υ}
    (created : (Host.create kernel thread settings handler state).1 = .ok host) (list : List (Host.Move σ π υ)) :
    host.InOrder list := by
  have initial := Host.create_keeps created
  have whole := (Watch.start_sound created).moves list
  have keeps := whole.keeps
  rw [Watch.Keeps, Watch.start_moves_host] at keeps
  obtain ⟨life, timer, _, _, fresh⟩ := create_cases created
  have idle : host.outside = [] := by
    rw [Host.outside, fresh]
    rfl
  have awaited := initial.popped list
  rw [idle, List.nil_append] at awaited
  exact keeps.inOrder awaited

/-- A tick cancels its own timer: at that moment the timer is marked, and it is out. -/
theorem timer_set_in_order_amid_tick :
    let list : List (Host.Move Nat Nat Unit) :=
      [.begin 7 false, .commit, .serve, .serve, .passTo ⟨5, 0, by decide⟩, .serve, .serve, .serve, .serve]
    ∃ host, (Host.create Worker.kernel 7 (Worker.settings (some Worker.everySecond)) Worker.cancelling 0).1 = .ok host ∧
      (host.moves list).task.timers.firing = some ⟨1⟩ ∧ (host.moves list).task.timers.firingCancelled = true ∧
        host.InOrder list := by
  intro list
  have created : (Host.create Worker.kernel 7 (Worker.settings (some Worker.everySecond)) Worker.cancelling 0).1 =
    .ok _ := rfl
  exact ⟨_, created, by decide +kernel, by decide +kernel, every_timer_set_in_order created list⟩

end Task

end TaskKernel
