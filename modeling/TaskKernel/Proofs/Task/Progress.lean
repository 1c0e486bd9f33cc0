import TaskKernel.Proofs.Task.Exit

/-!
How the serving thread gets on. What others do leaves it where it stands; its own steps lead it from the
first cause to quit to its end, as long as it goes on to be given steps that it can take.
-/
namespace TaskKernel.Task

variable {σ π ρ υ : Type}

def Host.Move.isServe : Host.Move σ π υ → Bool
  | .serve => true
  | .begin .. | .commit | .join _ | .abandon | .setPriority .. | .post _ | .call .. | .addTimer .. | .cancelTimer _
    | .permit | .look _ | .rouseCaller _ | .expireCaller _ | .rouse | .expire | .passTo _ | .allocateHandle
    | .allocateTimer | .identify _ | .record .. => false

variable {task : Task σ π ρ υ} {host : Host σ π ρ υ} {move : Host.Move σ π υ}

theorem Host.Move.eq_serve (serves : move.isServe = true) : move = .serve := by
  cases move <;> first | rfl | cases serves

/-- What a move makes of a task, unless it is a step of the serving thread. -/
inductive Touched (task : Task σ π ρ υ) : Host.Move σ π υ → Task σ π ρ υ → Prop
  | spared (move : Host.Move σ π υ) : Touched task move task
  | begun (thread : ThreadKey) (detached : Bool) : Touched task (.begin thread detached) (task.begin detached).2.1
  | committed (starting : task.life.starting = true) : Touched task .commit task.commit
  | joined (thread : ThreadKey) : Touched task (.join thread) task.join.2.1
  | abandoned : Touched task .abandon task.abandon
  | prioritized (thread : ThreadKey) (priority : Priority) (life : Lifecycle) (effects : List Effect)
      (changed : task.life.setPriority priority = .ok (life, effects)) :
      Touched task (.setPriority thread priority) { task with life }
  | dealt (move : Host.Move σ π υ) (exchange : Exchange (Command σ π) ρ) :
      Touched task move { task with exchange }
  | permitted : Touched task .permit task.permit

private theorem Host.push_touched (host : Host σ π ρ υ) (move : Host.Move σ π υ) (command : Command σ π) :
    Touched host.task move (host.push command).2.task := by
  unfold Host.push
  split
  · exact .spared move
  · exact .dealt move _

theorem Host.move_touched (host : Host σ π ρ υ) (other : move.isServe = false) :
    Touched host.task move (host.move move).task := by
  have owned {act : Host σ π ρ υ → Host σ π ρ υ} (acts : Touched host.task move (act host).task) :
      Touched host.task move (host.asOwner act).task := by
    unfold Host.asOwner
    split
    · exact .spared move
    · exact acts
  cases move with
  | serve => cases other
  | begin thread detached => exact owned (.begun thread detached)
  | join thread => exact owned (.joined thread)
  | abandon => exact owned .abandoned
  | setPriority thread priority =>
    refine owned ?_
    unfold Host.setPriority Task.setPriority
    cases changed : host.task.life.setPriority priority with
    | error failure => exact .spared _
    | ok after => exact .prioritized thread priority after.1 after.2 changed
  | commit =>
    simp only [Host.move]
    split
    · exact .committed ‹_›
    · exact .spared _
  | post message => exact host.push_touched _ _
  | cancelTimer id => exact host.push_touched _ _
  | call thread message timeout =>
    simp only [Host.move, Host.call]
    split
    · exact .spared _
    · split
      · exact .spared _
      · exact .dealt _ _
  | addTimer interval repeats action =>
    simp only [Host.move, Host.addTimer]
    split
    · exact .spared _
    · exact Host.push_touched { host with kernel := host.kernel.allocateTimer.2 } _ _
  | passTo now =>
    simp only [Host.move]
    split <;> exact .spared _
  | permit => exact .permitted
  | look | rouseCaller | expireCaller | rouse | expire => exact .dealt _ _
  | allocateHandle | allocateTimer | identify | record => exact .spared _

/-- What others leave alone in a task whose thread has begun. -/
structure Still (task after : Task σ π ρ υ) : Prop where
  place : after.place = task.place
  quitting : after.quitting = task.quitting
  wake : after.surface.wake = task.surface.wake

theorem Still.refl (task : Task σ π ρ υ) : Still task task := ⟨rfl, rfl, rfl⟩

theorem Still.trans {first second third : Task σ π ρ υ} (one : Still first second)
    (two : Still second third) : Still first third where
  place := two.place.trans one.place
  quitting := two.quitting.trans one.quitting
  wake := two.wake.trans one.wake

private theorem abandon_still (begun : task.place ≠ .idle) : Still task task.abandon := by
  unfold abandon
  split
  · contradiction
  · exact ⟨rfl, rfl, rfl⟩
  · exact ⟨rfl, rfl, rfl⟩

private theorem join_still (begun : task.place ≠ .idle) : Still task task.join.2.1 := by
  unfold join
  split
  · exact abandon_still begun
  · exact abandon_still begun
  · split
    · exact ⟨rfl, rfl, rfl⟩
    · exact .refl task

theorem Touched.still {after : Task σ π ρ υ} (touched : Touched task move after) (begun : task.place ≠ .idle) :
    Still task after := by
  cases touched with
  | begun thread detached =>
    obtain ⟨refusal, effects, refused⟩ := begin_of_begun begun detached
    rw [refused]
    exact .refl task
  | abandoned => exact abandon_still begun
  | joined thread => exact join_still begun
  | spared | committed | prioritized | dealt | permitted => exact ⟨rfl, rfl, rfl⟩

theorem Host.move_still (begun : host.task.place ≠ .idle) (other : move.isServe = false) :
    Still host.task (host.move move).task := (host.move_touched other).still begun

theorem Host.serve_of_blocked (blocked : host.step? = none) : host.move .serve = host := by
  rw [Host.move, blocked, Option.getD_none]

/-- The thread takes a step. -/
def Host.Steps (host : Host σ π ρ υ) (progress : Progress σ π ρ υ) : Prop :=
  host.task.step? host.kernel.now host.kernel.timers = some progress

theorem Host.Steps.after {progress : Progress σ π ρ υ} (steps : host.Steps progress) :
    (host.move .serve).task = progress.task := by
  rw [Host.move, Host.step?, steps, Option.map_some, Option.getD_some]

theorem Host.move_still_of_no_step (begun : host.task.place ≠ .idle) {move : Host.Move σ π υ}
    (rests : ¬ (move = .serve ∧ ∃ progress, host.Steps progress)) :
    Still host.task (host.move move).task := by
  cases serves : move.isServe with
  | false => exact Host.move_still begun serves
  | true =>
    obtain rfl := Host.Move.eq_serve serves
    have blocked : host.step? = none := by
      rw [Host.step?, Option.map_eq_none_iff]
      cases steps : host.task.step? host.kernel.now host.kernel.timers with
      | none => rfl
      | some progress => exact absurd ⟨rfl, progress, steps⟩ rests
    rw [Host.serve_of_blocked blocked]
    exact .refl host.task

/-- How many steps the thread needs to close its queue, where it is about to do so. -/
inductive Place.Closes (quitting : Bool) : Nat → Place σ π ρ υ → Prop
  | now : Closes quitting 1 .closing
  | rearming (began : Instant) (timer : Timer σ) (quits : quitting = true) :
      Closes quitting 2 (.rearming began timer)
  | answering (slot : Option Nat) (response : Response ρ) (quits : quitting = true) :
      Closes quitting 2 (.answering slot response)

private theorem Place.Closes.pos {quitting : Bool} {steps : Nat} {place : Place σ π ρ υ}
    (closes : place.Closes quitting steps) : 0 < steps ∧ place ≠ .idle := by
  cases closes with
  | now => exact ⟨Nat.one_pos, nofun⟩
  | rearming | answering => exact ⟨Nat.two_pos, nofun⟩

/-- The service has not come to a cause to quit yet, or it has and the thread is about to close the queue
or has closed it. -/
theorem recorded_cases {quitting : Bool} {history : List (Event σ π ρ)} {place : Place σ π ρ υ}
    (recorded : Recorded quitting history place) :
    (history = [] ∨ Serving history) ∨ ∃ exit dropped ending, Quit history exit ∧
      exit <+: [.closed dropped, .began .exiting, .ended .exiting ending false] ∧
      ((exit = [] ∧ ∃ steps, steps ≤ 2 ∧ place.Closes quitting steps) ∨
        (.closed dropped ∈ exit ∧ place.isPast = true)) := by
  cases place with
  | idle | lost | entering | arming => exact .inl (.inl recorded)
  | starting | sweeping | draining | ticking | callingBack | receiving | handling | ordering =>
    exact .inl (.inr recorded)
  | rearming began timer =>
    cases quitting with
    | false => exact .inl (.inr recorded)
    | true =>
      exact .inr ⟨[], [], .returned none, recorded, List.nil_prefix,
        .inl ⟨rfl, 2, Nat.le_refl 2, .rearming began timer rfl⟩⟩
  | answering slot response =>
    cases quitting with
    | false => exact .inl (.inr recorded)
    | true =>
      exact .inr ⟨[], [], .returned none, recorded, List.nil_prefix,
        .inl ⟨rfl, 2, Nat.le_refl 2, .answering slot response rfl⟩⟩
  | closing =>
    exact .inr ⟨[], [], .returned none, recorded, List.nil_prefix, .inl ⟨rfl, 1, by decide, .now⟩⟩
  | abandoning slots left =>
    obtain ⟨dropped, quit⟩ := recorded
    exact .inr ⟨_, dropped, .returned none, quit, by simp, .inr ⟨by simp, rfl⟩⟩
  | exiting rest =>
    obtain ⟨dropped, quit⟩ := recorded
    exact .inr ⟨_, dropped, .returned none, quit, by simp, .inr ⟨by simp, rfl⟩⟩
  | disposing | leaving | reporting | ended =>
    obtain ⟨dropped, ending, quit⟩ := recorded
    exact .inr ⟨_, dropped, ending, quit, List.prefix_rfl, .inr ⟨by simp, rfl⟩⟩

variable {course : Course σ π ρ υ}

theorem Followed.history (followed : Followed course) (list : List (Host.Move σ π υ)) :
    course.diary.history <+: (course.moves list).diary.history := by
  let kept (_ : Task σ π ρ υ) (diary : Diary σ π ρ) : Prop := course.diary.history <+: diary.history
  have step (task : Task σ π ρ υ) (diary : Diary σ π ρ) (next : Task σ π ρ υ) (later : Diary σ π ρ)
      (_ : Mirrored task diary) (before : kept task diary) (step : Step task diary next later) :
      kept next later := before.trans (history_step step)
  exact followed.keeps step List.prefix_rfl list

private theorem closing_serve (closing : course.host.task.place = .closing) :
    .closed course.host.task.exchange.queue.entries ∈ (course.move .serve).diary.history := by
  have steps : course.host.step?.isSome = true := by
    rw [Host.step?, Option.isSome_map, step?, closing]
    rfl
  simp [Course.move, Host.write, steps, write, closing]

private theorem quitting_serve {place : Place σ π ρ υ} (stands : course.host.task.place = place)
    (closes : place.Closes course.host.task.quitting 2) :
    (course.move .serve).host.task.place = .closing := by
  cases closes with
  | rearming _ _ quits => simp [Course.move, Host.move, Host.step?, step?, stands, quits]
  | answering _ _ quits => simp [Course.move, Host.move, Host.step?, step?, stands, afterCall, quits]

/-- What the thread comes to in a number of steps, each of which it can take at once, does not depend on
what others do meanwhile. -/
private theorem Followed.within (near : Nat → Bool → Place σ π ρ υ → Prop) (found : List (Event σ π ρ) → Prop)
    (ahead : ∀ {steps quitting place}, near steps quitting place → 0 < steps ∧ place ≠ .idle)
    (serve : ∀ {course : Course σ π ρ υ} {steps}, Followed course →
      near (steps + 1) course.host.task.quitting course.host.task.place →
      found (course.move .serve).diary.history ∨
        near steps (course.move .serve).host.task.quitting (course.move .serve).host.task.place)
    (stays : ∀ {before after}, before <+: after → found before → found after)
    (followed : Followed course) {steps : Nat}
    (stands : near steps course.host.task.quitting course.host.task.place)
    (list : List (Host.Move σ π υ)) (enough : steps ≤ list.countP Host.Move.isServe) :
    found (course.moves list).diary.history := by
  induction list generalizing course steps with
  | nil =>
    have pos := (ahead stands).1
    simp only [List.countP_nil] at enough
    omega
  | cons move rest ih =>
    cases serves : move.isServe with
    | false =>
      -- Somebody else has moved: the thread needs as many steps as before.
      have still := Host.move_still (ahead stands).2 serves
      rw [List.countP_cons_of_neg (by simp [serves])] at enough
      refine ih (followed.move move) ?_ enough
      show near steps (course.host.move move).task.quitting (course.host.move move).task.place
      rw [still.place, still.quitting]
      exact stands
    | true =>
      rw [List.countP_cons_of_pos serves] at enough
      obtain rfl := Host.Move.eq_serve serves
      obtain ⟨less, rfl⟩ := Nat.exists_eq_add_of_lt (ahead stands).1
      rw [Nat.zero_add] at stands enough
      rcases serve followed stands with done | nearer
      · exact stays ((followed.move .serve).history rest) done
      · exact ih (followed.move .serve) nearer (Nat.le_of_succ_le_succ enough)

/-- Two steps of the thread are enough to close the queue once there is a cause to quit. -/
theorem Followed.closes (followed : Followed course) {steps : Nat}
    (closes : course.host.task.place.Closes course.host.task.quitting steps)
    (list : List (Host.Move σ π υ)) (enough : steps ≤ list.countP Host.Move.isServe) :
    ∃ dropped, .closed dropped ∈ (course.moves list).diary.history := by
  let near (steps : Nat) (quitting : Bool) (place : Place σ π ρ υ) : Prop := place.Closes quitting steps
  let found (history : List (Event σ π ρ)) : Prop := ∃ dropped, .closed dropped ∈ history
  refine Followed.within near found Place.Closes.pos ?_ ?_ followed closes list enough
  · intro course steps followed closes
    generalize place : course.host.task.place = before at closes
    cases closes with
    | now => exact .inl ⟨_, closing_serve place⟩
    | rearming began timer quits =>
      have closing := quitting_serve place (.rearming began timer quits)
      exact .inr (closing ▸ Place.Closes.now)
    | answering slot response quits =>
      have closing := quitting_serve place (.answering slot response quits)
      exact .inr (closing ▸ Place.Closes.now)
  · rintro before after early ⟨dropped, closed⟩
    exact ⟨dropped, early.subset closed⟩

/-- How many steps a thread that has been started needs to call its handler for the first time. -/
inductive Place.Opens : Nat → Place σ π ρ υ → Prop
  | arming : Opens 1 .arming
  | entering : Opens 2 .entering

private theorem Place.Opens.pos {steps : Nat} {place : Place σ π ρ υ} (opens : place.Opens steps) :
    0 < steps ∧ place ≠ .idle := by
  cases opens with
  | arming => exact ⟨Nat.one_pos, nofun⟩
  | entering => exact ⟨Nat.two_pos, nofun⟩

theorem Followed.opens (followed : Followed course) {steps : Nat}
    (opens : course.host.task.place.Opens steps)
    (list : List (Host.Move σ π υ)) (enough : steps ≤ list.countP Host.Move.isServe) :
    .began .starting ∈ (course.moves list).diary.history := by
  let near (steps : Nat) (_ : Bool) (place : Place σ π ρ υ) : Prop := place.Opens steps
  let found (history : List (Event σ π ρ)) : Prop := .began .starting ∈ history
  refine Followed.within near found Place.Opens.pos ?_ ?_ followed opens list enough
  · intro course steps followed opens
    generalize place : course.host.task.place = before at opens
    cases opens with
    | arming =>
      refine .inl ?_
      have steps : course.host.step?.isSome = true := by
        rw [Host.step?, Option.isSome_map, step?, place]
        rfl
      simp [found, Course.move, Host.write, steps, write, place, Diary.begin]
    | entering =>
      have arming : (course.move .serve).host.task.place = .arming := by
        simp [Course.move, Host.move, Host.step?, step?, place]
      exact .inr (arming ▸ Place.Opens.arming)
  · exact fun early opened => early.subset opened

/-- The course after a number of moves of a schedule. -/
def Course.follow (course : Course σ π ρ υ) (schedule : Nat → Host.Move σ π υ) : Nat → Course σ π ρ υ
  | 0 => course
  | number + 1 => (course.follow schedule number).move (schedule number)

/-- As long as the thread has not ended, it goes on to be given steps that it can take. -/
def Course.Attended (course : Course σ π ρ υ) (schedule : Nat → Host.Move σ π υ) : Prop :=
  ∀ number, (course.follow schedule number).host.task.place ≠ .ended →
    ∃ later, number ≤ later ∧ schedule later = .serve ∧
      ∃ progress, (course.follow schedule later).host.Steps progress

variable {schedule : Nat → Host.Move σ π υ}

theorem Followed.follow (followed : Followed course) (schedule : Nat → Host.Move σ π υ) (number : Nat) :
    Followed (course.follow schedule number) := by
  induction number with
  | zero => exact followed
  | succ number ih => exact ih.move (schedule number)

theorem next_step (attended : course.Attended schedule) {number : Nat}
    (begun : (course.follow schedule number).host.task.place ≠ .idle)
    (unended : (course.follow schedule number).host.task.place ≠ .ended) :
    ∃ later progress, number ≤ later ∧
      Still (course.follow schedule number).host.task (course.follow schedule later).host.task ∧
      (course.follow schedule later).host.Steps progress ∧
      (course.follow schedule (later + 1)).host.task = progress.task := by
  obtain ⟨later, after, serves, progress, steps⟩ := attended number unended
  obtain ⟨gap, rfl⟩ := Nat.exists_eq_add_of_le after
  clear after
  induction gap generalizing number with
  | zero =>
    refine ⟨number, progress, Nat.le_refl number, .refl _, steps, ?_⟩
    rw [Course.follow]
    simp only [Nat.add_zero] at serves steps
    rw [serves]
    exact steps.after
  | succ gap ih =>
    by_cases moves : schedule number = .serve ∧ ∃ progress, (course.follow schedule number).host.Steps progress
    · obtain ⟨serves, progress, steps⟩ := moves
      refine ⟨number, progress, Nat.le_refl number, .refl _, steps, ?_⟩
      rw [Course.follow, serves]
      exact steps.after
    · have still : Still (course.follow schedule number).host.task
          (course.follow schedule (number + 1)).host.task := Host.move_still_of_no_step begun moves
      rw [← still.place] at begun unended
      rw [show number + (gap + 1) = number + 1 + gap by omega] at serves steps
      obtain ⟨later, progress, after, rest, goes, next⟩ := ih begun unended serves steps
      exact ⟨later, progress, by omega, still.trans rest, goes, next⟩

/-- The handler's code runs at these places, and from its end the thread goes to a last one. -/
def Runs {α : Type} (resume : HandlerCode σ π υ α → Place σ π ρ υ) (last : Place σ π ρ υ → Prop) : Prop :=
  ∀ (task : Task σ π ρ υ) (now : Instant) (given : Nat) (rest : HandlerCode σ π υ α), task.place = resume rest →
    ∃ finish : Ending α → Place σ π ρ υ × List Effect, (∀ ending, last (finish ending).1) ∧
      task.step? now given = task.advance now given rest resume finish

theorem ticking_runs (began : Instant) (timer : Timer σ) :
    Runs (.ticking began timer : HandlerCode σ π υ (Option ρ) → Place σ π ρ υ) (· = .rearming began timer) :=
  fun _ now given rest place => ⟨_, fun _ => rfl, (InCode.ticking began timer rest place).step?_eq now given⟩

theorem callingBack_runs (began : Instant) (timer : Timer σ) :
    Runs (.callingBack began timer : HandlerCode σ π υ Unit → Place σ π ρ υ) (· = .rearming began timer) :=
  fun _ now given rest place => ⟨_, fun _ => rfl, (InCode.callingBack began timer rest place).step?_eq now given⟩

theorem starting_runs : Runs (.starting : HandlerCode σ π υ Unit → Place σ π ρ υ)
    fun place => place = .closing ∨ place = .sweeping := by
  intro task now given rest place
  refine ⟨_, ?_, (InCode.starting rest place).step?_eq now given⟩
  intro ending
  simp only [afterCall]
  split
  · exact .inl rfl
  · exact .inr rfl

theorem handling_runs (slot : Option Nat) :
    Runs (.handling slot : HandlerCode σ π υ (Option ρ) → Place σ π ρ υ)
      fun place => ∃ response, place = .answering slot response :=
  fun _ now given rest place =>
    ⟨_, fun ending => ⟨responseOf ending, rfl⟩, (InCode.handling slot rest place).step?_eq now given⟩

private theorem exiting_runs : Runs (.exiting : HandlerCode σ π υ Unit → Place σ π ρ υ) (· = .disposing) :=
  fun _ now given rest place => ⟨_, fun _ => rfl, (InCode.exiting rest place).step?_eq now given⟩

section

variable {α : Type} {resume : HandlerCode σ π υ α → Place σ π ρ υ} {last : Place σ π ρ υ → Prop}

theorem Runs.step (runs : Runs resume last) {progress : Progress σ π ρ υ}
    (mirrored : Mirrored course.host.task course.diary) {rest : HandlerCode σ π υ α}
    (place : course.host.task.place = resume rest) (steps : course.host.Steps progress) :
    last progress.task.place ∨
      (∃ call next answer, rest = .ask call next ∧ progress.task.place = resume (next answer)) ∨
      (progress.task.place = resume rest ∧ course.host.task.surface.wake = none ∧
        progress.task.surface.wake ≠ none) := by
  obtain ⟨finish, ends, advances⟩ := runs course.host.task course.host.kernel.now course.host.kernel.timers rest place
  rw [Host.Steps, advances] at steps
  rcases advance_cases mirrored.exchange (fun _ => none) steps with ⟨ending, _, _, after⟩ |
    ⟨call, next, answer, _, _, _, code, _, _, after⟩ | ⟨surface, after, _, unslept, sleeps⟩
  · exact .inl (by rw [after]; exact ends ending)
  · exact .inr (.inl ⟨call, next, answer, code, by rw [after]⟩)
  · exact .inr (.inr ⟨by rw [after]; exact place, unslept, by rw [after]; exact sleeps⟩)

private theorem Runs.next (runs : Runs resume last) (live : ∀ rest, resume rest ≠ .idle ∧ resume rest ≠ .ended)
    (followed : Followed course) (attended : course.Attended schedule) {rest : HandlerCode σ π υ α} {number : Nat}
    (stands : (course.follow schedule number).host.task.place = resume rest) :
    ∃ later, number ≤ later ∧ (last (course.follow schedule later).host.task.place ∨
      ∃ call next answer, rest = .ask call next ∧
        (course.follow schedule later).host.task.place = resume (next answer)) := by
  have goesOn {number : Nat} (stands : (course.follow schedule number).host.task.place = resume rest) :=
    next_step attended (stands ▸ (live rest).1) (stands ▸ (live rest).2)
  obtain ⟨later, progress, after, still, steps, goes⟩ := goesOn stands
  rcases runs.step (followed.follow schedule later).mirrored (still.place.trans stands) steps with done |
    ⟨call, next, answer, code, answered⟩ | ⟨same, _, sleeps⟩
  · exact ⟨later + 1, by omega, .inl (by rw [goes]; exact done)⟩
  · exact ⟨later + 1, by omega, .inr ⟨call, next, answer, code, by rw [goes, answered]⟩⟩
  · have resumes : (course.follow schedule (later + 1)).host.task.place = resume rest := by rw [goes, same]
    obtain ⟨woken, _, behind, rested, wakes, moved⟩ := goesOn resumes
    rcases runs.step (followed.follow schedule woken).mirrored (rested.place.trans resumes) wakes with done |
      ⟨call, next, answer, code, answered⟩ | ⟨_, unslept, _⟩
    · exact ⟨woken + 1, by omega, .inl (by rw [moved]; exact done)⟩
    · exact ⟨woken + 1, by omega, .inr ⟨call, next, answer, code, by rw [moved, answered]⟩⟩
    · rw [rested.wake, goes] at unslept
      exact absurd unslept sleeps

/-- The handler's code ends, by induction on what is left of it. -/
theorem Runs.ends (runs : Runs resume last) (live : ∀ rest, resume rest ≠ .idle ∧ resume rest ≠ .ended)
    (followed : Followed course) (attended : course.Attended schedule) (rest : HandlerCode σ π υ α) {number : Nat}
    (stands : (course.follow schedule number).host.task.place = resume rest) :
    ∃ later, number ≤ later ∧ last (course.follow schedule later).host.task.place := by
  induction rest generalizing number with
  | done value =>
    obtain ⟨later, after, done | ⟨_, _, _, code, _⟩⟩ := runs.next live followed attended stands
    · exact ⟨later, after, done⟩
    · cases code
  | ask call next ih =>
    obtain ⟨later, after, done | ⟨_, _, answer, code, answered⟩⟩ := runs.next live followed attended stands
    · exact ⟨later, after, done⟩
    · cases code
      obtain ⟨finished, behind, done⟩ := ih answer answered
      exact ⟨finished, Nat.le_trans after behind, done⟩

end

/-- The thread has ended at some later time. -/
def Course.Ends (course : Course σ π ρ υ) (schedule : Nat → Host.Move σ π υ) (number : Nat) : Prop :=
  ∃ later, number ≤ later ∧ (course.follow schedule later).host.task.place = .ended

theorem ends_of_next (attended : course.Attended schedule) {number : Nat} {place : Place σ π ρ υ}
    (stands : (course.follow schedule number).host.task.place = place) (begun : place ≠ .idle)
    (unended : place ≠ .ended)
    (next : ∀ later progress, (course.follow schedule later).host.task.place = place →
      Still (course.follow schedule number).host.task (course.follow schedule later).host.task →
      (course.follow schedule later).host.Steps progress →
      (course.follow schedule (later + 1)).host.task = progress.task → course.Ends schedule (later + 1)) :
    course.Ends schedule number := by
  subst stands
  obtain ⟨later, progress, after, still, steps, goes⟩ := next_step attended begun unended
  obtain ⟨last, behind, ended⟩ := next later progress still.place still steps goes
  exact ⟨last, by omega, ended⟩

private theorem ends_of_reporting (attended : course.Attended schedule) {number : Nat}
    (stands : (course.follow schedule number).host.task.place = .reporting) :
    course.Ends schedule number := by
  refine ends_of_next attended stands (by simp) (by simp) ?_
  intro later progress place _ steps goes
  simp only [Host.Steps, step?, place, Option.some.injEq] at steps
  exact ⟨later + 1, Nat.le_refl _, by rw [goes, ← steps]⟩

private theorem ends_of_leaving (attended : course.Attended schedule) {number : Nat}
    (stands : (course.follow schedule number).host.task.place = .leaving) :
    course.Ends schedule number := by
  refine ends_of_next attended stands (by simp) (by simp) ?_
  intro later progress place _ steps goes
  simp only [Host.Steps, step?, place, Option.map_eq_some_iff] at steps
  obtain ⟨life, _, after⟩ := steps
  exact ends_of_reporting attended (by rw [goes, ← after])

private theorem ends_of_disposing (attended : course.Attended schedule) {number : Nat}
    (stands : (course.follow schedule number).host.task.place = .disposing) :
    course.Ends schedule number := by
  refine ends_of_next attended stands (by simp) (by simp) ?_
  intro later progress place _ steps goes
  simp only [Host.Steps, step?, place, Option.some.injEq] at steps
  exact ends_of_leaving attended (by rw [goes, ← steps])

private theorem ends_of_exiting (followed : Followed course) (attended : course.Attended schedule)
    (rest : HandlerCode σ π υ Unit) {number : Nat}
    (stands : (course.follow schedule number).host.task.place = .exiting rest) :
    course.Ends schedule number := by
  obtain ⟨later, after, disposing⟩ := exiting_runs.ends (fun _ => ⟨nofun, nofun⟩) followed attended rest stands
  obtain ⟨last, behind, ended⟩ := ends_of_disposing attended disposing
  exact ⟨last, by omega, ended⟩

private theorem ends_of_abandoning (followed : Followed course) (attended : course.Attended schedule)
    (slots : List Nat) {dropped number : Nat}
    (stands : (course.follow schedule number).host.task.place = .abandoning slots dropped) :
    course.Ends schedule number := by
  induction slots generalizing number with
  | nil =>
    refine ends_of_next attended stands (by simp) (by simp) ?_
    intro later progress place _ steps goes
    simp only [Host.Steps, step?, place, Option.some.injEq] at steps
    exact ends_of_exiting followed attended _ (by rw [goes, ← steps])
  | cons slot slots ih =>
    refine ends_of_next attended stands (by simp) (by simp) ?_
    intro later progress place _ steps goes
    simp only [Host.Steps, step?, place, Option.some.injEq] at steps
    exact ih (by rw [goes, ← steps])

theorem ends_of_closing (followed : Followed course) (attended : course.Attended schedule) {number : Nat}
    (stands : (course.follow schedule number).host.task.place = .closing) :
    course.Ends schedule number := by
  refine ends_of_next attended stands (by simp) (by simp) ?_
  intro later progress place _ steps goes
  simp only [Host.Steps, step?, place, Option.some.injEq] at steps
  exact ends_of_abandoning followed attended _ (by rw [goes, ← steps])

theorem ends_of_past (followed : Followed course) (attended : course.Attended schedule) {number : Nat}
    (past : (course.follow schedule number).host.task.place.isPast = true) :
    course.Ends schedule number := by
  cases stands : (course.follow schedule number).host.task.place with
  | abandoning slots dropped => exact ends_of_abandoning followed attended slots stands
  | exiting rest => exact ends_of_exiting followed attended rest stands
  | disposing => exact ends_of_disposing attended stands
  | leaving => exact ends_of_leaving attended stands
  | reporting => exact ends_of_reporting attended stands
  | ended => exact ⟨number, Nat.le_refl number, stands⟩
  | idle | lost | entering | arming | starting | sweeping | draining | ticking | callingBack | rearming | receiving
    | handling | answering | ordering | closing =>
    rw [stands] at past
    cases past

theorem ends_of_closes (followed : Followed course) (attended : course.Attended schedule)
    {number steps : Nat} (closes : (course.follow schedule number).host.task.place.Closes
      (course.follow schedule number).host.task.quitting steps) : course.Ends schedule number := by
  generalize stands : (course.follow schedule number).host.task.place = place at closes
  cases closes with
  | now => exact ends_of_closing followed attended stands
  | rearming _ _ quits | answering _ _ quits =>
    refine ends_of_next attended stands (by simp) (by simp) ?_
    intro later progress place still steps goes
    simp only [Host.Steps, step?, place, Option.some.injEq] at steps
    refine ends_of_closing followed attended ?_
    rw [goes, ← steps]
    exact if_pos (still.quitting.trans quits)

end TaskKernel.Task
