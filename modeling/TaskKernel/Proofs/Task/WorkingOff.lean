import TaskKernel.Proofs.Task.Backlog
import TaskKernel.Proofs.Task.Quitting
import TaskKernel.Proofs.Task.Receiving

/-!
How a task works off the messages that it finds in its queue when it is started: it gets to its end, every caller
has been told the truth by then, and whoever joins gets the state that the messages make up one after the other.
-/
namespace TaskKernel.Task

variable {σ π ρ υ : Type} {handler : Handler σ π ρ υ} {outlook : Outlook} {fresh : Scene σ υ}
  {admitted : List (Envelope σ π)} {course : Course σ π ρ υ} {schedule : Nat → Host.Move σ π υ}

/-- Whether the thread can be held up here, by its handler or by its owner who is still starting it. -/
def Place.isHeld : Place σ π ρ υ → Bool
  | .starting _ | .ticking .. | .callingBack .. | .handling .. | .exiting _ | .leaving => true
  | .idle | .lost | .entering | .arming | .sweeping | .draining _ | .rearming .. | .receiving | .answering ..
    | .ordering .. | .closing | .abandoning .. | .disposing | .reporting | .ended => false

/-- The thread has its turn again and again, and nothing holds it up for ever. -/
structure Course.Fair (course : Course σ π ρ υ) (schedule : Nat → Host.Move σ π υ) : Prop where
  turns : ∀ number, ∃ later, number ≤ later ∧ schedule later = .serve
  released : ∀ number, (course.follow schedule number).host.task.place.isHeld = true →
    ∃ later, number ≤ later ∧ schedule later = .serve ∧
      ∃ progress, (course.follow schedule later).host.Steps progress

/-- The thread has been started and not been given up before. -/
def Place.isBegun : Place σ π ρ υ → Bool
  | .idle | .lost => false
  | .entering | .arming | .starting _ | .sweeping | .draining _ | .ticking .. | .callingBack .. | .rearming ..
    | .receiving | .handling .. | .answering .. | .ordering .. | .closing | .abandoning .. | .exiting _ | .disposing
    | .leaving | .reporting | .ended => true

theorem Place.isBegun_iff {place : Place σ π ρ υ} : place.isBegun = true ↔ place ≠ .idle ∧ place ≠ .lost := by
  cases place <;> simp [isBegun]

private theorem Step.begun {task next : Task σ π ρ υ} {diary later : Diary σ π ρ} (step : Step task diary next later)
    (begun : task.place.isBegun = true) : next.place.isBegun = true := by
  cases step with
  | aside | dealt => exact begun
  | passed life timers abandoned disposals place passes =>
    generalize task.place = before at passes begun
    cases passes with
    | lost => cases begun
    | rearmed | answered => cases task.quitting <;> rfl
    | begun | entered | swept | drained | ordered => rfl
  | woundDown life disposals place winds =>
    generalize task.place = before at winds
    cases winds <;> rfl
  | asked call resume asks answer =>
    generalize task.place = before at asks
    cases asks <;> rfl
  | ended ending place ends =>
    generalize task.place = before at ends
    cases ends with
    | starting => cases task.quitting <;> rfl
    | ticking | callingBack | handling | exiting => rfl
  | fired now firing =>
    simp only [fire]
    split <;> rfl
  | waited waiting place receiving goes => rcases goes with rfl | rfl <;> rfl
  | answered =>
    simp only [afterCall]
    split <;> rfl
  | started | took | ordered | closed | told | exited => rfl

private theorem Followed.follow_begun (followed : Followed course) (begun : course.host.task.place.isBegun = true)
    (number : Nat) : (course.follow schedule number).host.task.place.isBegun = true := by
  induction number with
  | zero => exact begun
  | succ number ih => exact ((followed.follow schedule number).step (schedule number)).begun ih

theorem Lone.follow (lone : Lone course.diary.session) (number : Nat) :
    Lone (course.follow schedule number).diary.session := by
  induction number with
  | zero => exact lone
  | succ number ih => exact ih.move (schedule number)

private theorem not_order_of_silent {move : Host.Move σ π υ} (silent : move.sends = false) : move.isOrder = false := by
  cases move <;> first | rfl | cases silent

theorem Backlog.follow (backlog : Backlog handler outlook fresh admitted course) (calm : Calm handler outlook fresh)
    (silent : ∀ number, (schedule number).sends = false) (number : Nat) :
    Backlog handler outlook fresh admitted (course.follow schedule number) := by
  induction number with
  | zero => exact backlog
  | succ number ih =>
    have admits : (course.follow schedule number).host.Admits (schedule number) :=
      ⟨not_order_of_silent (silent number), by simp [silent number]⟩
    obtain ⟨more, none, next⟩ := ih.move calm admits
    rw [none (silent number), List.append_nil] at next
    exact next

/-- The thread finds a message whenever it asks for one. -/
def Course.Busy (course : Course σ π ρ υ) (schedule : Nat → Host.Move σ π υ) : Prop :=
  ∀ number, (course.follow schedule number).host.task.place = .receiving →
    (course.follow schedule number).host.task.exchange.queue.entries ≠ []

/-- Where the thread finds no message, it has got through the line and the service has not ended. -/
theorem Backlog.through (backlog : Backlog handler outlook fresh admitted course)
    (receiving : course.host.task.place = .receiving) (empty : course.host.task.exchange.queue.entries = []) :
    Underway handler outlook fresh admitted (conclusions course.diary.history) [] course.host.task.scene := by
  have standing := backlog.lined.standing
  rw [receiving, empty] at standing
  have underway : Underway handler outlook fresh admitted _ (Queue.sorted []) _ := standing
  rwa [Queue.sorted, List.mergeSort_nil] at underway

private theorem Backlog.steps_of_unheld (backlog : Backlog handler outlook fresh admitted course)
    (lone : Lone course.diary.session)
    (queued : course.host.task.place = .receiving → course.host.task.exchange.queue.entries ≠ [])
    (begun : course.host.task.place.isBegun = true) (unended : course.host.task.place ≠ .ended)
    (unheld : course.host.task.place.isHeld = false) : ∃ progress, course.host.Steps progress := by
  cases place : course.host.task.place with
  | idle | lost =>
    rw [place] at begun
    cases begun
  | ended => exact absurd place unended
  | starting | ticking | callingBack | handling | exiting | leaving =>
    rw [place] at unheld
    cases unheld
  | entering | arming | sweeping | rearming | answering | ordering | closing | disposing | reporting =>
    exact ⟨_, by simp only [Host.Steps, step?, place]; rfl⟩
  | draining began =>
    have none : course.host.task.timers.fire? began = none := by rw [backlog.lined.timers]; rfl
    exact ⟨_, by simp only [Host.Steps, step?, place, none]; rfl⟩
  | abandoning slots dropped => cases slots <;> exact ⟨_, by simp only [Host.Steps, step?, place]; rfl⟩
  | receiving =>
    have awake : course.host.task.exchange.waiting.stance? consumer ≠ some .parked := fun parked =>
      queued place (backlog.kept.reached.followed.vacant_of_parked lone parked)
    simp only [Host.Steps, step?, place, if_neg awake]
    split <;> exact ⟨_, rfl⟩

theorem Backlog.attended (backlog : Backlog handler outlook fresh admitted course) (calm : Calm handler outlook fresh)
    (lone : Lone course.diary.session) (busy : course.Busy schedule)
    (begun : course.host.task.place.isBegun = true) (silent : ∀ number, (schedule number).sends = false)
    (fair : course.Fair schedule) : course.Attended schedule := by
  intro number unended
  have started (number : Nat) : (course.follow schedule number).host.task.place.isBegun = true :=
    backlog.kept.reached.followed.follow_begun begun number
  have goes (number : Nat) (unended : (course.follow schedule number).host.task.place ≠ .ended)
      (unheld : (course.follow schedule number).host.task.place.isHeld = false) :
      ∃ progress, (course.follow schedule number).host.Steps progress :=
    (backlog.follow calm silent number).steps_of_unheld (lone.follow number) (busy number) (started number)
      unended unheld
  cases held : (course.follow schedule number).host.task.place.isHeld with
  | true => exact fair.released number held
  | false =>
    obtain ⟨later, after, serves⟩ := fair.turns number
    obtain ⟨gap, rfl⟩ := Nat.exists_eq_add_of_le after
    clear after
    induction gap generalizing number with
    | zero => exact ⟨number, Nat.le_refl number, serves, goes number unended held⟩
    | succ gap ih =>
      -- The first turn of the thread is the one that counts, since up to it the thread stands still.
      cases turn : (schedule number).isServe with
      | true => exact ⟨number, Nat.le_refl number, Host.Move.eq_serve turn, goes number unended held⟩
      | false =>
        have still : Still (course.follow schedule number).host.task
            (course.follow schedule (number + 1)).host.task :=
          Host.move_still (Place.isBegun_iff.mp (started number)).1 turn
        rw [← still.place] at unended held
        rw [show number + (gap + 1) = number + 1 + gap by omega] at serves
        obtain ⟨later, after, found⟩ := ih (number + 1) unended held serves
        exact ⟨later, Nat.le_of_succ_le after, found⟩

theorem finished_eq (history : List (Event σ π ρ)) : finished history = (conclusions history).map (·.entry) := by
  rw [finished, conclusions, List.map_filterMap]
  refine List.filterMap_congr fun event _ => ?_
  cases event with
  | began | closed => rfl
  | ended activity =>
    cases activity with
    | handling entry message => cases entry <;> rfl
    | starting | callingBack | exiting => rfl

/-- Whether messages are taken from the line here, or one of them is being handled. -/
def Place.isServing : Place σ π ρ υ → Bool
  | .sweeping | .draining _ | .receiving | .handling .. => true
  | .idle | .lost | .entering | .arming | .starting _ | .ticking .. | .callingBack .. | .rearming .. | .answering ..
    | .ordering .. | .closing | .abandoning .. | .exiting _ | .disposing | .leaving | .reporting | .ended => false

private theorem Underway.length {done : List (Conclusion σ π ρ)} {left : List (Envelope σ π)} {scene : Scene σ υ}
    (underway : Underway handler outlook fresh admitted done left scene) :
    done.length + left.length = admitted.length := by
  obtain ⟨_, _, _, passed⟩ := underway
  have split := congrArg List.length passed.split
  rwa [List.length_append, List.length_map, length_sorted] at split

/-- As long as the service goes on, every message of the line is handled or queued. -/
private theorem Backlog.share (backlog : Backlog handler outlook fresh admitted course)
    (serving : course.host.task.place.isServing = true) :
    (handled course.diary.history).length + course.host.task.exchange.queue.entries.length = admitted.length := by
  have standing := backlog.lined.standing
  have engaged := backlog.kept.reached.engaged
  rw [backlog.kept.ledger.current, List.length_append, finished_eq, List.length_map]
  have waits {place : Place σ π ρ υ} (stands : course.host.task.place = place) (quiet : place.isQuiet = true)
      (underway : Underway handler outlook fresh admitted (conclusions course.diary.history)
        (Queue.sorted course.host.task.exchange.queue.entries) course.host.task.scene) :
      (conclusions course.diary.history).length + (course.diary.activity.bind Activity.envelope?).toList.length +
        course.host.task.exchange.queue.entries.length = admitted.length := by
    have length := underway.length
    rw [length_sorted] at length
    rw [Doing.of_quiet engaged (by rw [stands]; exact quiet)]
    exact length
  cases place : course.host.task.place with
  | sweeping | draining | receiving =>
    rw [place] at standing
    exact waits place rfl standing
  | handling slot rest =>
    rw [place] at standing
    obtain ⟨entry, message, before, _, current, midway⟩ := standing
    have length := midway.underway.length
    rw [List.length_cons, length_sorted] at length
    rw [current]
    show _ + 1 + _ = _
    omega
  | idle | lost | entering | arming | starting | ticking | callingBack | rearming | answering | ordering | closing
    | abandoning | exiting | disposing | leaving | reporting | ended =>
    rw [place] at serving
    cases serving

private theorem Followed.follow_history (followed : Followed course) {number later : Nat} (order : number ≤ later) :
    (course.follow schedule number).diary.history <+: (course.follow schedule later).diary.history := by
  induction order with
  | refl => exact List.prefix_rfl
  | step _ ih => exact ih.trans (history_step ((followed.follow schedule _).step (schedule _)))

/-- A task that has been started on its backlog, and the schedule by which it goes on. -/
structure Working (handler : Handler σ π ρ υ) (outlook : Outlook) (fresh : Scene σ υ)
    (admitted : List (Envelope σ π)) (course : Course σ π ρ υ) (schedule : Nat → Host.Move σ π υ) : Prop where
  backlog : Backlog handler outlook fresh admitted course
  calm : Calm handler outlook fresh
  busy : course.Busy schedule
  silent : ∀ number, (schedule number).sends = false
  attended : course.Attended schedule

theorem Working.at (working : Working handler outlook fresh admitted course schedule) (number : Nat) :
    Backlog handler outlook fresh admitted (course.follow schedule number) :=
  working.backlog.follow working.calm working.silent number

private theorem Working.entries_le (working : Working handler outlook fresh admitted course schedule)
    {number later : Nat}
    (order : number ≤ later) (before : (course.follow schedule number).host.task.place.isServing = true)
    (behind : (course.follow schedule later).host.task.place.isServing = true) :
    (course.follow schedule later).host.task.exchange.queue.entries.length ≤
      (course.follow schedule number).host.task.exchange.queue.entries.length := by
  have early := (working.at number).share before
  have late := (working.at later).share behind
  have history : (course.follow schedule number).diary.history <+: (course.follow schedule later).diary.history :=
    working.backlog.kept.reached.followed.follow_history order
  have more : (handled (course.follow schedule number).diary.history).length ≤
      (handled (course.follow schedule later).diary.history).length := (history.filterMap Event.given?).length_le
  omega

/-- How far the next message is away. -/
def Place.ahead : Place σ π ρ υ → Nat
  | .handling .. => 3
  | .sweeping => 2
  | .draining _ => 1
  | .idle | .lost | .entering | .arming | .starting _ | .ticking .. | .callingBack .. | .rearming .. | .receiving
    | .answering .. | .ordering .. | .closing | .abandoning .. | .exiting _ | .disposing | .leaving | .reporting
    | .ended => 0

/-- What is left to do before the line is worked off: it gets less from one of these places to the next. -/
def effort (task : Task σ π ρ υ) : Nat := 4 * task.exchange.queue.entries.length + task.place.ahead

/-- A place of the service is followed by the end or by another one with less to do. -/
def Working.Nears (course : Course σ π ρ υ) (schedule : Nat → Host.Move σ π υ) (number : Nat) : Prop :=
  course.Ends schedule number ∨ ∃ later, number ≤ later ∧
    (course.follow schedule later).host.task.place.isServing = true ∧
    (course.follow schedule later).host.task.effort < (course.follow schedule number).host.task.effort

private theorem Working.nears_of_place (working : Working handler outlook fresh admitted course schedule)
    {number later : Nat} (order : number ≤ later) {before behind : Place σ π ρ υ}
    (stands : (course.follow schedule number).host.task.place = before)
    (goes : (course.follow schedule later).host.task.place = behind)
    (serving : before.isServing = true) (serves : behind.isServing = true) (nearer : behind.ahead < before.ahead) :
    Nears course schedule number := by
  have less := working.entries_le order (stands ▸ serving) (goes ▸ serves)
  refine .inr ⟨later, order, goes ▸ serves, ?_⟩
  rw [effort, effort, stands, goes]
  omega

private theorem Working.next (working : Working handler outlook fresh admitted course schedule) {number : Nat}
    {place : Place σ π ρ υ} (stands : (course.follow schedule number).host.task.place = place)
    (begun : place ≠ .idle) (unended : place ≠ .ended) : ∃ later progress, number ≤ later ∧
      (course.follow schedule later).host.task.place = place ∧ (course.follow schedule later).host.Steps progress ∧
      (course.follow schedule (later + 1)).host.task = progress.task := by
  subst stands
  obtain ⟨later, progress, order, still, steps, goes⟩ := next_step working.attended begun unended
  exact ⟨later, progress, order, still.place, steps, goes⟩

private theorem Working.nears_of_receiving (working : Working handler outlook fresh admitted course schedule)
    {number : Nat}
    (stands : (course.follow schedule number).host.task.place = .receiving) : Nears course schedule number := by
  obtain ⟨later, progress, order, place, steps, goes⟩ := working.next stands nofun nofun
  have backlog := working.at later
  have queued := working.busy later place
  have less := working.entries_le order (by rw [stands]; rfl) (by rw [place]; rfl)
  simp only [Host.Steps, step?, place] at steps
  rcases (course.follow schedule later).host.task.exchange.receive_cases consumer
      (course.follow schedule later).host.task.timers.nextDeadline? with ⟨parked, _⟩ |
    ⟨awake, ⟨entry, queue, popped, result⟩ | ⟨none, _⟩ | ⟨none, _⟩⟩
  · rw [if_pos parked] at steps
    cases steps
  · obtain ⟨found, _⟩ := Queue.pop?_eq_some popped
    obtain ⟨message, item⟩ := backlog.kept.deliver_of_queued backlog.lined (Queue.front?_mem found)
    rw [if_neg awake, result] at steps
    simp only [Option.some.injEq, take, item] at steps
    have fewer : queue.entries.length < (course.follow schedule later).host.task.exchange.queue.entries.length :=
      Queue.size_pop popped
    refine .inr ⟨later + 1, by omega, ?_, ?_⟩
    · rw [goes, ← steps]
      rfl
    · rw [goes, ← steps]
      simp only [effort, stands, Place.ahead]
      omega
  · exact absurd (Queue.pop?_eq_none.mp none) queued
  · exact absurd (Queue.pop?_eq_none.mp none) queued

private theorem Working.nears_of_handling (working : Working handler outlook fresh admitted course schedule)
    {number : Nat} {slot : Option Nat} {rest : HandlerCode σ π υ (Option ρ)}
    (stands : (course.follow schedule number).host.task.place = .handling slot rest) :
    Nears course schedule number := by
  have followed := working.backlog.kept.reached.followed
  obtain ⟨finished, behind, response, answers⟩ :=
    (handling_runs slot).ends (fun _ => ⟨nofun, nofun⟩) followed working.attended rest stands
  obtain ⟨later, progress, order, place, steps, goes⟩ := working.next answers nofun nofun
  simp only [Host.Steps, step?, place, Option.some.injEq] at steps
  cases quits : (course.follow schedule later).host.task.quitting with
  | true =>
    have closing : (course.follow schedule (later + 1)).host.task.place = .closing := by
      rw [goes, ← steps, afterCall, if_pos quits]
    obtain ⟨last, after, ended⟩ := ends_of_closing followed working.attended closing
    exact .inl ⟨last, by omega, ended⟩
  | false =>
    have sweeping : (course.follow schedule (later + 1)).host.task.place = .sweeping := by
      rw [goes, ← steps, afterCall, if_neg (by simp [quits])]
    exact working.nears_of_place (by omega) stands sweeping rfl rfl (by simp [Place.ahead])

private theorem Working.nears_of_sweeping (working : Working handler outlook fresh admitted course schedule)
    {number : Nat}
    (stands : (course.follow schedule number).host.task.place = .sweeping) : Nears course schedule number := by
  obtain ⟨later, progress, order, place, steps, goes⟩ := working.next stands nofun nofun
  simp only [Host.Steps, step?, place, Option.some.injEq] at steps
  have draining : (course.follow schedule (later + 1)).host.task.place =
      .draining (course.follow schedule later).host.kernel.now := by rw [goes, ← steps]
  exact working.nears_of_place (by omega) stands draining rfl rfl (by simp [Place.ahead])

private theorem Working.nears_of_draining (working : Working handler outlook fresh admitted course schedule)
    {number : Nat} {began : Instant} (stands : (course.follow schedule number).host.task.place = .draining began) :
    Nears course schedule number := by
  obtain ⟨later, progress, order, place, steps, goes⟩ := working.next stands nofun nofun
  have none : (course.follow schedule later).host.task.timers.fire? began = none := by
    rw [(working.at later).lined.timers]
    rfl
  simp only [Host.Steps, step?, place, none, Option.some.injEq] at steps
  have receiving : (course.follow schedule (later + 1)).host.task.place = .receiving := by rw [goes, ← steps]
  exact working.nears_of_place (by omega) stands receiving rfl rfl (by simp [Place.ahead])

private theorem Working.nears (working : Working handler outlook fresh admitted course schedule) {number : Nat}
    (serving : (course.follow schedule number).host.task.place.isServing = true) : Nears course schedule number := by
  cases stands : (course.follow schedule number).host.task.place with
  | sweeping => exact working.nears_of_sweeping stands
  | draining began => exact working.nears_of_draining stands
  | receiving => exact working.nears_of_receiving stands
  | handling slot rest => exact working.nears_of_handling stands
  | idle | lost | entering | arming | starting | ticking | callingBack | rearming | answering | ordering | closing
    | abandoning | exiting | disposing | leaving | reporting | ended =>
    rw [stands] at serving
    cases serving

/-- The line is worked off, by induction on what is left to do. -/
private theorem Working.ends_of_serving (working : Working handler outlook fresh admitted course schedule)
    {number : Nat}
    (serving : (course.follow schedule number).host.task.place.isServing = true) : course.Ends schedule number := by
  induction effort : (course.follow schedule number).host.task.effort using Nat.strongRecOn
    generalizing number with
  | ind size ih =>
    rcases working.nears serving with ends | ⟨later, order, serves, less⟩
    · exact ends
    · obtain ⟨last, after, ended⟩ := ih _ (effort ▸ less) serves rfl
      exact ⟨last, Nat.le_trans order after, ended⟩

private theorem Working.ends_of_starting (working : Working handler outlook fresh admitted course schedule)
    {number : Nat}
    {rest : HandlerCode σ π υ Unit} (stands : (course.follow schedule number).host.task.place = .starting rest) :
    course.Ends schedule number := by
  have followed := working.backlog.kept.reached.followed
  obtain ⟨later, order, goes⟩ :=
    starting_runs.ends (fun _ => ⟨nofun, nofun⟩) followed working.attended rest stands
  have ends : course.Ends schedule later := by
    rcases goes with closing | sweeping
    · exact ends_of_closing followed working.attended closing
    · exact working.ends_of_serving (by rw [sweeping]; rfl)
  obtain ⟨last, after, ended⟩ := ends
  exact ⟨last, Nat.le_trans order after, ended⟩

private theorem Working.ends_of_arming (working : Working handler outlook fresh admitted course schedule) {number : Nat}
    (stands : (course.follow schedule number).host.task.place = .arming) : course.Ends schedule number := by
  refine ends_of_next working.attended stands (by simp) (by simp) ?_
  intro later progress place _ steps goes
  simp only [Host.Steps, step?, place, Option.some.injEq] at steps
  exact working.ends_of_starting (by rw [goes, ← steps])

theorem Working.ends (working : Working handler outlook fresh admitted course schedule) {number : Nat}
    (begun : (course.follow schedule number).host.task.place.isBegun = true) : course.Ends schedule number := by
  have followed := working.backlog.kept.reached.followed
  have attended := working.attended
  have standing := (working.at number).lined.standing
  cases stands : (course.follow schedule number).host.task.place with
  | idle | lost =>
    rw [stands] at begun
    cases begun
  | ticking | callingBack | rearming | ordering =>
    rw [stands] at standing
    exact standing.elim
  | entering =>
    refine ends_of_next attended stands (by simp) (by simp) ?_
    intro later progress place _ steps goes
    simp only [Host.Steps, step?, place, Option.some.injEq] at steps
    exact working.ends_of_arming (by rw [goes, ← steps])
  | arming => exact working.ends_of_arming stands
  | starting rest => exact working.ends_of_starting stands
  | sweeping | draining | receiving | handling => exact working.ends_of_serving (by rw [stands]; rfl)
  | answering slot response =>
    refine ends_of_next attended stands (by simp) (by simp) ?_
    intro later progress place _ steps goes
    simp only [Host.Steps, step?, place, Option.some.injEq] at steps
    cases quits : (course.follow schedule later).host.task.quitting with
    | true => exact ends_of_closing followed attended (by rw [goes, ← steps, afterCall, if_pos quits])
    | false =>
      refine working.ends_of_serving ?_
      rw [goes, ← steps, afterCall, if_neg (by simp [quits])]
      rfl
  | closing => exact ends_of_closing followed attended stands
  | abandoning | exiting | disposing | leaving | reporting | ended =>
    exact ends_of_past followed attended (by rw [stands]; rfl)

end TaskKernel.Task
