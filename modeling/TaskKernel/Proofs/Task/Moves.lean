import TaskKernel.Proofs.Kernel
import TaskKernel.Proofs.Task.Steps
import TaskKernel.Proofs.Task.Turn

/-!
Every move of a task is one of its steps, as long as its diary mirrors it.
-/
namespace TaskKernel.Task

variable {σ π ρ υ α : Type} {task : Task σ π ρ υ} {diary : Diary σ π ρ} {now : Instant} {given : Nat}
  {progress : Progress σ π ρ υ} {slot : Nat}

private theorem InCode.written {rest : HandlerCode σ π υ α} {resume : HandlerCode σ π υ α → Place σ π ρ υ}
    {finish : Ending α → Place σ π ρ υ × List Effect} (inside : task.InCode rest resume finish)
    (diary : Diary σ π ρ) : ∃ reply : α → Option ρ, write task diary = diary.call rest reply ∧
      (∀ ending, rest.ending? = some ending →
        task.place.Ends task.quitting (ending.map reply) (finish ending).1) ∧
      ∀ call next, rest = .ask call next → task.place.Asks call fun answer => resume (next answer) := by
  cases inside with
  | starting rest place =>
    refine ⟨fun _ => none, by rw [write, place], fun ending ended => place ▸ .starting rest ending ended, ?_⟩
    rintro call next rfl
    exact place ▸ .starting next
  | ticking began timer rest place =>
    refine ⟨id, by rw [write, place], fun ending ended => ?_, ?_⟩
    · rw [place, Ending.map_id]
      exact .ticking began timer rest ending ended
    · rintro call next rfl
      exact place ▸ .ticking began timer next
  | callingBack began timer rest place =>
    refine ⟨fun _ => none, by rw [write, place],
      fun ending ended => place ▸ .callingBack began timer rest ending ended, ?_⟩
    rintro call next rfl
    exact place ▸ .callingBack began timer next
  | handling slot rest place =>
    refine ⟨id, by rw [write, place], fun ending ended => ?_, ?_⟩
    · rw [place, Ending.map_id]
      exact .handling slot rest ending ended
    · rintro call next rfl
      exact place ▸ .handling slot next
  | exiting rest place =>
    refine ⟨fun _ => none, by rw [write, place], fun ending ended => place ▸ .exiting rest ending ended, ?_⟩
    rintro call next rfl
    exact place ▸ .exiting next

theorem InCode.step {rest : HandlerCode σ π υ α} {resume : HandlerCode σ π υ α → Place σ π ρ υ}
    {finish : Ending α → Place σ π ρ υ × List Effect} (inside : task.InCode rest resume finish)
    (mirrored : Mirrored task diary) (advanced : task.advance now given rest resume finish = some progress) :
    Step task diary progress.task (write task diary) := by
  obtain ⟨reply, written, ends, asks⟩ := inside.written diary
  rw [written]
  rcases advance_cases mirrored.exchange reply advanced with ⟨ending, ended, wrote, after⟩ |
    ⟨call, next, answer, surface, timers, userData, code, untimed, wrote, after⟩ | ⟨surface, after, wrote, _⟩
  · rw [wrote, after]
    exact .ended _ _ (ends ending ended)
  · rw [wrote, after]
    exact .asked call _ (asks call next code) answer surface timers userData untimed
  · rw [wrote, after]
    exact .aside task.life surface task.abandoned task.disposals id

theorem reply_session (mirrored : Mirrored task diary) {ending : Ending (Option ρ)}
    (answering : task.place = .answering (some slot) (responseOf ending)) :
    (reply diary slot (responseOf ending)).session =
      { diary.session with
        exchange := diary.session.exchange.fill slot (responseOf ending)
        responders := []
        history := diary.session.history ++
          [.settled slot (rulingOf ending), .dropped ⟨slot, false, true⟩] } := by
  have responders : diary.session.responders = [⟨slot, false, false⟩] := by
    rw [mirrored.responders, answering]
    rfl
  cases ending <;>
    simp [reply, responseOf, rulingOf, Diary.deal, Exchange.Session.move, Exchange.Session.settle,
      Exchange.Session.drop, Exchange.Ruling.response, responders]

theorem drop_session (mirrored : Mirrored task diary) {slots : List Nat} {dropped : Nat}
    (abandoning : task.place = .abandoning (slot :: slots) dropped) :
    (diary.deal (.drop ⟨slot, true, false⟩)).session =
      { diary.session with
        exchange := diary.session.exchange.fill slot .abandoned
        responders := slots.map (⟨·, true, false⟩)
        history := diary.session.history ++ [.dropped ⟨slot, true, false⟩] } := by
  have responders : diary.session.responders = (slot :: slots).map (⟨·, true, false⟩) := by
    rw [mirrored.responders, abandoning]
    rfl
  simp [Diary.deal, Exchange.Session.move, Exchange.Session.drop, responders]

private theorem deal_close (mirrored : Mirrored task diary) :
    (diary.deal .close).session.exchange = task.exchange.close.2 := by
  simp only [Diary.deal, Exchange.Session.move, mirrored.exchange]

private theorem take_step (mirrored : Mirrored task diary) (place : task.place = .receiving)
    {entry : Queue.Entry (Parcel (Command σ π))} {queue : Queue (Parcel (Command σ π))}
    (popped : task.exchange.queue.pop? = some (entry, queue))
    (received : task.exchange.receive consumer task.timers.nextDeadline? =
      (.received entry, { task.exchange with queue, waiting := task.exchange.waiting.leave consumer })) :
    Step task diary (take { task with exchange :=
      { task.exchange with queue, waiting := task.exchange.waiting.leave consumer } } entry.item)
      (write task diary) := by
  have dealt : diary.deal (.receive consumer task.timers.nextDeadline?) = { diary with
      session := Exchange.Session.hand { diary.session with exchange :=
        { task.exchange with queue, waiting := task.exchange.waiting.leave consumer } } consumer entry } := by
    simp only [Diary.deal, Exchange.Session.move, mirrored.exchange, received]
  simp only [write, place, received, dealt]
  cases item : entry.item.item with
  | deliver message =>
    simp only [take, item]
    exact .took entry queue (task.exchange.waiting.leave consumer) message place popped item
  | addTimer timer =>
    simp only [take, item]
    rw [← item]
    refine .ordered entry queue (task.exchange.waiting.leave consumer) place popped ?_
    simp [item]
  | cancelTimer id =>
    simp only [take, item]
    rw [← item]
    refine .ordered entry queue (task.exchange.waiting.leave consumer) place popped ?_
    simp [item]

private theorem wait_step (mirrored : Mirrored task diary) (place : task.place = .receiving)
    {received : Exchange.Receiving (Command σ π)} {waiting : Sync.WaitSet} (next : Place σ π ρ υ)
    (result : task.exchange.receive consumer task.timers.nextDeadline? = (received, { task.exchange with waiting }))
    (none : ∀ entry, received ≠ .received entry) (goes : next = .receiving ∨ next = .sweeping) :
    Step task diary { task with exchange := { task.exchange with waiting }, place := next } (write task diary) := by
  cases received with
  | received entry => exact absurd rfl (none entry)
  | parked | nothing =>
    have dealt : diary.deal (.receive consumer task.timers.nextDeadline?) = { diary with
        session := { diary.session with exchange := { task.exchange with waiting } } } := by
      simp only [Diary.deal, Exchange.Session.move, mirrored.exchange, result]
    simp only [write, place, result, dealt]
    exact .waited waiting next place goes

private theorem order_step (mirrored : Mirrored task diary) {slot : Option Nat} {command : Command σ π}
    (place : task.place = .ordering slot command) (now : Instant) :
    Step task diary
      { (task.order now command).1 with
        exchange := (task.order now command).1.exchange.answer slot .abandoned
        place := .sweeping } (write task diary) := by
  obtain rfl : slot = none := by
    have sound := mirrored.sound
    rwa [place] at sound
  rw [write, place]
  cases command with
  | deliver message => exact .passed task.life task.timers task.abandoned task.disposals .sweeping (place ▸ .ordered _)
  | addTimer timer => exact .passed task.life _ task.abandoned task.disposals .sweeping (place ▸ .ordered _)
  | cancelTimer id => exact .passed task.life _ task.abandoned task.disposals .sweeping (place ▸ .ordered _)

private theorem answer_step (mirrored : Mirrored task diary) {slot : Option Nat} {response : Response ρ}
    (place : task.place = .answering slot response) :
    Step task diary { task with exchange := task.exchange.answer slot response, place := task.afterCall }
      (write task diary) := by
  rw [write, place]
  cases slot with
  | none => exact .passed task.life task.timers task.abandoned task.disposals _ (place ▸ .answered response)
  | some slot =>
    obtain ⟨ending, rfl⟩ : ∃ ending, response = responseOf ending := by
      have sound := mirrored.sound
      rwa [place] at sound
    have step : Step task diary _ _ := .answered slot ending place
    rw [reply_session mirrored place, mirrored.exchange] at step
    exact step

private theorem serve_step (mirrored : Mirrored task diary) (served : task.step? now given = some progress) :
    Step task diary progress.task (write task diary) := by
  cases turn_of_step? served with
  | entered place =>
    rw [write, place]
    exact .passed task.life task.timers task.abandoned task.disposals .arming (place ▸ .entered)
  | started place initial =>
    rw [write, place]
    exact .started task.timers place
  | armed timer place initial =>
    rw [write, place]
    exact .started _ place
  | ran inside advanced => exact inside.step mirrored advanced
  | swept place =>
    rw [write, place]
    exact .passed task.life task.timers task.abandoned task.disposals (.draining now) (place ▸ .swept now)
  | drained began place due =>
    simp only [write, place, due]
    exact .passed task.life task.timers task.abandoned task.disposals .receiving (place ▸ .drained began)
  | fired began firing timers place due =>
    simp only [write, place, due]
    exact .fired began firing timers place
  | rearmed began timer place =>
    rw [write, place]
    exact .passed task.life _ task.abandoned task.disposals _ (place ▸ .rearmed began timer)
  | took entry queue place popped received => exact take_step mirrored place popped received
  | gaveUp place empty futile received => exact wait_step mirrored place .sweeping received nofun (.inr rfl)
  | parked place empty unclosed unexpired received =>
    exact wait_step mirrored place .receiving received nofun (.inl rfl)
  | answered slot response place => exact answer_step mirrored place
  | ordered slot command place => exact order_step mirrored place now
  | closed place =>
    rw [write, place]
    have step : Step task diary _ _ := .closed place
    rw [deal_close mirrored] at step
    exact step
  | told slot slots dropped place =>
    rw [write, place]
    have step : Step task diary _ _ := .told slot slots dropped place
    rw [drop_session mirrored place, mirrored.exchange] at step
    exact step
  | exited dropped place =>
    rw [write, place]
    exact .exited dropped place
  | disposed place =>
    rw [write, place]
    exact .woundDown task.life _ .leaving (place ▸ .disposed) (by simp [place])
  | left life place terminated =>
    rw [write, place]
    exact .woundDown life task.disposals .reporting (place ▸ .left) fun _ => .of_terminate terminated
  | reported place =>
    rw [write, place]
    exact .woundDown task.life _ .ended (place ▸ .reported) (by simp [place])

theorem Step.refl (task : Task σ π ρ υ) (diary : Diary σ π ρ) : Step task diary task diary :=
  .aside task.life task.surface task.abandoned task.disposals id

theorem begin_of_begun (begun : task.place ≠ .idle) (detached : Bool) :
    ∃ refusal effects, task.begin detached = (refusal, task, effects) := by
  have gone : task.hasHandler = false := by
    unfold hasHandler
    split
    · contradiction
    · rfl
  obtain ⟨refusal, effects, refused⟩ := task.life.begin_bodyless detached
  refine ⟨some refusal, effects, ?_⟩
  unfold begin
  simp only [gone, refused]

private theorem begin_step (task : Task σ π ρ υ) (diary : Diary σ π ρ) (detached : Bool) :
    Step task diary (task.begin detached).2.1 diary := by
  by_cases idle : task.place = .idle
  · unfold begin
    simp only
    split
    · exact .passed _ task.timers task.abandoned task.disposals .entering (idle ▸ .begun)
    · exact .passed _ task.timers task.abandoned _ .lost (idle ▸ .lost)
    · exact .aside _ task.surface task.abandoned task.disposals fun spent =>
        (spent.begin detached _).symm ▸ spent
  · obtain ⟨refusal, effects, refused⟩ := begin_of_begun idle detached
    rw [refused]
    exact .refl task diary

private theorem abandon_step (task : Task σ π ρ υ) (diary : Diary σ π ρ) : Step task diary task.abandon diary := by
  unfold abandon
  split
  · rename_i idle
    exact .passed task.life task.timers true _ .lost (idle ▸ .lost)
  · exact .aside task.life task.surface true _ id
  · exact .aside task.life task.surface true task.disposals id

private theorem join_step (task : Task σ π ρ υ) (diary : Diary σ π ρ) : Step task diary task.join.2.1 diary := by
  unfold join
  split
  · exact abandon_step task diary
  · exact abandon_step task diary
  · split
    · exact .aside task.life task.surface true task.disposals id
    · exact .refl task diary

private theorem push_step (mirrored : Mirrored task diary) (command : Command σ π) (kernel : Kernel)
    (native : ThreadKey) :
    Step task diary ((⟨kernel, native, task⟩ : Host σ π ρ υ).push command).2.task
      (diary.deal (.push command.priority command 0)) := by
  have dealt := deal_push mirrored.exchange command.priority command
  have step : Step task diary _ _ := .dealt (.push command.priority command 0) trivial
  unfold Host.push
  simp only
  split
  · rename_i failure pushed
    simp only [pushed] at dealt
    rw [dealt] at step
    exact step
  · rename_i exchange pushed
    simp only [pushed] at dealt
    rw [dealt] at step
    exact step

private theorem setPriority_step (thread : ThreadKey) (priority : Priority) (kernel : Kernel)
    (native : ThreadKey) : Step task diary
      ((⟨kernel, native, task⟩ : Host σ π ρ υ).setPriority thread priority).2.task diary := by
  unfold Host.setPriority setPriority
  cases changed : task.life.setPriority priority with
  | error failure => exact .refl task diary
  | ok after =>
    exact .aside after.1 task.surface task.abandoned task.disposals fun spent => spent.setPriority changed

private theorem dealt_step (move : Exchange.Session.Move (Command σ π) ρ) (outer : Outer move)
    {exchange : Exchange (Command σ π) ρ} (moved : (diary.session.move move).exchange = exchange) :
    Step task diary { task with exchange } (diary.deal move) := by
  subst moved
  exact .dealt move outer

private theorem addTimer_step (mirrored : Mirrored task diary) (kernel : Kernel) (native : ThreadKey)
    (interval : Delay) (repeats : Repeat) (action : TimerAction σ) :
    Step task diary ((⟨kernel, native, task⟩ : Host σ π ρ υ).addTimer interval repeats action).2.task
      ((⟨kernel, native, task⟩ : Host σ π ρ υ).write diary (.addTimer interval repeats action)) := by
  simp only [Host.addTimer, Timer.create, Host.write]
  by_cases zero : interval.isZero = true
  · rw [if_pos zero, if_pos zero]
    exact .refl task diary
  · rw [if_neg zero, if_neg zero]
    exact push_step mirrored (.addTimer _) _ native

private theorem call_step (mirrored : Mirrored task diary) (kernel : Kernel) (native : ThreadKey)
    (thread : ThreadKey) (message : Message π) (timeout : Option Delay) :
    Step task diary ((⟨kernel, native, task⟩ : Host σ π ρ υ).call thread message timeout).2.task
      ((⟨kernel, native, task⟩ : Host σ π ρ υ).write diary (.call thread message timeout)) := by
  have clock := kernel.isCurrent_now thread task.life.handle
  simp only [Host.call, Host.write]
  generalize kernel.isCurrent thread task.life.handle = asked at clock ⊢
  obtain ⟨current, after⟩ := asked
  cases current with
  | true => exact .refl task diary
  | false =>
    simp only at clock ⊢
    rw [clock]
    generalize timeout.map (Clock.deadline kernel.now) = deadline
    have step : Step task diary _ _ :=
      dealt_step (.call message.priority (.deliver message) deadline 0) ⟨message, rfl⟩
        (deal_call mirrored.exchange message.priority (.deliver message) deadline)
    split
    · rename_i failure refused
      simp only [refused] at step
      exact step
    · rename_i slot exchange called
      simp only [called] at step
      exact step

namespace Course

variable {course : Course σ π ρ υ}

theorem move_step (mirrored : Mirrored course.host.task course.diary)
    (clock : course.diary.session.now = course.host.kernel.now) (move : Host.Move σ π υ) :
    Step course.host.task course.diary (course.move move).host.task (course.move move).diary := by
  obtain ⟨⟨kernel, native, task⟩, diary⟩ := course
  have exchange : diary.session.exchange = task.exchange := mirrored.exchange
  have now : diary.session.now = kernel.now := clock
  cases move with
  | begin thread detached =>
    simp only [Course.move, Host.move, Host.write, Host.asOwner, Host.begin]
    split
    · exact .refl task diary
    · exact begin_step task diary detached
  | commit =>
    simp only [Course.move, Host.move, Host.write, Host.commit, commit]
    split
    · rename_i starting
      refine .aside _ task.surface task.abandoned task.disposals fun spent => ?_
      rw [spent.2] at starting
      cases starting
    · exact .refl task diary
  | join thread =>
    simp only [Course.move, Host.move, Host.write, Host.asOwner, Host.join]
    split
    · exact .refl task diary
    · exact join_step task diary
  | abandon =>
    simp only [Course.move, Host.move, Host.write, Host.asOwner]
    split
    · exact .refl task diary
    · exact abandon_step task diary
  | setPriority thread priority =>
    simp only [Course.move, Host.move, Host.write, Host.asOwner]
    split
    · exact .refl task diary
    · exact setPriority_step thread priority kernel native
  | post message => exact push_step mirrored (.deliver message) kernel native
  | call thread message timeout => exact call_step mirrored kernel native thread message timeout
  | addTimer interval repeats action => exact addTimer_step mirrored kernel native interval repeats action
  | cancelTimer id => exact push_step mirrored (.cancelTimer id) kernel native
  | serve =>
    cases goes : (⟨kernel, native, task⟩ : Host σ π ρ υ).step? with
    | none =>
      simp only [Course.move, Host.move, Host.write, goes]
      exact .refl task diary
    | some after =>
      obtain ⟨progress, served, rfl⟩ := Option.map_eq_some_iff.mp goes
      simp only [Course.move, Host.move, Host.write, goes]
      exact serve_step mirrored served
  | permit => exact .aside task.life _ task.abandoned task.disposals id
  | look slot => exact dealt_step (.look slot) trivial (congrArg (·.look slot) exchange)
  | rouseCaller slot => exact dealt_step (.rouseCaller slot) trivial (congrArg (·.rouseCaller slot) exchange)
  | expireCaller slot =>
    refine dealt_step (.expireCaller slot) trivial ?_
    simp only [Exchange.Session.move, exchange, now]
  | rouse => exact dealt_step (.rouse consumer) trivial (congrArg (·.rouse consumer) exchange)
  | expire =>
    refine dealt_step (.expire consumer) trivial ?_
    simp only [Exchange.Session.move, exchange, now]
  | passTo later =>
    have moved : (diary.session.move (.passTo later)).exchange = task.exchange := by
      simp only [Exchange.Session.move]
      split <;> exact exchange
    have step : Step task diary { task with exchange := task.exchange } _ :=
      dealt_step (.passTo later) trivial moved
    simp only [Course.move, Host.move]
    split <;> exact step
  | allocateHandle | allocateTimer | identify | record => exact .refl task diary

end Course

end TaskKernel.Task
