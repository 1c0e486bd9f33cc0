import TaskKernel.Proofs.Queue.Sections
import TaskKernel.Proofs.Task.Course
import TaskKernel.Proofs.Thread.Lifecycle

/-!
What a task and its diary can do in one move. The cases are complete, so that what is kept by all of
them is kept by every interleaving.
-/
namespace TaskKernel

variable {σ π ρ υ α : Type}

def Ending.map {β : Type} (change : α → β) : Ending α → Ending β
  | .returned value => .returned (change value)
  | .panicked panic => .panicked panic

@[simp] theorem Ending.map_id (ending : Ending α) : ending.map id = ending := by cases ending <;> rfl

/-- How the handler's code ends with its next step, if it does. -/
def HandlerCode.ending? : HandlerCode σ π υ α → Option (Ending α)
  | .done value => some (.returned value)
  | .ask (.plain (.panic cause)) _ => some (.panicked cause)
  | .ask _ _ => none

namespace HandlerCall

def isQuit : HandlerCall σ π υ → Bool
  | .quit => true
  | _ => false

def isPlain : HandlerCall σ π υ → Bool
  | .plain _ => true
  | _ => false

end HandlerCall

namespace Task

/-- Where the code of the handler makes a call, and where it goes on with the answer. -/
inductive Place.Asks (call : HandlerCall σ π υ) :
    Place σ π ρ υ → (call.Answer → Place σ π ρ υ) → Prop
  | starting (next : call.Answer → HandlerCode σ π υ Unit) :
      Asks call (.starting (.ask call next)) fun answer => .starting (next answer)
  | ticking (now : Instant) (timer : Timer σ) (next : call.Answer → HandlerCode σ π υ (Option ρ)) :
      Asks call (.ticking now timer (.ask call next)) fun answer => .ticking now timer (next answer)
  | callingBack (now : Instant) (timer : Timer σ) (next : call.Answer → HandlerCode σ π υ Unit) :
      Asks call (.callingBack now timer (.ask call next)) fun answer => .callingBack now timer (next answer)
  | handling (slot : Option Nat) (next : call.Answer → HandlerCode σ π υ (Option ρ)) :
      Asks call (.handling slot (.ask call next)) fun answer => .handling slot (next answer)
  | exiting (next : call.Answer → HandlerCode σ π υ Unit) :
      Asks call (.exiting (.ask call next)) fun answer => .exiting (next answer)

/-- Where the code of the handler ends, how, and where the thread goes from there. -/
inductive Place.Ends (quitting : Bool) : Place σ π ρ υ → Ending (Option ρ) → Place σ π ρ υ → Prop
  | starting (rest : HandlerCode σ π υ Unit) (ending : Ending Unit) (ended : rest.ending? = some ending) :
      Ends quitting (.starting rest) (ending.map fun _ => none) (if quitting then .closing else .sweeping)
  | ticking (now : Instant) (timer : Timer σ) (rest : HandlerCode σ π υ (Option ρ))
      (ending : Ending (Option ρ)) (ended : rest.ending? = some ending) :
      Ends quitting (.ticking now timer rest) ending (.rearming now timer)
  | callingBack (now : Instant) (timer : Timer σ) (rest : HandlerCode σ π υ Unit) (ending : Ending Unit)
      (ended : rest.ending? = some ending) :
      Ends quitting (.callingBack now timer rest) (ending.map fun _ => none) (.rearming now timer)
  | handling (slot : Option Nat) (rest : HandlerCode σ π υ (Option ρ)) (ending : Ending (Option ρ))
      (ended : rest.ending? = some ending) :
      Ends quitting (.handling slot rest) ending (.answering slot (responseOf ending))
  | exiting (rest : HandlerCode σ π υ Unit) (ending : Ending Unit) (ended : rest.ending? = some ending) :
      Ends quitting (.exiting rest) (ending.map fun _ => none) .disposing

/-- Where the thread goes on without the handler and without the queue. -/
inductive Place.Passes (quitting : Bool) : Place σ π ρ υ → Place σ π ρ υ → Prop
  | lost : Passes quitting .idle .lost
  | begun : Passes quitting .idle .entering
  | entered : Passes quitting .entering .arming
  | swept (now : Instant) : Passes quitting .sweeping (.draining now)
  | drained (now : Instant) : Passes quitting (.draining now) .receiving
  | rearmed (now : Instant) (timer : Timer σ) :
      Passes quitting (.rearming now timer) (if quitting then .closing else .draining now)
  | ordered (command : Command σ π) : Passes quitting (.ordering none command) .sweeping
  | answered (response : Response ρ) :
      Passes quitting (.answering none response) (if quitting then .closing else .sweeping)

/-- How the thread winds down after its last call of the handler. -/
inductive Place.WindsDown : Place σ π ρ υ → Place σ π ρ υ → Prop
  | disposed : WindsDown .disposing .leaving
  | left : WindsDown .leaving .reporting
  | reported : WindsDown .reporting .ended

/-- A move of a session that others than the consumer make. Only messages are waited for. -/
def Outer : Exchange.Session.Move (Command σ π) ρ → Prop
  | .push .. | .look _ | .rouseCaller _ | .expireCaller _ | .rouse _ | .expire _ | .passTo _ => True
  | .call _ command _ _ => ∃ message, command = .deliver message
  | .tryReceive _ | .receive .. | .close | .settle .. | .drop _ => False

/-- What the end of a call says of its message. -/
def rulingOf : Ending (Option ρ) → Exchange.Ruling ρ
  | .returned reply => .completed reply
  | .panicked panic => .failed panic.reason

/-- What a move can do to a task and its diary. -/
inductive Step (task : Task σ π ρ υ) (diary : Diary σ π ρ) : Task σ π ρ υ → Diary σ π ρ → Prop
  | aside (life : Lifecycle) (surface : Surface σ) (abandoned : Bool) (disposals : Nat)
      (stays : task.life.Over → life.Over) :
      Step task diary { task with life, surface, abandoned, disposals } diary
  | dealt (move : Exchange.Session.Move (Command σ π) ρ) (outer : Outer move) :
      Step task diary { task with exchange := (diary.deal move).session.exchange } (diary.deal move)
  | passed (life : Lifecycle) (timers : TimerSet σ) (abandoned : Bool) (disposals : Nat)
      (place : Place σ π ρ υ) (passes : task.place.Passes task.quitting place) :
      Step task diary { task with life, timers, abandoned, disposals, place } diary
  | woundDown (life : Lifecycle) (disposals : Nat) (place : Place σ π ρ υ)
      (winds : task.place.WindsDown place) (ends : task.place = .leaving ∨ task.life.Over → life.Over) :
      Step task diary { task with life, disposals, place } diary
  | started (timers : TimerSet σ) (arming : task.place = .arming) :
      Step task diary
        { task with
          timers
          initial := none
          quitting := false
          place := .starting task.handler.onStart }
        (diary.begin .starting)
  | asked (call : HandlerCall σ π υ) (resume : call.Answer → Place σ π ρ υ)
      (asks : task.place.Asks call resume) (answer : call.Answer) (surface : Surface σ)
      (timers : TimerSet σ) (userData : Option υ)
      (untimed : call.isPlain = true → timers = task.timers) :
      Step task diary
        { task with
          surface
          timers
          userData
          exchange := (diary.ask call).session.exchange
          quitting := task.quitting || call.isQuit
          place := resume answer }
        (diary.ask call)
  | ended (ending : Ending (Option ρ)) (place : Place σ π ρ υ)
      (ends : task.place.Ends task.quitting ending place) :
      Step task diary { task with place } (diary.finish ending)
  | fired (now : Instant) (firing : TimerSet.Firing σ) (timers : TimerSet σ)
      (draining : task.place = .draining now) :
      Step task diary { task with timers, quitting := false, place := task.fire now firing }
        (diary.begin (task.activityOf firing))
  | waited (waiting : Sync.WaitSet) (place : Place σ π ρ υ) (receiving : task.place = .receiving)
      (goes : place = .receiving ∨ place = .sweeping) :
      Step task diary { task with exchange := { task.exchange with waiting }, place }
        { diary with session := { diary.session with exchange := { task.exchange with waiting } } }
  | took (entry : Queue.Entry (Parcel (Command σ π))) (queue : Queue (Parcel (Command σ π)))
      (waiting : Sync.WaitSet) (message : Message π) (receiving : task.place = .receiving)
      (popped : task.exchange.queue.pop? = some (entry, queue))
      (item : entry.item.item = .deliver message) :
      Step task diary
        { task with
          exchange := { task.exchange with queue, waiting }
          quitting := message.kind.isQuit
          place := .handling entry.item.slot (task.handler.handle message) }
        (Diary.begin
          { diary with
            session := Exchange.Session.hand
              { diary.session with exchange := { task.exchange with queue, waiting } } consumer entry }
          (.handling (some entry) message))
  | ordered (entry : Queue.Entry (Parcel (Command σ π))) (queue : Queue (Parcel (Command σ π)))
      (waiting : Sync.WaitSet) (receiving : task.place = .receiving)
      (popped : task.exchange.queue.pop? = some (entry, queue))
      (command : ∀ message, entry.item.item ≠ .deliver message) :
      Step task diary
        { task with
          exchange := { task.exchange with queue, waiting }
          quitting := false
          place := .ordering entry.item.slot entry.item.item }
        { diary with
          session := Exchange.Session.hand
            { diary.session with exchange := { task.exchange with queue, waiting } } consumer entry }
  | answered (slot : Nat) (ending : Ending (Option ρ))
      (answering : task.place = .answering (some slot) (responseOf ending)) :
      Step task diary
        { task with
          exchange := (reply diary slot (responseOf ending)).session.exchange
          place := task.afterCall }
        (reply diary slot (responseOf ending))
  | closed (closing : task.place = .closing) :
      Step task diary
        { task with
          timers := TimerSet.empty
          exchange := (diary.deal .close).session.exchange
          place := .abandoning (Exchange.slotsOf task.exchange.queue.entries)
            task.exchange.queue.entries.length }
        { diary.deal .close with history := diary.history ++ [.closed task.exchange.queue.entries] }
  | told (slot : Nat) (slots : List Nat) (dropped : Nat)
      (abandoning : task.place = .abandoning (slot :: slots) dropped) :
      Step task diary
        { task with
          exchange := (diary.deal (.drop ⟨slot, true, false⟩)).session.exchange
          place := .abandoning slots dropped }
        (diary.deal (.drop ⟨slot, true, false⟩))
  | exited (dropped : Nat) (abandoning : task.place = .abandoning [] dropped) :
      Step task diary { task with place := .exiting (HandlerCode.ofBody task.handler.onExit) }
        (diary.begin .exiting)

/-- The responders that the thread has at a place. -/
def Place.responders : Place σ π ρ υ → List Exchange.Responder
  | .handling slot _ | .answering slot _ | .ordering slot _ => slot.toList.map (⟨·, false, false⟩)
  | .abandoning slots _ => slots.map (⟨·, true, false⟩)
  | .idle | .lost | .entering | .arming | .starting _ | .sweeping | .draining _ | .ticking .. | .callingBack ..
    | .rearming .. | .receiving | .closing | .exiting _ | .disposing | .leaving | .reporting | .ended => []

/-- Nobody waits for an order, and an answer is what a call of the handler came to. -/
def Place.Sound : Place σ π ρ υ → Prop
  | .ordering slot _ => slot = none
  | .answering _ response => ∃ ending, response = responseOf ending
  | .idle | .lost | .entering | .arming | .starting _ | .sweeping | .draining _ | .ticking .. | .callingBack ..
    | .rearming .. | .receiving | .handling .. | .closing | .abandoning .. | .exiting _ | .disposing | .leaving
    | .reporting | .ended => True

/-- The session of the diary is that of the task's queue, and the thread has its responders. -/
structure Mirrored (task : Task σ π ρ υ) (diary : Diary σ π ρ) : Prop where
  exchange : diary.session.exchange = task.exchange
  responders : diary.session.responders = task.place.responders
  messages : ∀ entry ∈ task.exchange.queue.entries, entry.item.slot ≠ none →
    ∃ message, entry.item.item = .deliver message
  sound : task.place.Sound

variable {task : Task σ π ρ υ} {diary : Diary σ π ρ} {now : Instant} {given : Nat}
  {progress : Progress σ π ρ υ}

theorem call_of_ask {call : HandlerCall σ π υ} {next : call.Answer → HandlerCode σ π υ α}
    (reply : α → Option ρ) (unended : HandlerCode.ending? (.ask call next) = none) :
    diary.call (.ask call next) reply = diary.ask call := by
  unfold Diary.call
  split
  · cases ‹Script.ask _ _ = _›
  · simp_all [HandlerCode.ending?]
  · rename_i same
    cases same
    rfl

theorem deal_push (mirrored : diary.session.exchange = task.exchange) (priority : Priority)
    (command : Command σ π) :
    (diary.deal (.push priority command 0)).session.exchange =
      match task.exchange.push priority command 0 with
      | .ok exchange => exchange
      | .error _ => task.exchange := by
  simp only [Diary.deal, Exchange.Session.move, mirrored]
  split <;> simp_all [Exchange.Session.note]

theorem deal_call (mirrored : diary.session.exchange = task.exchange) (priority : Priority)
    (command : Command σ π) (deadline : Option Instant) :
    (diary.session.move (.call priority command deadline 0)).exchange =
      match task.exchange.call priority command deadline 0 with
      | .ok (_, exchange) => exchange
      | .error _ => task.exchange := by
  simp only [Exchange.Session.move, mirrored]
  split <;> simp_all [Exchange.Session.note]

private theorem serve_answered (mirrored : diary.session.exchange = task.exchange) {call : HandlerCall σ π υ}
    {answer : call.Answer} (served : task.serve now given call = .answered answer progress) :
    ∃ (surface : Surface σ) (timers : TimerSet σ) (userData : Option υ),
      (call.isPlain = true → timers = task.timers) ∧
      progress.task = { task with
        surface
        timers
        userData
        exchange := (diary.ask call).session.exchange
        quitting := task.quitting || call.isQuit } := by
  cases call with
  | plain call =>
    simp only [serve] at served
    split at served
    · rename_i surface effects _
      cases served
      exact ⟨surface, task.timers, task.userData, fun _ => rfl,
        by simp [Diary.ask, HandlerCall.isQuit, mirrored]⟩
    · cases served
    · cases served
    · cases served
  | post message =>
    have dealt := deal_push mirrored message.priority (.deliver message)
    simp only [serve] at served
    split at served
    · rename_i exchange pushed
      cases served
      rw [pushed] at dealt
      exact ⟨task.surface, task.timers, task.userData, fun _ => rfl,
        by simp [Diary.ask, HandlerCall.isQuit, dealt]⟩
    · rename_i failure pushed
      cases served
      rw [pushed] at dealt
      exact ⟨task.surface, task.timers, task.userData, fun _ => rfl,
        by simp [Diary.ask, HandlerCall.isQuit, dealt]⟩
  | addTimer interval repeats =>
    simp only [serve, armNew] at served
    split at served <;> cases served
    · exact ⟨task.surface, task.timers, task.userData, nofun, by simp [Diary.ask, HandlerCall.isQuit, mirrored]⟩
    · exact ⟨task.surface, _, task.userData, nofun, by simp [Diary.ask, HandlerCall.isQuit, mirrored]; rfl⟩
  | addCallback interval repeats run =>
    simp only [serve, armNew] at served
    split at served <;> cases served
    · exact ⟨task.surface, task.timers, task.userData, nofun, by simp [Diary.ask, HandlerCall.isQuit, mirrored]⟩
    · exact ⟨task.surface, _, task.userData, nofun, by simp [Diary.ask, HandlerCall.isQuit, mirrored]; rfl⟩
  | cancelTimer id =>
    cases served
    exact ⟨task.surface, _, task.userData, nofun, by simp [Diary.ask, HandlerCall.isQuit, mirrored]; rfl⟩
  | setUserData data =>
    cases served
    exact ⟨task.surface, task.timers, some data, nofun, by simp [Diary.ask, HandlerCall.isQuit, mirrored]⟩
  | quit =>
    cases served
    exact ⟨task.surface, task.timers, task.userData, nofun, by simp [Diary.ask, HandlerCall.isQuit, mirrored]⟩
  | waitSelf | freshTimer | armedCount | isQuitting | tickPriority | pending | isClosed | userData =>
    cases served
    exact ⟨task.surface, task.timers, task.userData, nofun, by simp [Diary.ask, HandlerCall.isQuit, mirrored]⟩

theorem serve_begun {call : HandlerCall σ π υ} {after : Task σ π ρ υ}
    (served : task.serve now given call = .begun after) :
    ∃ delay, call = .plain (.sleep delay) ∧ task.surface.wake = none ∧
      after = { task with surface := { task.surface with wake := some (now.addClamped delay) } } := by
  cases call with
  | plain call =>
    simp only [serve] at served
    split at served
    · cases served
    · rename_i surface begun
      cases served
      obtain ⟨delay, rfl, awake, rfl⟩ := Surface.serve_begun begun
      exact ⟨delay, rfl, awake, rfl⟩
    · cases served
    · cases served
  | post message =>
    simp only [serve] at served
    split at served <;> cases served
  | addTimer | addCallback | cancelTimer | setUserData | quit | waitSelf | freshTimer | armedCount | isQuitting
    | tickPriority | pending | isClosed | userData => cases served

theorem serve_panicked {call : HandlerCall σ π υ} {cause : Panic}
    (served : task.serve now given call = .panicked cause) : call = .plain (.panic cause) := by
  cases call with
  | plain call =>
    simp only [serve] at served
    split at served
    · cases served
    · cases served
    · cases served
    · rename_i panicked
      cases served
      rw [Surface.serve_panicked panicked]
  | post message =>
    simp only [serve] at served
    split at served <;> cases served
  | addTimer | addCallback | cancelTimer | setUserData | quit | waitSelf | freshTimer | armedCount | isQuitting
    | tickPriority | pending | isClosed | userData => cases served

theorem unended_of_calm {call : HandlerCall σ π υ} {next : call.Answer → HandlerCode σ π υ α}
    (calm : ∀ cause, call ≠ .plain (.panic cause)) : HandlerCode.ending? (.ask call next) = none := by
  unfold HandlerCode.ending?
  split
  · cases ‹Script.ask _ _ = _›
  · rename_i cause _ same
    cases same
    exact absurd rfl (calm cause)
  · rfl

theorem calm_of_answered {call : HandlerCall σ π υ} (answer : call.Answer) (cause : Panic) :
    call ≠ .plain (.panic cause) := by
  rintro rfl
  exact answer.elim

theorem advance_cases (mirrored : diary.session.exchange = task.exchange) {rest : HandlerCode σ π υ α}
    {resume : HandlerCode σ π υ α → Place σ π ρ υ} {finish : Ending α → Place σ π ρ υ × List Effect}
    (reply : α → Option ρ) (advanced : task.advance now given rest resume finish = some progress) :
    (∃ ending, rest.ending? = some ending ∧ diary.call rest reply = diary.finish (ending.map reply) ∧
      progress.task = { task with place := (finish ending).1 }) ∨
    (∃ (call : HandlerCall σ π υ) (next : call.Answer → HandlerCode σ π υ α) (answer : call.Answer)
        (surface : Surface σ) (timers : TimerSet σ) (userData : Option υ),
      rest = .ask call next ∧ (call.isPlain = true → timers = task.timers) ∧
      diary.call rest reply = diary.ask call ∧
      progress.task = { task with
        surface
        timers
        userData
        exchange := (diary.ask call).session.exchange
        quitting := task.quitting || call.isQuit
        place := resume (next answer) }) ∨
    ∃ surface : Surface σ, progress.task = { task with surface } ∧ diary.call rest reply = diary ∧
      task.surface.wake = none ∧ surface.wake ≠ none := by
  cases rest with
  | done value =>
    cases advanced
    exact .inl ⟨.returned value, rfl, rfl, rfl⟩
  | ask call next =>
    simp only [advance] at advanced
    split at advanced
    · rename_i answer served result
      obtain ⟨surface, timers, userData, untimed, after⟩ := serve_answered mirrored result
      cases advanced
      refine .inr (.inl ⟨call, next, answer, surface, timers, userData, rfl, untimed, ?_, by rw [after]⟩)
      exact call_of_ask reply (unended_of_calm (calm_of_answered answer))
    · rename_i after begun
      obtain ⟨delay, rfl, unslept, rfl⟩ := serve_begun begun
      cases advanced
      exact .inr (.inr ⟨_, rfl, call_of_ask reply (unended_of_calm nofun), unslept, nofun⟩)
    · cases advanced
    · rename_i cause panicked
      cases serve_panicked panicked
      cases advanced
      exact .inl ⟨.panicked cause, rfl, rfl, rfl⟩

end Task

end TaskKernel
