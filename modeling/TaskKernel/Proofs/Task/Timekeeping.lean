import TaskKernel.Proofs.Kernel
import TaskKernel.Proofs.Task.Mirror
import TaskKernel.Proofs.Timer.Session

/-!
The timers of a task. A timer is handed over when the task starts, with an order in its queue or by its
handler, and what the thread then does with it are the moves of a timer set in use.
-/
namespace TaskKernel

variable {σ π ρ υ α : Type}

/-- The timer that an entry of the queue hands over. -/
def Command.timer? : Command σ π → Option (Timer σ)
  | .addTimer timer => some timer
  | .deliver _ | .cancelTimer _ => none

/-- The moves by which a timer is made and armed at once, if it can be made. -/
def TimerSet.Session.adding (now : Instant) (given : Nat) (interval : Delay) (repeats : Repeat)
    (action : TimerAction σ) (operation : Operation) : List (Session.Move σ) :=
  match Timer.create given interval repeats action operation with
  | .error _ => []
  | .ok timer => [.create interval repeats action operation, .arm timer.id now]

/-- What a call of the handler's code does with timers. -/
def HandlerCall.timings (now : Instant) (given : Nat) : HandlerCall σ π υ → List (TimerSet.Session.Move σ)
  | .addTimer interval repeats =>
    TimerSet.Session.adding now given interval repeats .dispatch .contextAddTimer
  | .addCallback interval repeats run =>
    TimerSet.Session.adding now given interval repeats (.callback run) .contextAddTimerWith
  | .cancelTimer id => [.cancel id]
  | .freshTimer => [.allocate]
  | .plain _ | .post _ | .waitSelf .. | .armedCount | .quit | .isQuitting | .tickPriority | .pending | .isClosed
    | .userData | .setUserData _ => []

/-- What the next step of the handler's code does with timers. -/
def HandlerCode.timings (now : Instant) (given : Nat) : HandlerCode σ π υ α → List (TimerSet.Session.Move σ)
  | .done _ => []
  | .ask call _ => call.timings now given

namespace Task

/-- The timer that is out. -/
def Place.out? : Place σ π ρ υ → Option (Timer σ)
  | .ticking _ timer _ | .callingBack _ timer _ | .rearming _ timer => some timer
  | .idle | .lost | .entering | .arming | .starting _ | .sweeping | .draining _ | .receiving | .handling ..
    | .answering .. | .ordering .. | .closing | .abandoning .. | .exiting _ | .disposing | .leaving | .reporting | .ended => none

/-- The timer that is about to be armed because of an order. -/
def Place.ordered? : Place σ π ρ υ → Option (Timer σ)
  | .ordering _ command => command.timer?
  | .idle | .lost | .entering | .arming | .starting _ | .sweeping | .draining _ | .ticking .. | .callingBack ..
    | .rearming .. | .receiving | .handling .. | .answering .. | .closing | .abandoning .. | .exiting _ | .disposing
    | .leaving | .reporting | .ended => none

/-- The timers that entries hand over. -/
def timersOf (entries : List (Queue.Entry (Parcel (Command σ π)))) : List (Timer σ) :=
  entries.filterMap (·.item.item.timer?)

/-- The timers that have been handed to the task and wait to be armed. -/
def waiting (task : Task σ π ρ υ) : List (Timer σ) :=
  task.initial.toList ++ (task.place.ordered?.toList ++ timersOf task.exchange.queue.entries)

/-- What the next step of the serving thread does with timers. -/
def timings (task : Task σ π ρ υ) (now : Instant) (given : Nat) : List (TimerSet.Session.Move σ) :=
  match task.place with
  | .arming => task.initial.toList.map fun timer => .arm timer.id now
  | .starting rest | .callingBack _ _ rest | .exiting rest => rest.timings now given
  | .ticking _ _ rest | .handling _ rest => rest.timings now given
  | .draining began => [.fire began]
  | .rearming .. => [.finish now]
  | .ordering _ (.addTimer timer) => [.arm timer.id now]
  | .ordering _ (.cancelTimer id) => [.cancel id]
  | .closing => [.clear]
  | .idle | .lost | .entering | .sweeping | .receiving | .answering .. | .ordering _ (.deliver _) | .abandoning ..
    | .disposing | .leaving | .reporting | .ended => []

/-- The session has the timers of the task. -/
structure Keeps (session : TimerSet.Session σ) (task : Task σ π ρ υ) (given : Nat) : Prop where
  sound : session.Sound
  numbered : task.exchange.queue.Numbered
  set : session.set = task.timers
  given : session.given = given
  out : session.out = task.place.out?
  made : ∃ refused, session.made.Perm (task.waiting ++ refused) ∧
    (task.exchange.queue.closed = false → refused = [])

variable {task after : Task σ π ρ υ} {session : TimerSet.Session σ} {now : Instant} {given : Nat}
  {progress : Progress σ π ρ υ}

private theorem Keeps.framed (keeps : Keeps session task given) (timers : after.timers = task.timers)
    (queue : after.exchange.queue = task.exchange.queue) (initial : after.initial = task.initial)
    (out : after.place.out? = task.place.out?) (ordered : after.place.ordered? = task.place.ordered?) :
    Keeps session after given where
  sound := keeps.sound
  numbered := queue ▸ keeps.numbered
  set := keeps.set.trans timers.symm
  given := keeps.given
  out := keeps.out.trans out.symm
  made := by
    obtain ⟨refused, made, unclosed⟩ := keeps.made
    refine ⟨refused, ?_, fun takes => unclosed (queue ▸ takes)⟩
    rw [waiting, initial, ordered, queue]
    exact made

private theorem Keeps.counted (keeps : Keeps session task given) {count : Nat} (same : count = given) :
    Keeps session task count := same ▸ keeps

private theorem Keeps.posted (keeps : Keeps session task given) (priority : Priority) (parcel : Parcel (Command σ π))
    (message : parcel.item.timer? = none) {exchange : Exchange (Command σ π) ρ}
    (queue : exchange.queue = task.exchange.queue.appended priority parcel) :
    Keeps session { task with exchange } given where
  sound := keeps.sound
  numbered := queue ▸ keeps.numbered.appended priority parcel
  set := keeps.set
  given := keeps.given
  out := keeps.out
  made := by
    obtain ⟨refused, made, unclosed⟩ := keeps.made
    refine ⟨refused, ?_, fun takes => unclosed ((congrArg Queue.closed queue).symm.trans takes)⟩
    simp only [waiting, queue, Queue.appended, timersOf, List.filterMap_append, List.filterMap_cons, message,
      List.filterMap_nil, List.append_nil]
    exact made

private theorem Keeps.armNew (keeps : Keeps session task given) (now : Instant) (interval : Delay) (repeats : Repeat)
    (action : TimerAction σ) (operation : Operation) :
    Keeps (session.moves (TimerSet.Session.adding now given interval repeats action operation))
      (task.armNew now given interval repeats action operation).2.task
      (task.armNew now given interval repeats action operation).2.given := by
  unfold Task.armNew TimerSet.Session.adding
  cases created : Timer.create given interval repeats action operation with
  | error failure => exact keeps
  | ok timer =>
    simp only
    have sound := keeps.sound.moves [.create interval repeats action operation, .arm timer.id now]
    rw [← keeps.given] at created
    rw [keeps.sound.create_arm created now] at sound ⊢
    exact {
      sound
      numbered := keeps.numbered
      set := congrArg (·.arm timer now) keeps.set
      given := congrArg (· + 1) keeps.given
      out := keeps.out
      made := keeps.made }

private theorem Keeps.cancel (keeps : Keeps session task given) (id : TimerId) :
    Keeps (session.moves [.cancel id]) { task with timers := (task.timers.cancel id).2 } given :=
  { keeps with
    sound := keeps.sound.moves [.cancel id]
    set := congrArg (fun set => (set.cancel id).2) keeps.set }

private theorem Keeps.serve (keeps : Keeps session task given) {call : HandlerCall σ π υ} {answer : call.Answer}
    (served : task.serve now given call = .answered answer progress) :
    Keeps (session.moves (call.timings now given)) progress.task progress.given ∧
      progress.task.place = task.place := by
  cases call with
  | plain call =>
    simp only [Task.serve] at served
    split at served <;> cases served
    exact ⟨keeps.framed rfl rfl rfl rfl rfl, rfl⟩
  | post message =>
    simp only [Task.serve] at served
    rcases task.exchange.push_cases message.priority (.deliver message) 0 with ⟨_, pushed⟩ | ⟨_, pushed⟩
    · rw [pushed] at served
      cases served
      exact ⟨keeps, rfl⟩
    · rw [pushed] at served
      cases served
      exact ⟨keeps.posted message.priority ⟨.deliver message, none⟩ rfl rfl, rfl⟩
  | addTimer interval repeats =>
    have added := keeps.armNew now interval repeats .dispatch .contextAddTimer
    cases served
    refine ⟨added, ?_⟩
    split <;> rfl
  | addCallback interval repeats run =>
    have added := keeps.armNew now interval repeats (.callback run) .contextAddTimerWith
    cases served
    refine ⟨added, ?_⟩
    split <;> rfl
  | cancelTimer id =>
    cases served
    exact ⟨keeps.cancel id, rfl⟩
  | freshTimer =>
    cases served
    refine ⟨{ keeps with sound := keeps.sound.moves [.allocate], given := ?_ }, rfl⟩
    exact congrArg (· + 1) keeps.given
  | setUserData | quit | waitSelf | armedCount | isQuitting | tickPriority | pending | isClosed | userData =>
    cases served
    exact ⟨keeps.framed rfl rfl rfl rfl rfl, rfl⟩

private theorem Keeps.serve_plain (keeps : Keeps session task given) {call : HandlerCall σ π υ} {after : Task σ π ρ υ}
    (served : task.serve now given call = .begun after) :
    Keeps (session.moves (call.timings now given)) after given ∧ after.place = task.place := by
  cases call with
  | plain call =>
    simp only [Task.serve] at served
    split at served <;> cases served
    exact ⟨keeps.framed rfl rfl rfl rfl rfl, rfl⟩
  | post message =>
    simp only [Task.serve] at served
    split at served <;> cases served
  | addTimer | addCallback | cancelTimer | freshTimer | setUserData | quit | waitSelf | armedCount | isQuitting
    | tickPriority | pending | isClosed | userData => cases served

theorem timersOf_append (first second : List (Queue.Entry (Parcel (Command σ π)))) :
    timersOf (first ++ second) = timersOf first ++ timersOf second := List.filterMap_append

theorem timersOf_cons (entry : Queue.Entry (Parcel (Command σ π)))
    (rest : List (Queue.Entry (Parcel (Command σ π)))) :
    timersOf (entry :: rest) = entry.item.item.timer?.toList ++ timersOf rest := by
  rw [timersOf, timersOf, List.filterMap_cons]
  cases entry.item.item.timer? <;> rfl

private theorem Keeps.taken (keeps : Keeps session task given) {entry : Queue.Entry (Parcel (Command σ π))}
    {queue : Queue (Parcel (Command σ π))} (popped : task.exchange.queue.pop? = some (entry, queue))
    (timers : after.timers = task.timers) (left : after.exchange.queue = queue)
    (initial : after.initial = task.initial) (out : after.place.out? = task.place.out?)
    (unordered : task.place.ordered? = none) (ordered : after.place.ordered? = entry.item.item.timer?) :
    Keeps session after given := by
  obtain ⟨earlier, later, entries, rfl, _⟩ := keeps.numbered.pop_divided popped
  refine ⟨keeps.sound, left ▸ keeps.numbered.pop popped, keeps.set.trans timers.symm, keeps.given,
    keeps.out.trans out.symm, ?_⟩
  obtain ⟨refused, made, unclosed⟩ := keeps.made
  refine ⟨refused, made.trans (List.Perm.append_right refused ?_),
    fun takes => unclosed ((congrArg Queue.closed left).symm.trans takes)⟩
  rw [waiting, waiting, initial, ordered, unordered, left, entries, timersOf_append, timersOf_cons,
    timersOf_append, Option.toList_none, List.nil_append]
  refine List.Perm.append_left _ ?_
  rw [← List.append_assoc, ← List.append_assoc]
  exact List.Perm.append_right _ List.perm_append_comm

private theorem Keeps.arm (keeps : Keeps session task given) {timer : Timer σ} {rest : List (Timer σ)}
    (first : task.waiting.Perm (timer :: rest)) (now : Instant)
    (timers : after.timers = task.timers.arm timer now) (queue : after.exchange.queue = task.exchange.queue)
    (out : after.place.out? = task.place.out?) (waits : after.waiting.Perm rest) :
    Keeps (session.moves [.arm timer.id now]) after given := by
  obtain ⟨refused, made, unclosed⟩ := keeps.made
  have all : session.made.Perm (timer :: (rest ++ refused)) := made.trans (first.append_right refused)
  have sound := keeps.sound.moves [.arm timer.id now]
  have move := keeps.sound.move_arm (all.mem_iff.mpr List.mem_cons_self) now
  show Keeps (session.move (.arm timer.id now)) after given
  rw [TimerSet.Session.moves, List.foldl_cons, List.foldl_nil, move] at sound
  rw [move]
  refine ⟨sound, queue ▸ keeps.numbered, ?_, keeps.given, keeps.out.trans out.symm, refused, ?_,
    fun takes => unclosed (queue ▸ takes)⟩
  · rw [timers, ← keeps.set]
    rfl
  · exact (keeps.sound.made_without all).trans (waits.append_right refused).symm

private theorem afterCall_timeless (task : Task σ π ρ υ) :
    task.afterCall.out? = none ∧ task.afterCall.ordered? = none := by
  unfold afterCall
  split <;> exact ⟨rfl, rfl⟩

private theorem answer_queue (exchange : Exchange (Command σ π) ρ) (slot : Option Nat) (response : Response ρ) :
    (exchange.answer slot response).queue = exchange.queue := by cases slot <;> rfl

theorem fire_place (task : Task σ π ρ υ) (now : Instant) (firing : TimerSet.Firing σ) :
    (task.fire now firing).out? = some firing.timer ∧ (task.fire now firing).ordered? = none := by
  unfold fire
  split <;> exact ⟨rfl, rfl⟩

section

variable {rest : HandlerCode σ π υ α} {resume : HandlerCode σ π υ α → Place σ π ρ υ}
  {finish : Ending α → Place σ π ρ υ × List Effect}

private theorem InCode.timings (inside : task.InCode rest resume finish) (now : Instant) (given : Nat) :
    task.timings now given = rest.timings now given := by
  cases inside with
  | starting rest place | ticking began timer rest place | callingBack began timer rest place
    | handling slot rest place | exiting rest place => rw [Task.timings, place]

private theorem InCode.unordered (inside : task.InCode rest resume finish) : task.place.ordered? = none := by
  cases inside with
  | starting rest place | ticking began timer rest place | callingBack began timer rest place
    | handling slot rest place | exiting rest place =>
    rw [place]
    rfl

private theorem InCode.resume_timers (inside : task.InCode rest resume finish) (code : HandlerCode σ π υ α) :
    (resume code).out? = task.place.out? ∧ (resume code).ordered? = none := by
  cases inside with
  | starting rest place | ticking began timer rest place | callingBack began timer rest place
    | handling slot rest place | exiting rest place =>
    rw [place]
    exact ⟨rfl, rfl⟩

private theorem InCode.finish_timers (inside : task.InCode rest resume finish) (ending : Ending α) :
    (finish ending).1.out? = task.place.out? ∧ (finish ending).1.ordered? = none := by
  cases inside with
  | starting rest place =>
    rw [place]
    exact afterCall_timeless task
  | ticking began timer rest place | callingBack began timer rest place | handling slot rest place
    | exiting rest place =>
    rw [place]
    exact ⟨rfl, rfl⟩

private theorem Keeps.advance (keeps : Keeps session task given) (inside : task.InCode rest resume finish)
    (advanced : task.advance now given rest resume finish = some progress) :
    Keeps (session.moves (rest.timings now given)) progress.task progress.given := by
  have ends (ending : Ending α) : Keeps session { task with place := (finish ending).1 } given :=
    keeps.framed rfl rfl rfl (inside.finish_timers ending).1
      ((inside.finish_timers ending).2.trans inside.unordered.symm)
  cases rest with
  | done value =>
    cases advanced
    exact ends (.returned value)
  | ask call next =>
    simp only [Task.advance] at advanced
    split at advanced
    · rename_i answer served result
      obtain ⟨kept, place⟩ := keeps.serve result
      cases advanced
      obtain ⟨out, ordered⟩ := inside.resume_timers (next answer)
      exact kept.framed rfl rfl rfl (place ▸ out) (place ▸ ordered.trans inside.unordered.symm)
    · rename_i after begun
      cases advanced
      exact (keeps.serve_plain begun).1
    · cases advanced
    · rename_i cause panicked
      obtain rfl := serve_panicked panicked
      cases advanced
      exact ends (.panicked cause)

end

private theorem Keeps.drained (keeps : Keeps session task given) {began : Instant}
    (place : task.place = .draining began) (due : task.timers.fire? began = none) :
    Keeps (session.moves [.fire began]) { task with place := .receiving } given := by
  have idle := keeps.out
  rw [place] at idle
  have still : session.moves [.fire began] = session := by
    simp only [TimerSet.Session.moves, List.foldl_cons, List.foldl_nil, TimerSet.Session.move,
      show session.out = none from idle, keeps.set, due]
  rw [still]
  exact keeps.framed rfl rfl rfl (by rw [place]; rfl) (by rw [place]; rfl)

private theorem Keeps.fire (keeps : Keeps session task given) {began : Instant} (place : task.place = .draining began)
    {firing : TimerSet.Firing σ} {timers : TimerSet σ} (due : task.timers.fire? began = some (firing, timers)) :
    Keeps (session.moves [.fire began])
      { task with timers, quitting := false, place := task.fire began firing } given := by
  have idle := keeps.out
  rw [place] at idle
  have sound := keeps.sound.moves [.fire began]
  simp only [TimerSet.Session.moves, List.foldl_cons, List.foldl_nil, TimerSet.Session.move,
    show session.out = none from idle, keeps.set, due] at sound ⊢
  obtain ⟨out, ordered⟩ := fire_place task began firing
  obtain ⟨refused, made, unclosed⟩ := keeps.made
  refine ⟨sound, keeps.numbered, rfl, keeps.given, out.symm, refused, ?_, unclosed⟩
  rw [waiting, place] at made
  rw [waiting, ordered]
  exact made

private theorem Keeps.finish (keeps : Keeps session task given) {began : Instant} {timer : Timer σ}
    (place : task.place = .rearming began timer) (now : Instant) :
    Keeps (session.moves [.finish now])
      { task with
        timers := task.timers.finish timer now
        place := if task.quitting then .closing else .draining began } given := by
  have out := keeps.out
  rw [place] at out
  have sound := keeps.sound.moves [.finish now]
  simp only [TimerSet.Session.moves, List.foldl_cons, List.foldl_nil, TimerSet.Session.move,
    show session.out = some timer from out, keeps.set] at sound ⊢
  obtain ⟨refused, made, unclosed⟩ := keeps.made
  rw [waiting, place] at made
  refine ⟨sound, keeps.numbered, rfl, keeps.given, ?_, refused, ?_, unclosed⟩
  · show none = Place.out? (if _ then _ else _)
    split <;> rfl
  · show session.made.Perm (task.initial.toList ++ (Option.toList (Place.ordered? (if _ then _ else _)) ++ _) ++ _)
    split <;> exact made

private theorem Keeps.clear (keeps : Keeps session task given) (place : task.place = .closing) :
    Keeps (session.moves [.clear])
      { task with
        timers := task.timers.clear
        exchange := task.exchange.close.2
        place := .abandoning (Exchange.slotsOf task.exchange.close.1) task.exchange.close.1.length } given := by
  have idle := keeps.out
  rw [place] at idle
  have sound := keeps.sound.moves [.clear]
  simp only [TimerSet.Session.moves, List.foldl_cons, List.foldl_nil, TimerSet.Session.move,
    show session.out = none from idle] at sound ⊢
  obtain ⟨refused, made, _⟩ := keeps.made
  rw [waiting, place] at made
  refine ⟨sound, Queue.close_numbered _, rfl, keeps.given, rfl,
    timersOf task.exchange.queue.entries ++ refused, ?_, fun takes => by cases takes⟩
  show session.made.Perm _
  simpa [waiting, Exchange.close, Queue.close, timersOf, Place.ordered?] using made

private theorem Keeps.take (keeps : Keeps session task given) (place : task.place = .receiving)
    {entry : Queue.Entry (Parcel (Command σ π))} {queue : Queue (Parcel (Command σ π))} {waiting : Sync.WaitSet}
    (popped : task.exchange.queue.pop? = some (entry, queue)) :
    Keeps session (Task.take { task with exchange := { task.exchange with queue, waiting } } entry.item) given := by
  unfold Task.take
  split
  · rename_i message item
    exact keeps.taken popped rfl rfl rfl (by rw [place]; rfl) (by rw [place]; rfl) (by rw [item]; rfl)
  · exact keeps.taken popped rfl rfl rfl (by rw [place]; rfl) (by rw [place]; rfl) rfl

private theorem Keeps.order (keeps : Keeps session task given) {slot : Option Nat} {command : Command σ π}
    (place : task.place = .ordering slot command) :
    Keeps (session.moves (task.timings now given))
      { (task.order now command).1 with
        exchange := (task.order now command).1.exchange.answer slot .abandoned
        place := .sweeping } given := by
  unfold timings
  rw [place]
  cases command with
  | deliver message =>
    exact keeps.framed rfl (answer_queue _ _ _) rfl (by rw [place]; rfl) (by rw [place]; rfl)
  | addTimer timer =>
    have first : task.waiting.Perm (timer :: (task.initial.toList ++ timersOf task.exchange.queue.entries)) := by
      rw [waiting, place]
      exact List.perm_middle
    refine keeps.arm first now rfl (answer_queue _ _ _) (by rw [place]; rfl) ?_
    simp [waiting, Task.order, answer_queue, Place.ordered?]
  | cancelTimer id =>
    exact (keeps.cancel id).framed rfl (answer_queue _ _ _) rfl (by rw [place]; rfl) (by rw [place]; rfl)

theorem Keeps.step (keeps : Keeps session task given) (served : task.step? now given = some progress) :
    Keeps (session.moves (task.timings now given)) progress.task progress.given := by
  cases turn_of_step? served with
  | ran inside advanced => exact inside.timings now given ▸ keeps.advance inside advanced
  | ordered slot command place => exact keeps.order place
  | drained began place due =>
    rw [timings, place]
    exact keeps.drained place due
  | fired began firing timers place due =>
    rw [timings, place]
    exact keeps.fire place due
  | rearmed began timer place =>
    rw [timings, place]
    exact keeps.finish place now
  | closed place =>
    rw [timings, place]
    exact keeps.clear place
  | took entry queue place popped =>
    rw [timings, place]
    exact keeps.take place popped
  | started place initial =>
    rw [timings, place, initial]
    exact keeps.framed rfl rfl initial.symm (by rw [place]; rfl) (by rw [place]; rfl)
  | armed timer place initial =>
    rw [timings, place, initial]
    have first : task.waiting.Perm (timer :: timersOf task.exchange.queue.entries) := by
      rw [waiting, initial, place]
      exact .refl _
    exact keeps.arm first now rfl rfl (by rw [place]; rfl) (.refl _)
  | answered slot response place =>
    rw [timings, place]
    obtain ⟨out, ordered⟩ := afterCall_timeless task
    exact keeps.framed rfl (answer_queue _ _ _) rfl (by rw [place]; exact out) (by rw [place]; exact ordered)
  | parked place =>
    rw [timings, place]
    exact keeps.framed rfl rfl rfl (by rw [place]) (by rw [place])
  | entered place | swept place | gaveUp place | told slot slots dropped place | exited dropped place
    | disposed place | left life place | reported place =>
    rw [timings, place]
    exact keeps.framed rfl rfl rfl (by rw [place]; rfl) (by rw [place]; rfl)

theorem Keeps.begin (keeps : Keeps session task given) (detached : Bool) :
    Keeps session (task.begin detached).2.1 given := by
  by_cases idle : task.place = .idle
  · unfold Task.begin
    simp only
    split
    · exact keeps.framed rfl rfl rfl (by rw [idle]; rfl) (by rw [idle]; rfl)
    · exact keeps.framed rfl rfl rfl (by rw [idle]; rfl) (by rw [idle]; rfl)
    · exact keeps.framed rfl rfl rfl rfl rfl
  · obtain ⟨refusal, effects, refused⟩ := begin_of_begun idle detached
    rw [refused]
    exact keeps

private theorem Keeps.abandon (keeps : Keeps session task given) : Keeps session task.abandon given := by
  unfold Task.abandon
  split
  · rename_i idle
    exact keeps.framed rfl rfl rfl (by rw [idle]; rfl) (by rw [idle]; rfl)
  · exact keeps.framed rfl rfl rfl rfl rfl
  · exact keeps.framed rfl rfl rfl rfl rfl

private theorem Keeps.join (keeps : Keeps session task given) : Keeps session task.join.2.1 given := by
  unfold Task.join
  split
  · exact keeps.abandon
  · exact keeps.abandon
  · split
    · exact keeps.framed rfl rfl rfl rfl rfl
    · exact keeps

namespace Host

/-- What a move does with the timers of the task. -/
def timings (host : Host σ π ρ υ) : Move σ π υ → List (TimerSet.Session.Move σ)
  | .addTimer interval repeats action => [.create interval repeats action .taskAddTimer]
  | .allocateTimer => [.allocate]
  | .serve => if host.step?.isSome then host.task.timings host.kernel.now host.kernel.timers else []
  | .begin .. | .commit | .join _ | .abandon | .setPriority .. | .post _ | .call .. | .cancelTimer _ | .permit
    | .look _ | .rouseCaller _ | .expireCaller _ | .rouse | .expire | .passTo _ | .allocateHandle | .identify _
    | .record .. => []

/-- The session has the timers of the host's task. -/
def Keeps (session : TimerSet.Session σ) (host : Host σ π ρ υ) : Prop :=
  Task.Keeps session host.task host.kernel.timers

variable {host : Host σ π ρ υ}

private theorem Keeps.push (keeps : host.Keeps session) {command : Command σ π} (timeless : command.timer? = none) :
    (host.push command).2.Keeps session := by
  unfold Host.push
  rcases host.task.exchange.push_cases command.priority command 0 with ⟨_, pushed⟩ | ⟨_, pushed⟩
  · rw [pushed]
    exact keeps
  · rw [pushed]
    exact Task.Keeps.posted keeps command.priority ⟨command, none⟩ timeless rfl

private theorem Keeps.call (keeps : host.Keeps session) (thread : ThreadKey) (message : Message π)
    (timeout : Option Delay) : (host.call thread message timeout).2.Keeps session := by
  have still := host.kernel.isCurrent_still thread host.task.life.handle
  simp only [Host.call]
  generalize host.kernel.isCurrent thread host.task.life.handle = asked at still ⊢
  obtain ⟨current, after⟩ := asked
  have kept : Task.Keeps session host.task after.timers := Task.Keeps.counted keeps still.timers
  cases current with
  | true => exact Task.Keeps.counted kept (after.carryOutAll_still thread _).timers
  | false =>
    simp only
    rcases host.task.exchange.call_cases message.priority (.deliver message)
      (timeout.map (Clock.deadline after.now)) 0 with ⟨_, called⟩ | ⟨_, called⟩
    · rw [called]
      exact kept
    · rw [called]
      exact kept.posted message.priority ⟨.deliver message, some host.task.exchange.slots.size⟩ rfl rfl

private theorem Keeps.addTimer (keeps : host.Keeps session) (interval : Delay) (repeats : Repeat)
    (action : TimerAction σ) : (host.addTimer interval repeats action).2.Keeps
      (session.moves [.create interval repeats action .taskAddTimer]) := by
  have sound := keeps.sound.moves [.create interval repeats action .taskAddTimer]
  simp only [TimerSet.Session.moves, List.foldl_cons, List.foldl_nil, TimerSet.Session.move, Timer.create,
    keeps.given, Host.addTimer] at sound ⊢
  by_cases zero : interval.isZero = true
  · rw [if_pos zero, if_pos zero]
    exact keeps
  · rw [if_neg zero] at sound
    rw [if_neg zero, if_neg zero]
    obtain ⟨refused, made, unclosed⟩ := keeps.made
    simp only [Host.push]
    rcases host.task.exchange.push_cases .realtime
      (.addTimer ⟨⟨host.kernel.timers + 1⟩, interval, repeats, 0, action⟩) 0 with ⟨closed, pushed⟩ | ⟨closed, pushed⟩
    · simp only [Command.priority, pushed]
      refine ⟨sound, keeps.numbered, keeps.set, rfl, keeps.out,
        refused ++ [⟨⟨host.kernel.timers + 1⟩, interval, repeats, 0, action⟩], ?_, fun takes => ?_⟩
      · rw [← List.append_assoc]
        exact made.append_right _
      · rw [closed] at takes
        cases takes
    · simp only [Command.priority, pushed]
      have none := unclosed closed
      subst none
      refine ⟨sound, keeps.numbered.appended _ _, keeps.set, rfl, keeps.out, [], ?_, fun _ => rfl⟩
      rw [List.append_nil] at made ⊢
      have longer := made.append_right [⟨⟨host.kernel.timers + 1⟩, interval, repeats, 0, action⟩]
      simpa [waiting, Queue.appended, timersOf, Command.timer?] using longer

theorem Keeps.move (keeps : host.Keeps session) (move : Move σ π υ) :
    (host.move move).Keeps (session.moves (host.timings move)) := by
  have kept {task : Task σ π ρ υ} {kernel : Kernel} (same : Task.Keeps session task host.kernel.timers)
      (still : host.kernel.Still kernel) : (⟨kernel, host.native, task⟩ : Host σ π ρ υ).Keeps session :=
    same.counted still.timers
  cases move with
  | begin thread detached =>
    simp only [Host.move, asOwner]
    split
    · exact keeps
    · exact kept (Task.Keeps.begin keeps detached) (host.kernel.carryOutAll_still thread _)
  | commit =>
    simp only [Host.move]
    split
    · exact Task.Keeps.framed keeps rfl rfl rfl rfl rfl
    · exact keeps
  | join thread =>
    simp only [Host.move, asOwner]
    split
    · exact keeps
    · exact kept (Task.Keeps.join keeps) (host.kernel.carryOutAll_still thread _)
  | abandon =>
    simp only [Host.move, asOwner]
    split
    · exact keeps
    · exact Task.Keeps.abandon keeps
  | setPriority thread priority =>
    simp only [Host.move, asOwner]
    split
    · exact keeps
    · unfold Host.setPriority Task.setPriority
      cases host.task.life.setPriority priority with
      | error failure => exact keeps
      | ok after =>
        exact kept (Task.Keeps.framed keeps rfl rfl rfl rfl rfl) (host.kernel.carryOutAll_still thread _)
  | post message => exact keeps.push rfl
  | cancelTimer id => exact keeps.push rfl
  | call thread message timeout => exact keeps.call thread message timeout
  | addTimer interval repeats action => exact keeps.addTimer interval repeats action
  | serve =>
    unfold timings
    cases goes : host.step? with
    | none =>
      simp only [Host.move, goes]
      exact keeps
    | some after =>
      obtain ⟨progress, served, rfl⟩ := Option.map_eq_some_iff.mp goes
      simp only [Host.move, goes, Option.getD_some, Option.isSome_some, if_true]
      have still := Kernel.carryOutAll_still { host.kernel with timers := progress.given } host.native progress.effects
      exact (Task.Keeps.step keeps served).counted still.timers
  | allocateTimer =>
    exact { keeps with
      sound := keeps.sound.moves [.allocate]
      given := congrArg (· + 1) keeps.given }
  | permit | look | rouseCaller | expireCaller | rouse | expire =>
    exact Task.Keeps.framed keeps rfl rfl rfl rfl rfl
  | passTo now =>
    simp only [Host.move]
    split <;> exact keeps
  | allocateHandle => exact keeps
  | identify thread => exact kept keeps (host.kernel.identify_still thread)
  | record thread level text => exact kept keeps (host.kernel.record_still thread level text)

/-- The session of the timers of a host, with nothing behind it. -/
def timers (host : Host σ π ρ υ) : TimerSet.Session σ :=
  ⟨host.task.timers, host.kernel.timers, host.task.waiting, host.task.place.out?, []⟩

private theorem create_initial {kernel : Kernel} {thread : ThreadKey} {settings : Settings υ}
    {handler : Handler σ π ρ υ} {state : σ}
    (created : (Host.create kernel thread settings handler state).1 = .ok host) {timer : Timer σ}
    (initial : host.task.initial = some timer) : timer.id.number = host.kernel.timers ∧ timer.fired = 0 ∧
      timer.interval.isZero = false := by
  unfold Host.create at created
  simp only at created
  split at created
  · cases created
  · rename_i timed made
    split at created
    · cases created
    · cases created
      cases periodic : settings.periodic with
      | none =>
        rw [periodic] at made
        cases made
        cases initial
      | some cadence =>
        rw [periodic] at made
        simp only [Timer.create] at made
        split at made
        · cases made
        · rename_i nonzero
          cases made
          cases initial
          exact ⟨rfl, rfl, Bool.eq_false_iff.mpr nonzero⟩

theorem create_keeps {kernel : Kernel} {thread : ThreadKey} {settings : Settings υ}
    {handler : Handler σ π ρ υ} {state : σ}
    (created : (Host.create kernel thread settings handler state).1 = .ok host) : host.Keeps host.timers := by
  obtain ⟨life, initial, _, _, fresh⟩ := create_cases created
  have made {timer : Timer σ} (member : timer ∈ initial.toList) : timer.id.number = host.kernel.timers ∧
      timer.fired = 0 ∧ timer.interval.isZero = false := by
    refine create_initial created ?_
    rw [fresh]
    exact Option.mem_toList.mp member
  have timers : host.timers = ⟨TimerSet.empty, host.kernel.timers, initial.toList, none, []⟩ := by
    rw [Host.timers, fresh]
    simp [Task.create, waiting, Place.ordered?, Place.out?, Exchange.empty, Queue.empty, timersOf]
  have ids : host.timers.ids = initial.toList.map (·.id) := by
    rw [timers]
    exact List.append_nil _
  refine ⟨⟨?_, ?_, ?_, ?_, ?_, ?_, ?_⟩, ?_, rfl, rfl, rfl, [], ?_, fun _ => rfl⟩
  · rw [ids]
    cases initial <;> simp
  · intro id member
    rw [ids] at member
    obtain ⟨timer, present, rfl⟩ := List.mem_map.mp member
    exact Nat.le_of_eq (made present).1
  · rw [timers]
    rintro timer (present | out | ⟨armed, present, _⟩)
    · exact (made present).2.2
    · cases out
    · cases present
  · rw [timers]
    exact fun timer present => (made present).2.1
  · rw [timers]
    exact List.forall_mem_nil _
  · rw [timers]
    rfl
  · rw [timers]
    exact fun _ => rfl
  · rw [fresh]
    exact Queue.empty_numbered
  · rw [List.append_nil]
    exact .refl _

end Host

/-- A course with the session of its timers. -/
structure Watch (σ π ρ υ : Type) where
  course : Course σ π ρ υ
  timers : TimerSet.Session σ

namespace Watch

def start (host : Host σ π ρ υ) : Watch σ π ρ υ := ⟨Course.start host, host.timers⟩

def move (watch : Watch σ π ρ υ) (move : Host.Move σ π υ) : Watch σ π ρ υ :=
  ⟨watch.course.move move, watch.timers.moves (watch.course.host.timings move)⟩

def moves (watch : Watch σ π ρ υ) (list : List (Host.Move σ π υ)) : Watch σ π ρ υ := list.foldl move watch

variable {watch : Watch σ π ρ υ}

theorem course_moves (watch : Watch σ π ρ υ) (list : List (Host.Move σ π υ)) :
    (watch.moves list).course = watch.course.moves list := by
  induction list generalizing watch with
  | nil => rfl
  | cons move rest ih => exact ih (watch.move move)

theorem start_moves_host (host : Host σ π ρ υ) (list : List (Host.Move σ π υ)) :
    ((start host).moves list).course.host = host.moves list := by
  rw [course_moves, Course.host_moves]
  rfl

/-- The session has the timers of the task that is watched. -/
def Keeps (watch : Watch σ π ρ υ) : Prop := watch.course.host.Keeps watch.timers

theorem Keeps.move (keeps : watch.Keeps) (move : Host.Move σ π υ) : (watch.move move).Keeps :=
  Host.Keeps.move keeps move

end Watch

end Task

end TaskKernel
