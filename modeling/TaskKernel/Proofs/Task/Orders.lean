import TaskKernel.Proofs.Queue.Outcomes
import TaskKernel.Proofs.Queue.Turns
import TaskKernel.Proofs.Task.Delivery
import TaskKernel.Proofs.Task.Ticking

/-!
The entries of a task's queue. Each has the priority of its command, a new timer has a new number, and an
order that has been taken is in hand or has been carried out.
-/
namespace TaskKernel

variable {σ π ρ υ α : Type}

namespace Task

/-- All that is admitted on the way from one session to another is of this kind. -/
def Admits (kind : Envelope σ π → Prop) (session after : Exchange.Session (Command σ π) ρ) : Prop :=
  ∀ entry ∈ Exchange.Session.admitted after.history,
    entry ∈ Exchange.Session.admitted session.history ∨ kind entry

/-- An entry has the priority of its command, and a timer in it has the number after those given out. -/
structure Proper (given : Nat) (entry : Envelope σ π) : Prop where
  priority : entry.priority = entry.item.item.priority
  number : ∀ timer, entry.item.item = .addTimer timer → timer.id.number = given + 1

variable {kind : Envelope σ π → Prop} {session : Exchange.Session (Command σ π) ρ} {given : Nat}

theorem Admits.of_eq {after : Exchange.Session (Command σ π) ρ}
    (same : Exchange.Session.admitted after.history = Exchange.Session.admitted session.history) :
    Admits kind session after := fun _ member => .inl (same ▸ member)

private theorem Admits.push {priority : Priority} {command : Command σ π} {pick : Nat}
    (fits : kind ⟨priority, session.exchange.queue.arrivals, ⟨command, none⟩⟩) :
    Admits kind session (session.move (.push priority command pick)) := by
  intro entry member
  simp only [Exchange.Session.move] at member
  split at member
  · exact .inl member
  · simp only [Exchange.Session.note, Exchange.Session.admitted_append] at member
    refine (List.mem_append.mp member).imp id fun new => ?_
    rwa [List.mem_singleton.mp new]

private theorem Admits.call {priority : Priority} {command : Command σ π} {deadline : Option Instant} {pick : Nat}
    (fits : ∀ slot, kind ⟨priority, session.exchange.queue.arrivals, ⟨command, some slot⟩⟩) :
    Admits kind session (session.move (.call priority command deadline pick)) := by
  intro entry member
  simp only [Exchange.Session.move] at member
  split at member
  · exact .inl member
  · simp only [Exchange.Session.note, Exchange.Session.admitted_append] at member
    refine (List.mem_append.mp member).imp id fun new => ?_
    rw [List.mem_singleton.mp new]
    exact fits _

private theorem Proper.message (given : Nat) (arrival : Nat) (message : Message π) (slot : Option Nat) :
    Proper given (⟨message.priority, arrival, ⟨.deliver message, slot⟩⟩ : Envelope σ π) :=
  ⟨rfl, fun _ same => by cases same⟩

private theorem ask_admits (diary : Diary σ π ρ) (call : HandlerCall σ π υ) :
    Admits (Proper given) diary.session (diary.ask call).session := by
  cases call with
  | post message => exact .push (.message given _ message none)
  | plain | waitSelf | addTimer | addCallback | cancelTimer | freshTimer | armedCount | quit | isQuitting
    | tickPriority | pending | isClosed | userData | setUserData => exact .of_eq rfl

private theorem call_admits (diary : Diary σ π ρ) (rest : HandlerCode σ π υ α) (reply : α → Option ρ) :
    Admits (Proper given) diary.session (diary.call rest reply).session := by
  unfold Diary.call
  split
  · exact .of_eq (congrArg _ (congrArg _ (finish_session diary _)))
  · exact .of_eq (congrArg _ (congrArg _ (finish_session diary _)))
  · exact ask_admits diary _

/-- Whether a move of a session is that of a producer. -/
def isPost {α β : Type} : Exchange.Session.Move α β → Bool
  | .push .. | .call .. => true
  | .tryReceive _ | .receive .. | .close | .settle .. | .drop _ | .look _ | .rouseCaller _ | .expireCaller _
    | .rouse _ | .expire _ | .passTo _ => false

private theorem admitted_move (session : Exchange.Session (Command σ π) ρ)
    {move : Exchange.Session.Move (Command σ π) ρ} (other : isPost move = false) :
    Exchange.Session.admitted (session.move move).history = Exchange.Session.admitted session.history := by
  have none : session.accepted? move = none := by
    cases move with
    | push | call => cases other
    | _ => rfl
  rw [(session.move_recorded move).1, none]
  exact List.append_nil _

private theorem reply_admits (diary : Diary σ π ρ) (slot : Nat) (response : Response ρ) :
    Admits kind diary.session (reply diary slot response).session := by
  cases response with
  | handled | failed =>
    exact .of_eq ((admitted_move _ rfl).trans (admitted_move _ rfl))
  | abandoned | timedOut => exact .of_eq rfl

private theorem write_admits (task : Task σ π ρ υ) (diary : Diary σ π ρ) :
    Admits (Proper given) diary.session (write task diary).session := by
  unfold write
  cases place : task.place with
  | starting | ticking | callingBack | handling | exiting => exact call_admits diary _ _
  | draining began =>
    simp only
    split <;> exact .of_eq rfl
  | receiving =>
    have received : Exchange.Session.admitted
        (diary.session.move (.receive consumer task.timers.nextDeadline?)).history =
          Exchange.Session.admitted diary.session.history := admitted_move diary.session rfl
    simp only
    split
    · split <;> exact .of_eq received
    · exact .of_eq received
    · exact .of_eq received
  | answering slot response =>
    cases slot with
    | none => exact .of_eq rfl
    | some slot => exact reply_admits diary slot response
  | closing => exact .of_eq (admitted_move _ rfl)
  | abandoning slots dropped =>
    cases slots with
    | nil => exact .of_eq rfl
    | cons => exact .of_eq (admitted_move _ rfl)
  | idle | lost | entering | arming | sweeping | rearming | ordering | disposing | leaving | reporting | ended =>
    exact .of_eq rfl

variable {course : Course σ π ρ υ}

theorem Course.move_admits (course : Course σ π ρ υ) (move : Host.Move σ π υ) :
    Admits (Proper course.host.kernel.timers) course.diary.session (course.move move).diary.session := by
  simp only [Course.move]
  cases move with
  | post message => exact .push (.message _ _ message none)
  | cancelTimer id => exact .push ⟨rfl, fun _ same => by cases same⟩
  | call thread message timeout =>
    simp only [Host.write]
    split
    · exact .of_eq rfl
    · exact .call fun slot => .message _ _ message (some slot)
  | addTimer interval repeats action =>
    simp only [Host.write]
    split
    · exact .of_eq rfl
    · refine .push ⟨rfl, fun timer same => ?_⟩
      cases same
      rfl
  | serve =>
    simp only [Host.write]
    split
    · exact write_admits _ _
    · exact .of_eq rfl
  | look | rouseCaller | expireCaller | rouse | expire | passTo => exact .of_eq (admitted_move _ rfl)
  | begin | commit | join | abandon | setPriority | permit | allocateHandle | allocateTimer | identify | record =>
    exact .of_eq rfl

theorem Followed.turns (followed : Followed course) : course.diary.session.Turns := by
  obtain ⟨now, list, same⟩ := followed.session
  exact same ▸ Exchange.Session.moves_turns now list

/-- Every entry has the priority of its command. -/
def Urgent (course : Course σ π ρ υ) : Prop :=
  ∀ entry ∈ Exchange.Session.admitted course.diary.session.history, entry.priority = entry.item.item.priority

theorem Urgent.moves (urgent : Urgent course) (list : List (Host.Move σ π υ)) : Urgent (course.moves list) := by
  induction list generalizing course with
  | nil => exact urgent
  | cons move rest ih =>
    refine ih fun entry member => ?_
    rcases course.move_admits move entry member with old | proper
    · exact urgent entry old
    · exact proper.priority

theorem Step.taken {task next : Task σ π ρ υ} {diary later : Diary σ π ρ} (mirrored : Mirrored task diary)
    (step : Step task diary next later) :
    Exchange.Session.taken later.session.history = Exchange.Session.taken diary.session.history ∨
      (task.place = .receiving ∧ ∃ entry : Envelope σ π,
        Exchange.Session.taken later.session.history =
          Exchange.Session.taken diary.session.history ++ [entry] ∧
        ((∃ message, entry.item.item = .deliver message ∧
            next.place = .handling entry.item.slot (task.handler.handle message)) ∨
          next.place = .ordering entry.item.slot entry.item.item)) := by
  cases step with
  | aside | passed | woundDown | started | fired | waited | exited => exact .inl rfl
  | dealt move outer => exact .inl (outer_frame diary.session move outer).taken
  | asked call => exact .inl (ask_frame diary call).taken
  | ended ending => exact .inl (by rw [finish_session])
  | took entry queue waiting message receiving popped item =>
    refine .inr ⟨receiving, entry, ?_, .inl ⟨message, item, rfl⟩⟩
    simp [Diary.begin, Exchange.Session.hand]
  | ordered entry queue waiting receiving popped command =>
    refine .inr ⟨receiving, entry, ?_, .inr rfl⟩
    simp [Exchange.Session.hand]
  | answered slot ending answering => simp [reply_session mirrored answering, Exchange.Session.taken]
  | closed closing => simp [Diary.deal, Exchange.Session.move]
  | told slot slots dropped abandoning => simp [drop_session mirrored abandoning]

end Task

/-- An order has been carried out. A message is none. -/
def Command.Done {σ π : Type} (history : List (TimerSet.Session.Event σ)) : Command σ π → Prop
  | .deliver _ => True
  | .addTimer timer => .armed timer ∈ history
  | .cancelTimer id => ∃ known, .cancelled id known ∈ history

private theorem Command.Done.later {before after : List (TimerSet.Session.Event σ)} (early : before <+: after)
    {command : Command σ π} (done : command.Done before) : command.Done after := by
  cases command with
  | deliver => trivial
  | addTimer timer => exact early.subset done
  | cancelTimer id =>
    obtain ⟨known, past⟩ := done
    exact ⟨known, early.subset past⟩

namespace Task

variable {task : Task σ π ρ υ} {timers : TimerSet.Session σ} {given : Nat}

private theorem Keeps.done (keeps : Keeps timers task given) {slot : Option Nat} {command : Command σ π}
    (place : task.place = .ordering slot command) (now : Instant) :
    command.Done (timers.moves (task.timings now given)).history := by
  cases command with
  | deliver message => trivial
  | addTimer timer =>
    obtain ⟨refused, made, _⟩ := keeps.made
    have member : timer ∈ timers.made := by
      rw [made.mem_iff, waiting, place]
      simp [Place.ordered?, Command.timer?]
    have armed := keeps.sound.move_arm member now
    show TimerSet.Session.Event.armed timer ∈ _
    simp only [timings, place, TimerSet.Session.moves, List.foldl_cons, List.foldl_nil, armed,
      TimerSet.Session.note]
    exact List.mem_append_right _ (List.mem_singleton.mpr rfl)
  | cancelTimer id =>
    show ∃ known, TimerSet.Session.Event.cancelled id known ∈ _
    simp only [timings, place, TimerSet.Session.moves, List.foldl_cons, List.foldl_nil, TimerSet.Session.move,
      TimerSet.Session.note]
    exact ⟨_, List.mem_append_right _ (List.mem_singleton.mpr rfl)⟩

namespace Watch

variable {watch : Watch σ π ρ υ} {handler : Handler σ π ρ υ}

/-- An order stays in hand up to the step that carries it out. -/
theorem move_ordering {slot : Option Nat} {command : Command σ π}
    (place : watch.course.host.task.place = .ordering slot command) (move : Host.Move σ π υ) :
    (watch.move move).course.host.task.place = .ordering slot command ∨
      (watch.move move).timers = watch.timers.moves
        (watch.course.host.task.timings watch.course.host.kernel.now watch.course.host.kernel.timers) := by
  by_cases steps : move = .serve ∧ ∃ progress, watch.course.host.Steps progress
  · obtain ⟨rfl, progress, steps⟩ := steps
    have goes : watch.course.host.step?.isSome = true := by
      rw [Host.step?, steps]
      rfl
    right
    simp only [Watch.move, Host.timings, goes, if_true]
  · have still := Host.move_still_of_no_step (by simp [place]) steps
    exact .inl (still.place.trans place)

/-- What holds of a watched task with this handler all along: of its messages, its timers and its orders. -/
structure Whole (handler : Handler σ π ρ υ) (watch : Watch σ π ρ υ) : Prop where
  sound : watch.Sound
  kept : Task.Kept handler watch.course
  urgent : Urgent watch.course
  carried : ∀ entry ∈ Exchange.Session.taken watch.course.diary.session.history,
    watch.course.host.task.place = .ordering entry.item.slot entry.item.item ∨
      entry.item.item.Done watch.timers.history

private theorem Whole.move_carried (whole : watch.Whole handler) (move : Host.Move σ π υ) :
    ∀ entry ∈ Exchange.Session.taken (watch.move move).course.diary.session.history,
      (watch.move move).course.host.task.place = .ordering entry.item.slot entry.item.item ∨
        entry.item.item.Done (watch.move move).timers.history := by
  intro entry past
  have followed := whole.kept.reached.followed
  have early : watch.timers.history <+: (watch.move move).timers.history := watch.timers.moves_history _
  rcases (followed.step move).taken followed.mirrored with same | ⟨receives, other, more, goes⟩
  · have before : entry ∈ Exchange.Session.taken watch.course.diary.session.history := same ▸ past
    rcases whole.carried entry before with ordering | done
    · rcases move_ordering ordering move with still | carries
      · exact .inl still
      · right
        rw [carries]
        exact Keeps.done whole.sound.keeps ordering _
    · exact .inr (done.later early)
  · have after : entry ∈ Exchange.Session.taken watch.course.diary.session.history ++ [other] := more ▸ past
    rcases List.mem_append.mp after with old | new
    · rcases whole.carried entry old with ordering | done
      · rw [receives] at ordering
        cases ordering
      · exact .inr (done.later early)
    · obtain rfl := List.mem_singleton.mp new
      rcases goes with ⟨message, item, _⟩ | ordering
      · right
        rw [item]
        trivial
      · exact .inl ordering

theorem Whole.move (whole : watch.Whole handler) (move : Host.Move σ π υ) : (watch.move move).Whole handler where
  sound := whole.sound.move move
  kept := whole.kept.move move
  urgent := whole.urgent.moves [move]
  carried := whole.move_carried move

theorem Whole.moves (whole : watch.Whole handler) (list : List (Host.Move σ π υ)) :
    (watch.moves list).Whole handler := by
  induction list generalizing watch with
  | nil => exact whole
  | cons move rest ih => exact ih (whole.move move)

theorem start_whole {kernel : Kernel} {thread : ThreadKey} {settings : Settings υ} {state : σ}
    {host : Host σ π ρ υ} (created : (Host.create kernel thread settings handler state).1 = .ok host) :
    (start host).Whole handler where
  sound := start_sound created
  kept := start_kept created
  urgent _ member := by cases member
  carried _ past := by cases past

end Watch

end Task

end TaskKernel
