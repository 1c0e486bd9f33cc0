import TaskKernel.Proofs.Queue.Waiting
import TaskKernel.Proofs.Task.Progress

/-!
The wait of a task for entries of its queue. Only the serving thread ever waits there, so it is never parked
while an entry is queued, and when it comes to look it takes the first one, whatever its deadline is.
-/
namespace TaskKernel

namespace Sync.WaitSet

variable {set after : WaitSet} {thread : ThreadKey} {now : Instant}

/-- No other thread waits. -/
def Only (thread : ThreadKey) (set : WaitSet) : Prop := ∀ waiter ∈ set.waiters, waiter.thread = thread

private theorem Only.rouses (only : set.Only thread) (rouses : set.Rouses now after) : after.Only thread := by
  intro waiter member
  obtain ⟨before, present, roused⟩ := rouses.mem member
  have same := only before present
  cases roused <;> exact same

private theorem Only.leave (only : set.Only thread) (other : ThreadKey) : (set.leave other).Only thread :=
  fun waiter member => only waiter (List.mem_filter.mp member).1

private theorem Only.park (only : set.Only thread) (deadline : Option Instant) :
    (set.park thread deadline).Only thread := by
  intro waiter member
  rcases List.mem_append.mp member with old | new
  · exact only.leave thread waiter old
  · rw [List.mem_singleton.mp new]

private theorem Only.recheckingCount_of_parked (only : set.Only thread) (apart : set.Apart)
    (parked : set.stance? thread = some .parked) : 0 < set.parkedCount ∧ set.recheckingCount = 0 := by
  obtain ⟨waiter, member, _, stance⟩ := stance?_eq_some parked
  have some : 0 < set.parkedCount := List.countP_pos_iff.mpr ⟨waiter, member, decide_eq_true stance⟩
  have same : set.waiters.map (·.thread) = List.replicate set.waiters.length thread := by
    refine List.eq_replicate_iff.mpr ⟨List.length_map _, fun other listed => ?_⟩
    obtain ⟨waiter, present, rfl⟩ := List.mem_map.mp listed
    exact only waiter present
  rw [Apart, same, List.nodup_replicate] at apart
  have sum := set.counts_add
  omega

end Sync.WaitSet

namespace Exchange.Session

variable {α β : Type} {session : Session α β} {thread : ThreadKey}

theorem Attended.moves (attended : session.Attended) (list : List (Move α β)) :
    (session.moves list).Attended := by
  induction list generalizing session with
  | nil => exact attended
  | cons move rest ih => exact ih (attended.move move)

private theorem only_move (only : session.exchange.waiting.Only thread) (move : Move α β)
    (own : ∀ other deadline, move = .receive other deadline → other = thread) :
    (session.move move).exchange.waiting.Only thread := by
  cases session.move_stir move with
  | aside _ waiting | took _ _ waiting =>
    rw [waiting]
    exact only
  | signalled _ _ pick _ _ waiting =>
    rw [waiting]
    exact only.rouses (Sync.WaitSet.signal_rouses session.now _ pick)
  | closed _ waiting =>
    rw [waiting]
    exact only.rouses (Sync.WaitSet.broadcast_rouses session.now _)
  | roused _ rouses => exact only.rouses rouses
  | left _ other _ _ _ waiting | gaveUp other _ _ _ _ waiting =>
    rw [waiting]
    exact only.leave other
  | parked other deadline look _ _ _ waiting =>
    obtain rfl := own other deadline look
    rw [waiting]
    exact only.park _

end Exchange.Session

namespace Task

variable {σ π ρ υ α : Type} {task : Task σ π ρ υ} {diary : Diary σ π ρ} {course : Course σ π ρ υ}

/-- No other thread than the serving one waits for entries. -/
def Lone (session : Exchange.Session (Command σ π) ρ) : Prop := session.exchange.waiting.Only consumer

private theorem Lone.deal (lone : Lone diary.session) {move : Exchange.Session.Move (Command σ π) ρ}
    (own : ∀ other deadline, move = .receive other deadline → other = consumer) :
    Lone (diary.deal move).session := Exchange.Session.only_move lone move own

private theorem Lone.call (lone : Lone diary.session) (rest : HandlerCode σ π υ α) (reply : α → Option ρ) :
    Lone (diary.call rest reply).session := by
  have ended (ending : Ending (Option ρ)) : Lone (diary.finish ending).session := by
    rw [finish_session]
    exact lone
  unfold Diary.call
  split
  · exact ended _
  · exact ended _
  · unfold Diary.ask
    split
    · exact lone.deal (by simp)
    all_goals exact lone

private theorem Lone.reply (lone : Lone diary.session) (slot : Nat) (response : Response ρ) :
    Lone (Task.reply diary slot response).session := by
  cases response with
  | handled | failed => exact Lone.deal (lone.deal (by simp)) (by simp)
  | abandoned | timedOut => exact lone

private theorem Lone.write (lone : Lone diary.session) (task : Task σ π ρ υ) : Lone
    (Task.write task diary).session := by
  unfold Task.write
  cases task.place with
  | starting | ticking | callingBack | handling | exiting => exact lone.call _ _
  | draining =>
    simp only
    split <;> exact lone
  | receiving =>
    have received : Lone (diary.deal (.receive consumer task.timers.nextDeadline?)).session :=
      lone.deal fun other deadline same => by
        cases same
        rfl
    simp only
    split
    · split <;> exact received
    · exact received
    · exact received
  | answering slot response =>
    cases slot with
    | none => exact lone
    | some slot => exact lone.reply slot response
  | closing => exact Lone.deal lone (by simp)
  | abandoning slots =>
    cases slots with
    | nil => exact lone
    | cons => exact Lone.deal lone (by simp)
  | arming | idle | lost | entering | sweeping | rearming | ordering | disposing | leaving | reporting | ended =>
    exact lone

theorem Lone.move (lone : Lone course.diary.session) (move : Host.Move σ π υ) :
    Lone (course.move move).diary.session := by
  show Lone (course.host.write course.diary move).session
  cases move with
  | post | cancelTimer | look | rouseCaller | expireCaller | rouse | expire | passTo => exact lone.deal (by simp)
  | call | addTimer =>
    simp only [Host.write]
    split
    · exact lone
    · exact lone.deal (by simp)
  | serve =>
    simp only [Host.write]
    split
    · exact lone.write course.host.task
    · exact lone
  | begin | commit | join | abandon | setPriority | permit | allocateHandle | allocateTimer | identify
    | record => exact lone

theorem Lone.moves (lone : Lone course.diary.session) (list : List (Host.Move σ π υ)) :
    Lone (course.moves list).diary.session := by
  induction list generalizing course with
  | nil => exact lone
  | cons move rest ih => exact ih (lone.move move)

private theorem Followed.attended (followed : Followed course) : course.diary.session.Attended := by
  obtain ⟨now, list, same⟩ := followed.session
  rw [same]
  exact (Exchange.Session.start_attended now).moves list

theorem Followed.vacant_of_parked (followed : Followed course) (lone : Lone course.diary.session)
    (parked : course.host.task.exchange.waiting.stance? consumer = some .parked) :
    course.host.task.exchange.queue.entries = [] := by
  have attended := followed.attended
  rw [← followed.mirrored.exchange] at parked ⊢
  obtain ⟨some, none⟩ := lone.recheckingCount_of_parked attended.apart parked
  have covered := attended.covered some
  rw [none] at covered
  exact List.eq_nil_of_length_eq_zero (Nat.le_zero.mp covered)

/-- The entry of the queue that a move takes. -/
def Host.takes? (host : Host σ π ρ υ) : Host.Move σ π υ → Option (Queue.Entry (Parcel (Command σ π)))
  | .serve =>
    match host.task.place, (host.task.exchange.receive consumer host.task.timers.nextDeadline?).1 with
    | .receiving, .received entry => some entry
    | _, _ => none
  | _ => none

theorem Host.takes?_eq_some {host : Host σ π ρ υ} {move : Host.Move σ π υ}
    {entry : Queue.Entry (Parcel (Command σ π))} (takes : host.takes? move = some entry) :
    move = .serve ∧ host.task.place = .receiving ∧
      (host.task.exchange.receive consumer host.task.timers.nextDeadline?).1 = .received entry := by
  cases move with
  | serve =>
    simp only [takes?] at takes
    split at takes
    · rename_i place received
      cases takes
      exact ⟨rfl, place, received⟩
    · cases takes
  | _ => cases takes

/-- A thread that waits for an entry while one is queued is not parked, and takes the first one with its
next step. -/
theorem Followed.takes_of_queued (followed : Followed course) (lone : Lone course.diary.session)
    (receiving : course.host.task.place = .receiving)
    (queued : course.host.task.exchange.queue.entries ≠ []) :
    course.host.task.exchange.waiting.stance? consumer ≠ some .parked ∧
      ∃ entry rest, course.host.task.exchange.queue.pop? = some (entry, rest) ∧
        course.host.takes? .serve = some entry := by
  have awake : course.host.task.exchange.waiting.stance? consumer ≠ some .parked :=
    fun parked => queued (followed.vacant_of_parked lone parked)
  refine ⟨awake, ?_⟩
  rcases course.host.task.exchange.receive_cases consumer course.host.task.timers.nextDeadline? with ⟨parked, _⟩ |
    ⟨_, ⟨entry, queue, popped, result⟩ | ⟨vacant, _⟩ | ⟨vacant, _⟩⟩
  · exact absurd parked awake
  · exact ⟨entry, queue, popped, by simp [Host.takes?, receiving, result]⟩
  · exact absurd (Queue.pop?_eq_none.mp vacant) queued
  · exact absurd (Queue.pop?_eq_none.mp vacant) queued

end Task

end TaskKernel
