import TaskKernel.Proofs.Task.Orders

/-!
What is behind a task when it takes a message. Whatever was accepted before with at least the priority of
the message has been dispatched, so a quit of the lowest priority drains the queue of all that came before.
-/
namespace TaskKernel

variable {σ π ρ υ : Type}

private theorem Priority.low_le (priority : Priority) : .low ≤ priority := Nat.zero_le priority.rank

namespace Task

variable {task next : Task σ π ρ υ} {diary later : Diary σ π ρ} {entry other : Envelope σ π} {message : Message π}
  {handler : Handler σ π ρ υ} {course : Course σ π ρ υ}

/-- What a step does that takes a message: the message goes first, and nothing else is in hand. -/
structure Takes (task next : Task σ π ρ υ) (diary later : Diary σ π ρ) (entry : Envelope σ π)
    (message : Message π) : Prop where
  item : entry.item.item = .deliver message
  popped : task.exchange.queue.pop? = some (entry, next.exchange.queue)
  taken : Exchange.Session.taken later.session.history =
    Exchange.Session.taken diary.session.history ++ [entry]
  activity : later.activity = some (.handling (some entry) message)
  place : next.place = .handling entry.item.slot (task.handler.handle message)
  quitting : next.quitting = message.kind.isQuit

private theorem Step.takes (step : Step task diary next later)
    (history : later.history = diary.history ++ [.began (.handling (some entry) message)]) :
    Takes task next diary later entry message := by
  have same {before : List (Event σ π ρ)} {event : Event σ π ρ} (equal : before = diary.history)
      (grown : before = diary.history ++ [event]) : False := by
    have longer := congrArg List.length (equal.symm.trans grown)
    simp at longer
  have last {first second : Event σ π ρ} (equal : diary.history ++ [first] = diary.history ++ [second]) :
      first = second := List.singleton_inj.mp (List.append_cancel_left equal)
  cases step with
  | aside | dealt | passed | woundDown | waited | ordered | told => exact (same rfl history).elim
  | asked call => exact (same (ask_history diary call) history).elim
  | answered slot ending => exact (same (reply_history diary slot _) history).elim
  | started | closed | exited => cases last history
  | ended ending place ends =>
    unfold Diary.finish at history
    split at history
    · exact (same rfl history).elim
    · cases last history
  | fired now firing timers draining =>
    have began := last history
    simp only [activityOf] at began
    split at began <;> cases began
  | took first queue waiting given receiving popped item =>
    cases last history
    exact ⟨item, popped, by simp [Diary.begin, Exchange.Session.hand], rfl, rfl, rfl⟩

/-- A thread that has taken a message to quit is on its way out. -/
inductive Place.Leaves (quitting : Bool) : Place σ π ρ υ → Prop
  | handling (slot : Option Nat) (rest : HandlerCode σ π υ (Option ρ)) (quits : quitting = true) :
      Leaves quitting (.handling slot rest)
  | answering (slot : Option Nat) (response : Response ρ) (quits : quitting = true) :
      Leaves quitting (.answering slot response)
  | closing : Leaves quitting .closing
  | past (place : Place σ π ρ υ) (past : place.isPast = true) : Leaves quitting place

private theorem Place.Leaves.asks {quitting : Bool} {place : Place σ π ρ υ} (leaves : place.Leaves quitting)
    {call : HandlerCall σ π υ} {resume : call.Answer → Place σ π ρ υ} (asks : place.Asks call resume)
    (answer : call.Answer) : (resume answer).Leaves (quitting || call.isQuit) := by
  cases asks with
  | handling slot code =>
    cases leaves with
    | handling _ _ quits => exact .handling slot _ (by rw [quits, Bool.true_or])
    | past _ past => cases past
  | exiting code => exact .past _ rfl
  | starting | ticking | callingBack =>
    cases leaves with
    | past _ past => cases past

private theorem Place.Leaves.ends {quitting : Bool} {place after : Place σ π ρ υ} (leaves : place.Leaves quitting)
    {ending : Ending (Option ρ)} (ends : place.Ends quitting ending after) : after.Leaves quitting := by
  cases ends with
  | handling slot code =>
    cases leaves with
    | handling _ _ quits => exact .answering slot _ quits
    | past _ past => cases past
  | exiting => exact .past _ rfl
  | starting | ticking | callingBack =>
    cases leaves with
    | past _ past => cases past

private theorem Place.Leaves.passes {quitting : Bool} {place after : Place σ π ρ υ} (leaves : place.Leaves quitting)
    (passes : place.Passes quitting after) : after.Leaves quitting := by
  have unpast := passes.past.1
  cases leaves with
  | past _ past =>
    rw [unpast] at past
    cases past
  | answering slot response quits =>
    subst quits
    cases passes
    exact .closing
  | handling | closing => cases passes

theorem Step.leaves (step : Step task diary next later) (leaves : task.place.Leaves task.quitting) :
    next.place.Leaves next.quitting := by
  cases step with
  | aside | dealt => exact leaves
  | passed life timers abandoned disposals place passes => exact leaves.passes passes
  | woundDown life disposals place winds ends => exact .past _ winds.past.2
  | asked call resume asks answer => exact leaves.asks asks answer
  | ended ending place ends => exact leaves.ends ends
  | answered slot ending answering =>
    rw [answering] at leaves
    cases leaves with
    | answering _ _ quits =>
      show task.afterCall.Leaves task.quitting
      rw [afterCall, if_pos quits]
      exact .closing
    | past _ past => cases past
  | closed | told | exited => exact .past _ rfl
  | started _ place | fired _ _ _ place | waited _ _ place | took _ _ _ _ place | ordered _ _ _ place =>
    rw [place] at leaves
    cases leaves with
    | past _ past => cases past

private theorem Followed.leaves (followed : Followed course)
    (leaves : course.host.task.place.Leaves course.host.task.quitting) (list : List (Host.Move σ π υ)) :
    Exchange.Session.taken (course.moves list).diary.session.history =
      Exchange.Session.taken course.diary.session.history := by
  induction list generalizing course with
  | nil => rfl
  | cons move rest ih =>
    have step := followed.step move
    refine (ih (followed.move move) (step.leaves leaves)).trans ?_
    rcases step.taken followed.mirrored with same | ⟨receives, _⟩
    · exact same
    · rw [receives] at leaves
      cases leaves with
      | past _ past => cases past

/-- The message that the next step of the thread takes, with its entry. -/
def Host.taking? (host : Host σ π ρ υ) : Option (Envelope σ π × Message π) :=
  match host.task.place, (host.task.exchange.receive consumer host.task.timers.nextDeadline?).1 with
  | .receiving, .received entry =>
    match entry.item.item with
    | .deliver message => some (entry, message)
    | .addTimer _ | .cancelTimer _ => none
  | _, _ => none

theorem Host.taking?_eq_some {host : Host σ π ρ υ} (taking : host.taking? = some (entry, message)) :
    host.task.place = .receiving ∧ entry.item.item = .deliver message ∧
      (host.task.exchange.receive consumer host.task.timers.nextDeadline?).1 = .received entry := by
  unfold taking? at taking
  split at taking
  · next place received =>
    split at taking
    · next item =>
      cases taking
      exact ⟨place, item, received⟩
    · cases taking
    · cases taking
  · cases taking

private theorem Course.move_taking (taking : course.host.taking? = some (entry, message)) :
    (course.move .serve).diary.history = course.diary.history ++ [.began (.handling (some entry) message)] := by
  obtain ⟨place, item, received⟩ := Host.taking?_eq_some taking
  have awake : course.host.task.exchange.waiting.stance? consumer ≠ some .parked := by
    intro parked
    rw [Exchange.receive, parked] at received
    cases received
  have goes : course.host.step?.isSome = true := by
    simp only [Host.step?, step?, place, if_neg awake, Option.isSome_map]
    split <;> rfl
  show (Host.write course.host course.diary .serve).history = _
  simp only [Host.write, goes, if_true, Task.write, place, received, item]
  rfl

private theorem Course.exists_taking (taking : course.host.taking?.map Prod.snd = some message) : ∃ entry,
    (course.move .serve).diary.history = course.diary.history ++ [.began (.handling (some entry) message)] := by
  obtain ⟨⟨entry, _⟩, takes, rfl⟩ := Option.map_eq_some_iff.mp taking
  exact ⟨entry, course.move_taking takes⟩

private theorem Kept.ended_of_finished (kept : Kept handler course) (item : entry.item.item = .deliver message)
    (past : entry ∈ finished course.diary.history) :
    ∃ ending asked, .ended (.handling (some entry) message) ending asked ∈ course.diary.history := by
  obtain ⟨event, ended, same⟩ := List.mem_filterMap.mp past
  cases event with
  | ended activity ending asked =>
    cases activity with
    | handling found given =>
      cases same
      have fits := (kept.ledger.fits _ ended).1 entry rfl
      rw [item] at fits
      cases fits
      exact ⟨ending, asked, ended⟩
    | starting | callingBack | exiting => cases same
  | began | closed => cases same

private theorem Kept.spared_of_handled (kept : Kept handler course) {deadline : Option Instant} {number : Nat}
    (admission : (entry, deadline) ∈ course.admissions) (item : entry.item = ⟨.deliver message, some number⟩)
    (past : entry ∈ handled course.diary.history) (list : List (Host.Move σ π υ)) :
    (course.moves list).host.task.exchange.outcome? number ≠ some .abandoned := by
  intro abandoned
  have remains := (course.moves_admissions list).subset admission
  have none := ((kept.moves list).answered remains item).abandoned abandoned []
  have still : entry ∈ handled (course.moves list).diary.history :=
    ((kept.reached.followed.history list).filterMap _).subset past
  have some := tally_pos still
  simp only [Course.moves, List.foldl_nil] at none some
  omega

private theorem Kept.answer_of_handled (kept : Kept handler course) {deadline : Option Instant} {number : Nat}
    (admission : (entry, deadline) ∈ course.admissions) (item : entry.item = ⟨.deliver message, some number⟩)
    (past : entry ∈ handled course.diary.history)
    (free : ∀ responder ∈ course.host.task.place.responders, responder.slot ≠ number) :
    ∃ ending asked, .ended (.handling (some entry) message) ending asked ∈ course.diary.history ∧
      course.host.task.exchange.answer? number = some (responseOf ending) := by
  have followed := kept.reached.followed
  have books := followed.books
  have member := admitted_of_admission admission
  have placed := kept.placed admission (by rw [item])
  have given : number ∈ Exchange.slotsOf (Exchange.Session.admitted course.diary.session.history) :=
    List.mem_filterMap.mpr ⟨entry, member, by rw [item]⟩
  have once := placed.once
  have some := tally_pos past
  rw [books.numbers, ← books.once.mem_iff, followed.mirrored.responders, followed.mirrored.exchange,
    List.mem_append, List.mem_append] at given
  rcases given with queued | held | filled
  · obtain ⟨other, present, slot⟩ := List.mem_filterMap.mp queued
    obtain rfl := books.same_owner (followed.admitted_of_queued present) member slot (by rw [item])
    have left := tally_pos present
    omega
  · obtain ⟨responder, responds, slot⟩ := List.mem_map.mp held
    exact absurd slot (free responder (List.mem_filter.mp responds).1)
  · obtain ⟨⟨_, response⟩, fill, rfl⟩ := List.mem_map.mp filled
    have answer := (followed.truthful.answers _ _).mpr fill
    rcases kept.answer_cases admission item answer with ⟨ending, asked, ended, rfl⟩ | ⟨drops, rfl⟩
    · exact ⟨ending, asked, ended, followed.mirrored.exchange ▸ answer⟩
    · have dropped := tally_pos drops
      omega

namespace Watch

variable {watch after : Watch σ π ρ υ}

/-- An entry has been taken and all that was to be done with it is over. -/
structure Dispatched (watch : Watch σ π ρ υ) (entry : Envelope σ π) : Prop where
  taken : entry ∈ Exchange.Session.taken watch.course.diary.session.history
  done : entry.item.item.Done watch.timers.history
  ended : ∀ message, entry.item.item = .deliver message →
    ∃ ending asked, .ended (.handling (some entry) message) ending asked ∈ watch.course.diary.history ∧
      ∀ number, entry.item.slot = some number →
        watch.course.host.task.exchange.answer? number = some (responseOf ending)
  spared : ∀ message number, entry.item = ⟨.deliver message, some number⟩ →
    ∀ list, (watch.moves list).course.host.task.exchange.outcome? number ≠ some .abandoned

/-- When a message is taken, what was accepted before it and is as urgent has been dispatched. -/
private theorem Whole.dispatched (whole : after.Whole handler)
    (takes : Takes task after.course.host.task diary after.course.diary entry message) {deadline : Option Instant}
    (admission : (other, deadline) ∈ after.course.admissions) (earlier : other.arrival < entry.arrival)
    (urgent : entry.priority ≤ other.priority) : after.Dispatched other := by
  have kept := whole.kept
  have books := kept.reached.followed.books
  have different : other ≠ entry := by
    rintro rfl
    omega
  have first : entry ∈ Exchange.Session.taken after.course.diary.session.history := by simp [takes.taken]
  have member := admitted_of_admission admission
  have taken := kept.reached.followed.turns.taken_before books first member earlier urgent
  have past {given : Message π} (item : other.item.item = .deliver given) :
      other ∈ handled after.course.diary.history := by
    rw [← kept.ledger.taken, List.mem_filter, item]
    exact ⟨taken, rfl⟩
  refine ⟨taken, ?_, ?_, ?_⟩
  · rcases whole.carried other taken with ordering | done
    · rw [takes.place] at ordering
      cases ordering
    · exact done
  · intro given item
    cases slot : other.item.slot with
    | none =>
      have finished := past item
      rw [kept.ledger.current, takes.activity] at finished
      have early := (List.mem_append.mp finished).resolve_right fun new => different (List.mem_singleton.mp new)
      obtain ⟨ending, asked, ended⟩ := kept.ended_of_finished item early
      exact ⟨ending, asked, ended, nofun⟩
    | some number =>
      have parcel : other.item = ⟨.deliver given, some number⟩ := by rw [← item, ← slot]
      have free : ∀ responder ∈ after.course.host.task.place.responders, responder.slot ≠ number := by
        rw [takes.place]
        rintro responder held rfl
        obtain ⟨number, current, rfl⟩ := List.mem_map.mp held
        have owner := books.admitted_of_taken first
        exact different (books.same_owner member owner slot (Option.mem_toList.mp current))
      obtain ⟨ending, asked, ended, answer⟩ := kept.answer_of_handled admission parcel (past item) free
      refine ⟨ending, asked, ended, ?_⟩
      rintro _ ⟨⟩
      exact answer
  · intro given number item list
    rw [course_moves]
    exact kept.spared_of_handled admission item (past (by rw [item])) list

/-- What is behind a task that has just taken a message, and what is ahead of it. The message was accepted
after `earlier` and before `later`. -/
structure Drains (watch : Watch σ π ρ υ) (entry : Envelope σ π) (message : Message π)
    (earlier later : List (Envelope σ π × Option Instant)) : Prop where
  known : watch.course.admissions.map (·.1.arrival) = List.range watch.course.host.task.exchange.queue.arrivals
  accepted : ∃ deadline, watch.course.admissions = earlier ++ (entry, deadline) :: later
  priority : entry.priority = message.priority
  dispatched : ∀ other deadline, (other, deadline) ∈ earlier → message.priority ≤ other.priority →
    watch.Dispatched other
  queued : ∀ other ∈ watch.course.host.task.exchange.queue.entries, other.priority < message.priority ∨
    (other.priority = message.priority ∧ ∃ deadline, (other, deadline) ∈ later)
  -- The ordinary request to exit leaves nothing behind.
  all : message = Message.quit → ∀ other deadline, (other, deadline) ∈ earlier → watch.Dispatched other
  last : message.kind.isQuit = true → ∀ list,
    Exchange.Session.taken (watch.moves list).course.diary.session.history =
      Exchange.Session.taken watch.course.diary.session.history

private theorem Whole.drains (whole : watch.Whole handler) {move : Host.Move σ π υ}
    (takes : Takes watch.course.host.task (watch.move move).course.host.task watch.course.diary
      (watch.move move).course.diary entry message) :
    ∃ earlier later, (watch.move move).Drains entry message earlier later := by
  have after := whole.move move
  have kept := after.kept
  have books := kept.reached.followed.books
  have first : entry ∈ Exchange.Session.taken (watch.move move).course.diary.session.history := by
    simp [takes.taken]
  have owner := books.admitted_of_taken first
  have priority : entry.priority = message.priority := by
    rw [after.urgent entry owner, takes.item]
    rfl
  obtain ⟨deadline, admission⟩ := admission_of_admitted owner
  obtain ⟨earlier, later, split⟩ := List.append_of_mem admission
  have admissions : (watch.move move).course.admissions = earlier ++ (entry, deadline) :: later := split
  -- The entries lie in the order of their acceptance, and so do their numbers.
  have ascending : ((watch.move move).course.admissions.map (·.1.arrival)).Pairwise (· < ·) :=
    kept.known ▸ List.pairwise_lt_range
  rw [List.pairwise_map, admissions] at ascending
  obtain ⟨_, _, across⟩ := List.pairwise_append.mp ascending
  have dispatched (other : Envelope σ π) (limit : Option Instant) (before : (other, limit) ∈ earlier)
      (urgent : message.priority ≤ other.priority) : (watch.move move).Dispatched other := by
    have sooner := across (other, limit) before (entry, deadline) List.mem_cons_self
    have member : (other, limit) ∈ (watch.move move).course.admissions := by
      rw [admissions]
      exact List.mem_append_left _ before
    exact after.dispatched takes member sooner (priority ▸ urgent)
  refine ⟨earlier, later, kept.known, ⟨deadline, admissions⟩, priority, dispatched, ?_, ?_, ?_⟩
  · intro other queued
    have numbered := whole.sound.keeps.numbered
    obtain ⟨found, popped⟩ := Queue.pop?_eq_some takes.popped
    obtain ⟨present, apart⟩ := List.mem_filter.mp (popped ▸ queued)
    have different : other ≠ entry := by
      rintro rfl
      simp at apart
    rcases numbered.front_precedes found present different with less | ⟨same, behind⟩
    · exact .inl (priority ▸ less)
    · refine .inr ⟨same.trans priority, ?_⟩
      obtain ⟨limit, member⟩ := admission_of_admitted (kept.reached.followed.admitted_of_queued queued)
      rw [admissions] at member
      rcases List.mem_append.mp member with before | rest
      · have sooner := across (other, limit) before (entry, deadline) List.mem_cons_self
        exact absurd behind (Nat.lt_asymm sooner)
      · rcases List.mem_cons.mp rest with itself | behind
        · cases itself
          exact absurd rfl different
        · exact ⟨limit, behind⟩
  · rintro rfl other limit before
    exact dispatched other limit before (Priority.low_le other.priority)
  · intro quits list
    rw [course_moves]
    refine kept.reached.followed.leaves ?_ list
    rw [takes.place]
    exact .handling _ _ (takes.quitting.trans quits)

/-- Whatever has been accepted before a message, and is as urgent, is dispatched before it, in every
interleaving. A quit therefore drains all that it does not overtake. -/
theorem every_quit_drains {kernel : Kernel} {thread : ThreadKey} {settings : Settings υ} {state : σ}
    {host : Host σ π ρ υ} (created : (Host.create kernel thread settings handler state).1 = .ok host)
    (list : List (Host.Move σ π υ)) (move : Host.Move σ π υ) (entry : Envelope σ π) (message : Message π)
    (pops : (((start host).moves list).move move).course.diary.history =
      ((start host).moves list).course.diary.history ++ [.began (.handling (some entry) message)]) :
    ∃ earlier later, (((start host).moves list).move move).Drains entry message earlier later := by
  have whole := (start_whole created).moves list
  have step := whole.kept.reached.followed.step move
  exact whole.drains (Step.takes step pops)

/-- A post, a caller's message and a new timer come before the request to exit. A post of the same priority
comes after it and stays, and an order that comes after it overtakes it. -/
theorem ordinary_quit_drains : ∃ host : Host Nat Nat Nat Unit,
    (Host.create Worker.kernel 7 (Worker.settings none) Worker.echoing 0).1 = .ok host ∧
    let quits := ((start host).moves ([.begin 7 false, .commit, .serve, .serve, .serve, .serve, .serve,
      .post ⟨.user 1, none, .low⟩, .call 7 ⟨.user 2, some 4, .normal⟩ none,
      .addTimer ⟨1, 0, by decide⟩ .once .dispatch, .post Message.quit, .post ⟨.user 3, none, .low⟩,
      .cancelTimer ⟨1⟩] ++ List.replicate 18 .serve)).move .serve
    (Exchange.Session.taken quits.course.diary.session.history).map (·.arrival) = [2, 5, 1, 0, 3] ∧
    quits.course.host.task.exchange.queue.entries.map (·.arrival) = [4] ∧
    ∃ entry earlier later, quits.Drains entry Message.quit earlier later := by
  have created : (Host.create Worker.kernel 7 (Worker.settings none) Worker.echoing 0).1 = .ok _ := rfl
  refine ⟨_, created, by decide +kernel, by decide +kernel, ?_⟩
  refine Exists.imp (fun entry pops => every_quit_drains created _ _ entry Message.quit pops) ?_
  exact Course.exists_taking (by decide +kernel)

end Watch

end Task

end TaskKernel
