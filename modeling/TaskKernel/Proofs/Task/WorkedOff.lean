import TaskKernel.Proofs.Task.WorkingOff

/-!
A task that has worked off the messages it found when it was started: which of them the handler has been called
for, what their senders hear, and what has become of the handler's state.
-/
namespace TaskKernel

variable {σ π ρ υ α : Type} {handler : Handler σ π ρ υ} {outlook : Outlook}

private theorem HandlerCall.Yields.quits {scene after : Scene σ υ} {call : HandlerCall σ π υ} {answer : call.Answer}
    (yields : call.Yields outlook scene answer after) (before : scene.quits = true) : after.quits = true := by
  cases yields with
  | quit => rfl
  | state | setState | record | identity | name | now | sleep | pause | waitSelf | cancelTimer | freshTimer
    | armedCount | isQuitting | tickPriority | pending | isClosed | userData | setUserData => exact before

private theorem HandlerCode.Performs.quits {code rest : HandlerCode σ π υ α} {scene after : Scene σ υ}
    (performs : code.Performs outlook scene rest after) (before : scene.quits = true) : after.quits = true := by
  induction performs with
  | refl => exact before
  | next _ yields ih => exact yields.quits ih

def Command.isQuit : Command σ π → Bool
  | .deliver message => message.kind.isQuit
  | .addTimer _ | .cancelTimer _ => false

/-- Whatever comes before it, the service ends with this message. -/
def Handler.EndsOn (handler : Handler σ π ρ υ) (outlook : Outlook) (message : Message π) : Prop :=
  ∀ (pending : Nat) (scene : Scene σ υ) (ending : Ending (Option ρ)) (after : Scene σ υ),
    (handler.handle message).Plays (outlook.serving pending) (scene.facing message) ending after → after.quits = true

private theorem endsOn_of_quit {message : Message π} (quit : message.kind.isQuit = true) :
    handler.EndsOn outlook message := by
  rintro pending scene ending after ⟨rest, performs, _⟩
  exact performs.quits quit

/-- What the calls of a handler make of its state, where nothing but the state and the message comes into it. -/
structure Handler.Makes (handler : Handler σ π ρ υ) (outlook : Outlook) (enter : σ → σ) (handle : σ → Message π → σ)
    (leave : σ → σ) : Prop where
  onStart : ∀ pending scene ending after, handler.onStart.Plays (outlook.serving pending) scene ending after →
    after.state = enter scene.state
  handle : ∀ (message : Message π) (pending : Nat) (scene : Scene σ υ) (ending : Ending (Option ρ)) (after : Scene σ υ),
    (handler.handle message).Plays (outlook.serving pending) (scene.facing message) ending after →
      after.state = handle scene.state message
  onExit : ∀ scene ending after, handler.exitCode.Plays outlook.leaving scene ending after →
    after.state = leave scene.state

namespace Task

variable {line left admitted : List (Envelope σ π)} {started scene last fresh : Scene σ υ}
  {done : List (Conclusion σ π ρ)} {enter leave : σ → σ} {handle : σ → Message π → σ}

private theorem Passed.folds (passed : Passed handler outlook line started done left scene)
    (makes : handler.Makes outlook enter handle leave) :
    scene.state = (done.map (·.message)).foldl handle started.state := by
  induction passed with
  | start => rfl
  | next _ handles _ ih =>
    simp only [List.map_append, List.map_singleton, List.foldl_append, List.foldl_cons, List.foldl_nil, ← ih]
    exact makes.handle _ _ _ _ _ handles.plays

private theorem Over.folds (whole : Over handler outlook fresh admitted done left last)
    (makes : handler.Makes outlook enter handle leave) :
    last.state = (done.map (·.message)).foldl handle (enter fresh.state) := by
  obtain ⟨ending, started, starts, ⟨passed, handles, _⟩⟩ := whole
  simp only [List.map_append, List.map_singleton, List.foldl_append, List.foldl_cons, List.foldl_nil,
    ← makes.onStart _ _ _ _ starts, ← passed.folds makes]
  exact makes.handle _ _ _ _ _ handles.plays

private theorem Passed.items (passed : Passed handler outlook line started done left scene) :
    ∀ conclusion ∈ done, conclusion.entry.item.item = .deliver conclusion.message := by
  induction passed with
  | start => exact List.forall_mem_nil _
  | next _ handles _ ih => exact List.forall_mem_append.mpr ⟨ih, List.forall_mem_singleton.mpr handles.item⟩

private theorem Over.items (whole : Over handler outlook fresh admitted done left last) :
    ∀ conclusion ∈ done, conclusion.entry.item.item = .deliver conclusion.message := by
  obtain ⟨_, _, _, ⟨passed, handles, _⟩⟩ := whole
  exact List.forall_mem_append.mpr ⟨passed.items, List.forall_mem_singleton.mpr handles.item⟩

private theorem Passed.unquit (passed : Passed handler outlook line started done left scene) :
    ∀ conclusion ∈ done, conclusion.quits = false := by
  induction passed with
  | start => exact List.forall_mem_nil _
  | next _ handles goesOn ih =>
    exact List.forall_mem_append.mpr ⟨ih, List.forall_mem_singleton.mpr (handles.ends.symm.trans goesOn)⟩

/-- The line is cut behind the first message to quit, or behind the first one on which the handler asks for it. -/
private theorem Over.cut (whole : Over handler outlook fresh admitted done left last) : ∃ earlier conclusion,
    done = earlier ++ [conclusion] ∧ (∀ before ∈ earlier, before.quits = false) ∧ conclusion.quits = true := by
  obtain ⟨_, _, _, ⟨passed, handles, quits⟩⟩ := whole
  exact ⟨_, _, rfl, passed.unquit, handles.ends.symm.trans quits⟩

private theorem Passed.goesOn (passed : Passed handler outlook line started done left scene) :
    ∀ conclusion ∈ done, ¬handler.EndsOn outlook conclusion.message := by
  induction passed with
  | start => exact List.forall_mem_nil _
  | next _ handles goesOn ih =>
    refine List.forall_mem_append.mpr ⟨ih, List.forall_mem_singleton.mpr fun ends => ?_⟩
    rw [ends _ _ _ _ handles.plays] at goesOn
    cases goesOn

/-- There is no way through the line but one that ends the service. -/
def Bounded (handler : Handler σ π ρ υ) (outlook : Outlook) (fresh : Scene σ υ) (admitted : List (Envelope σ π)) :
    Prop := ∀ done scene, ¬Underway handler outlook fresh admitted done [] scene

private theorem bounded_of_endsOn {entry : Envelope σ π} {message : Message π} (member : entry ∈ admitted)
    (item : entry.item.item = .deliver message) (ends : handler.EndsOn outlook message) :
    Bounded handler outlook fresh admitted := by
  rintro done scene ⟨_, started, _, passed⟩
  have split := passed.split
  rw [List.append_nil] at split
  rw [← (Queue.sorted_perm admitted).mem_iff, ← split] at member
  obtain ⟨conclusion, past, rfl⟩ := List.mem_map.mp member
  have same := passed.items conclusion past
  rw [item] at same
  cases same
  exact passed.goesOn conclusion past ends

private theorem bounded_of_quit (quits : admitted.any (·.item.item.isQuit) = true) :
    Bounded handler outlook fresh admitted := by
  obtain ⟨entry, member, quit⟩ := List.any_eq_true.mp quits
  cases item : entry.item.item with
  | deliver message =>
    rw [item] at quit
    exact bounded_of_endsOn member item (endsOn_of_quit quit)
  | addTimer | cancelTimer =>
    rw [item] at quit
    cases quit

variable {course : Course σ π ρ υ} {entry : Envelope σ π} {message : Message π} {deadline : Option Instant}
  {number : Nat} {response : Response ρ}

/-- What stands in the slot of a caller. The caller goes away with it when it looks next, unless it has gone away
before because its time was up. -/
structure Heard (course : Course σ π ρ υ) (deadline : Option Instant) (number : Nat) (response : Response ρ) :
    Prop where
  answer : course.host.task.exchange.answer? number = some response
  gone : ∀ found, course.host.task.exchange.outcome? number = some found →
    found = response ∨ found = .timedOut ∧ deadline.any (· ≤ course.host.kernel.now) = true
  looks : course.host.task.exchange.outcome? number = none →
    (course.host.move (.look number)).task.exchange.outcome? number = some response

private theorem Kept.heard (kept : Kept handler course) (admission : (entry, deadline) ∈ course.admissions)
    (item : entry.item = ⟨.deliver message, some number⟩)
    (answer : course.host.task.exchange.answer? number = some response) : Heard course deadline number response where
  answer := answer
  gone found away := by
    rcases kept.returned admission item away with same | late
    · rw [kept.reached.followed.mirrored.exchange, answer, Option.some_inj] at same
      exact .inl same.symm
    · exact .inr late
  looks waits := by
    have sound := kept.reached.followed.truthful.sound number
    rw [kept.reached.followed.mirrored.exchange] at sound
    exact Exchange.outcome?_look_of_answer sound answer waits

private theorem mem_conclusions {history : List (Event σ π ρ)} {conclusion : Conclusion σ π ρ} :
    conclusion ∈ conclusions history ↔ .ended (.handling (some conclusion.entry) conclusion.message) conclusion.ending
      conclusion.asked ∈ history := by
  rw [conclusions, List.mem_filterMap]
  constructor
  · rintro ⟨event, past, same⟩
    cases event with
    | began | closed => cases same
    | ended activity ending asked =>
      cases activity with
      | handling found given =>
        cases found <;> cases same
        exact past
      | starting | callingBack | exiting => cases same
  · exact fun past => ⟨_, past, rfl⟩

/-- The message that the handler is called for, and its envelope unless it is a tick. -/
@[simp] def Event.call? : Event σ π ρ → Option (Option (Envelope σ π) × Message π)
  | .began (.handling entry message) => some (entry, message)
  | .began .starting | .began (.callingBack _) | .began .exiting | .ended .. | .closed _ => none

/-- All calls of the handler for a message, in their order. -/
def calls (history : List (Event σ π ρ)) : List (Option (Envelope σ π) × Message π) := history.filterMap Event.call?

/-- What the handler is called for with an envelope. -/
def callOf? (entry : Envelope σ π) : Option (Option (Envelope σ π) × Message π) :=
  match entry.item.item with
  | .deliver message => some (some entry, message)
  | .addTimer _ | .cancelTimer _ => none

private theorem callOf?_of_item (item : entry.item.item = .deliver message) : callOf? entry = some
    (some entry, message) := by
  rw [callOf?, item]

theorem calls_eq {history : List (Event σ π ρ)} (fits : ∀ event ∈ history, event.Fits handler)
    (untimed : ∀ event ∈ history, event.isTimed = false) : calls history = (handled history).filterMap callOf? := by
  rw [calls, handled, List.filterMap_filterMap]
  refine List.filterMap_congr fun event member => ?_
  have fitting := fits event member
  have plain := untimed event member
  cases event with
  | ended | closed => rfl
  | began activity =>
    cases activity with
    | starting | callingBack | exiting => rfl
    | handling entry message =>
      cases entry with
      | none => cases plain
      | some entry => exact (callOf?_of_item (fitting entry rfl)).symm

/-- What has been posted to a task so far. -/
def Course.posted (course : Course σ π ρ υ) : List (Envelope σ π) :=
  Exchange.Session.admitted course.diary.session.history

/-- A task has worked off what was posted to it: it has handled `done` and dropped `left`, and `last` is what it had
come to when it closed its queue. -/
structure WorkedOff (handler : Handler σ π ρ υ) (outlook : Outlook) (fresh : Scene σ υ) (posted : List (Envelope σ π))
    (course : Course σ π ρ υ) (done : List (Conclusion σ π ρ)) (left : List (Envelope σ π)) (last : Scene σ υ) :
    Prop where
  posts : course.posted = posted
  messages : ∀ entry ∈ posted, ∃ message, Carries entry message
  handed : calls course.diary.history = done.map fun conclusion => (some conclusion.entry, conclusion.message)
  line : done.map (·.entry) ++ left = Queue.sorted posted
  cut : ∃ earlier conclusion, done = earlier ++ [conclusion] ∧ (∀ before ∈ earlier, before.quits = false) ∧
    conclusion.quits = true
  whole : Over handler outlook fresh posted done left last
  exits : ∃ ending, handler.exitCode.Plays outlook.leaving last ending course.host.task.scene
  answered : ∀ conclusion ∈ done, ∀ deadline number, (conclusion.entry, deadline) ∈ course.admissions →
    conclusion.entry.item.slot = some number → Heard course deadline number (responseOf conclusion.ending)
  abandoned : ∀ entry ∈ left, ∀ deadline number, (entry, deadline) ∈ course.admissions →
    entry.item.slot = some number → Heard course deadline number .abandoned
  joins : course.host.task.life.detached = false → ∀ thread,
    (course.host.join thread).1 = .outcome (.completed course.host.task.surface.state)
  folds : ∀ enter handle leave, handler.Makes outlook enter handle leave →
    course.host.task.surface.state = leave ((done.map (·.message)).foldl handle (enter fresh.state))

private theorem Backlog.line_distinct (backlog : Backlog handler outlook fresh admitted course)
    (whole : Over handler outlook fresh admitted done left last) :
    (done.map (·.entry) ++ left).Nodup := by
  obtain ⟨_, _, _, stopped⟩ := whole
  have distinct := backlog.kept.reached.followed.books.distinct
  rw [backlog.lined.books, List.Nodup, List.pairwise_map] at distinct
  rw [stopped.split, (Queue.sorted_perm admitted).nodup_iff]
  exact distinct.imp fun different same => different (congrArg _ same)

private theorem same_conclusion (distinct : (done.map (·.entry)).Nodup) {first second : Conclusion σ π ρ}
    (one : first ∈ done) (two : second ∈ done) (same : first.entry = second.entry) : first = second :=
  eq_of_alike (List.pairwise_map.mp distinct) Eq.symm one two same

/-- At the end of a task every caller has heard how the call for its message ended, or that it was dropped. -/
private theorem Kept.heard_cases (kept : Kept handler course) (ended : course.host.task.place = .ended)
    (admission : (entry, deadline) ∈ course.admissions) (item : entry.item = ⟨.deliver message, some number⟩) :
    ∃ response, Heard course deadline number response ∧
      ((∃ ending asked, .ended (.handling (some entry) message) ending asked ∈ course.diary.history ∧
        response = responseOf ending) ∨ (entry ∈ dropped course.diary.history ∧ response = .abandoned)) := by
  obtain ⟨response, answer⟩ := kept.told admission item ended
  have held := answer
  rw [← kept.reached.followed.mirrored.exchange] at held
  exact ⟨response, kept.heard admission item answer, kept.answer_cases admission item held⟩

private theorem Backlog.answered (backlog : Backlog handler outlook fresh admitted course)
    (ended : course.host.task.place = .ended)
    (distinct : ((conclusions course.diary.history).map (·.entry)).Nodup) {conclusion : Conclusion σ π ρ}
    (past : conclusion ∈ conclusions course.diary.history)
    (admission : (conclusion.entry, deadline) ∈ course.admissions)
    (item : conclusion.entry.item = ⟨.deliver message, some number⟩) :
    Heard course deadline number (responseOf conclusion.ending) := by
  have kept := backlog.kept
  have handled : conclusion.entry ∈ handled course.diary.history :=
    kept.handled_of_finished (finished_eq course.diary.history ▸ List.mem_map_of_mem past)
  obtain ⟨response, heard, ⟨ending, asked, concluded, rfl⟩ | ⟨drops, _⟩⟩ := kept.heard_cases ended admission item
  · have other : ⟨conclusion.entry, message, ending, asked⟩ ∈ conclusions course.diary.history :=
      mem_conclusions.mpr concluded
    have same : conclusion.ending = ending := congrArg _ (same_conclusion distinct past other rfl)
    rw [same]
    exact heard
  · have once := (kept.placed admission (by rw [item])).once
    have one := tally_pos handled
    have two := tally_pos drops
    omega

private theorem Backlog.abandoned (backlog : Backlog handler outlook fresh admitted course)
    (ended : course.host.task.place = .ended) (undone : entry ∉ finished course.diary.history)
    (admission : (entry, deadline) ∈ course.admissions) (item : entry.item = ⟨.deliver message, some number⟩) :
    Heard course deadline number .abandoned := by
  obtain ⟨response, heard, ⟨ending, asked, concluded, _⟩ | ⟨_, rfl⟩⟩ :=
    backlog.kept.heard_cases ended admission item
  · exact absurd (mem_finished concluded) undone
  · exact heard

private theorem Backlog.handed (backlog : Backlog handler outlook fresh admitted course)
    (ended : course.host.task.place = .ended)
    (whole : Over handler outlook fresh admitted (conclusions course.diary.history) left last) :
    calls course.diary.history =
      (conclusions course.diary.history).map fun conclusion => (some conclusion.entry, conclusion.message) := by
  have kept := backlog.kept
  have handled : handled course.diary.history = (conclusions course.diary.history).map (·.entry) := by
    rw [kept.ledger.current, kept.reached.engaged.past (by rw [ended]; rfl), finished_eq]
    exact List.append_nil _
  rw [calls_eq kept.ledger.fits backlog.untimed, handled, List.filterMap_map, ← List.filterMap_eq_map]
  exact List.filterMap_congr fun conclusion past => callOf?_of_item (whole.items conclusion past)

private theorem Backlog.worked_off (backlog : Backlog handler outlook fresh admitted course)
    (ended : course.host.task.place = .ended) : ∃ left last,
      WorkedOff handler outlook fresh admitted course (conclusions course.diary.history) left last := by
  have kept := backlog.kept
  have standing := backlog.lined.standing
  rw [ended] at standing
  obtain ⟨left, last, ending, whole, exits⟩ := standing
  obtain ⟨distinct, _, apart⟩ := List.nodup_append.mp (backlog.line_distinct whole)
  have item {entry : Envelope σ π} {deadline : Option Instant} {number : Nat}
      (admission : (entry, deadline) ∈ course.admissions) (slot : entry.item.slot = some number) :
      ∃ message, entry.item = ⟨.deliver message, some number⟩ := by
    obtain ⟨message, carries⟩ :=
      backlog.lined.messages entry (backlog.lined.books ▸ admitted_of_admission admission)
    exact ⟨message, by rw [← carries.item, ← slot]⟩
  exact ⟨left, last, {
    posts := backlog.lined.books
    messages := backlog.lined.messages
    handed := backlog.handed ended whole
    line := by
      obtain ⟨_, _, _, stopped⟩ := whole
      exact stopped.split
    cut := whole.cut
    whole := whole
    exits := ⟨ending, exits⟩
    answered := by
      intro conclusion past deadline number admission slot
      obtain ⟨message, item⟩ := item admission slot
      exact backlog.answered ended distinct past admission item
    abandoned := by
      intro entry member deadline number admission slot
      obtain ⟨message, item⟩ := item admission slot
      refine backlog.abandoned ended ?_ admission item
      rw [finished_eq]
      exact fun past => apart entry past entry member rfl
    joins := kept.reached.joins ended
    folds := fun enter handle leave makes => by
      rw [← whole.folds makes]
      exact makes.onExit _ _ _ exits }⟩

private theorem ofBody_quits {body : Body σ α} {rest : HandlerCode σ π υ α} {scene after : Scene σ υ}
    (performs : (HandlerCode.ofBody body).Performs outlook scene rest after) : after.quits = scene.quits := by
  have performed : after.quits = scene.quits ∧ (HandlerCode.ofBody body : HandlerCode σ π υ α).Leads rest := by
    induction performs with
    | refl => exact ⟨rfl, .refl⟩
    | next performs yields ih =>
      refine ⟨?_, performs.leads.next _⟩
      have plain := HandlerCode.plain_of_ofBody_leads performs.leads
      rw [← ih.1]
      cases yields with
      | quit => cases plain
      | state | setState | record | identity | name | now | sleep | pause | waitSelf | cancelTimer | freshTimer
        | armedCount | isQuitting | tickPriority | pending | isClosed | userData | setUserData => rfl
  exact performed.1

private theorem calm_of_bodies (start : Body σ Unit) (given : Message π → Body σ (Option ρ))
    (starts : handler.onStart = HandlerCode.ofBody start)
    (handles : ∀ message, handler.handle message = HandlerCode.ofBody (given message))
    (begins : fresh.quits = false) : Calm handler outlook fresh where
  onStart := starts ▸ HandlerCode.ofBody_silent start
  handle message := handles message ▸ HandlerCode.ofBody_silent (given message)
  goesOn := by
    rintro pending ending started ⟨rest, performs, _⟩
    rw [starts] at performs
    exact (ofBody_quits performs).trans begins

variable {kernel : Kernel} {thread : ThreadKey} {settings : Settings υ} {state : σ} {host : Host σ π ρ υ}

/-- A task has got through what was posted to it, and the service has ended with none of the messages. -/
structure Through (handler : Handler σ π ρ υ) (outlook : Outlook) (fresh : Scene σ υ) (posted : List (Envelope σ π))
    (course : Course σ π ρ υ) : Prop where
  underway : Underway handler outlook fresh posted (conclusions course.diary.history) [] course.host.task.scene
  line : (conclusions course.diary.history).map (·.entry) = Queue.sorted posted
  unquit : ∀ conclusion ∈ conclusions course.diary.history, conclusion.quits = false

private theorem Underway.through {posted : List (Envelope σ π)}
    (underway : Underway handler outlook fresh posted (conclusions course.diary.history) [] course.host.task.scene) :
    Through handler outlook fresh posted course := by
  obtain ⟨_, _, _, passed⟩ := id underway
  exact ⟨underway, (List.append_nil _).symm.trans passed.split, passed.unquit⟩

/-- A task works off what has been posted to it. -/
structure WorksOff (handler : Handler σ π ρ υ) (outlook : Outlook) (fresh : Scene σ υ) (course : Course σ π ρ υ) :
    Prop where
  off : course.host.task.place = .ended →
    ∃ done left last, WorkedOff handler outlook fresh course.posted course done left last
  -- Once the thread has been started it comes to that, as long as nothing more is posted and nothing holds
  -- the thread up for ever, unless it gets through all of that without an end of the service.
  comes : course.host.task.place.isBegun = true → ∀ schedule : Nat → Host.Move σ π υ,
    (∀ number, (schedule number).sends = false) → course.Fair schedule →
      (∃ number, (course.follow schedule number).host.task.place = .ended ∧ ∃ done left last,
        WorkedOff handler outlook fresh course.posted (course.follow schedule number) done left last) ∨
      ∃ number, Through handler outlook fresh course.posted (course.follow schedule number)
  ends : course.host.task.place.isBegun = true → ∀ schedule : Nat → Host.Move σ π υ,
    (∀ number, (schedule number).sends = false) → course.Fair schedule →
      Bounded handler outlook fresh course.posted →
      ∃ number, (course.follow schedule number).host.task.place = .ended ∧ ∃ done left last,
        WorkedOff handler outlook fresh course.posted (course.follow schedule number) done left last

private theorem Backlog.comes (backlog : Backlog handler outlook fresh admitted course)
    (calm : Calm handler outlook fresh)
    (lone : Lone course.diary.session) (begun : course.host.task.place.isBegun = true)
    {schedule : Nat → Host.Move σ π υ} (silent : ∀ number, (schedule number).sends = false)
    (fair : course.Fair schedule) :
    (∃ number, (course.follow schedule number).host.task.place = .ended ∧ ∃ done left last,
      WorkedOff handler outlook fresh admitted (course.follow schedule number) done left last) ∨
    ∃ number, Through handler outlook fresh admitted (course.follow schedule number) := by
  by_cases busy : course.Busy schedule
  · have attended := backlog.attended calm lone busy begun silent fair
    have working : Working handler outlook fresh admitted course schedule := ⟨backlog, calm, busy, silent, attended⟩
    obtain ⟨number, _, ended⟩ : course.Ends schedule 0 := working.ends begun
    exact .inl ⟨number, ended, _, (working.at number).worked_off ended⟩
  · obtain ⟨number, waits⟩ := Classical.not_forall.mp busy
    obtain ⟨receiving, found⟩ := Classical.not_imp.mp waits
    have stands := backlog.follow calm silent number
    exact .inr ⟨number, (stands.through receiving (Classical.not_not.mp found)).through⟩

private theorem Backlog.works_off (backlog : Backlog handler outlook fresh admitted course)
    (calm : Calm handler outlook fresh)
    (lone : Lone course.diary.session) : WorksOff handler outlook fresh course := by
  have posted : course.posted = admitted := backlog.lined.books
  refine ⟨fun ended => ?_, fun begun schedule silent fair => ?_, fun begun schedule silent fair bounded => ?_⟩
  · rw [posted]
    exact ⟨_, backlog.worked_off ended⟩
  · rw [posted]
    exact backlog.comes calm lone begun silent fair
  · rw [posted] at bounded ⊢
    rcases backlog.comes calm lone begun silent fair with ends | ⟨number, through⟩
    · exact ends
    · exact absurd through.underway (bounded _ _)

/-- Every task without timers works off what is posted to it before it is started, in every interleaving with
others that do not post any more. -/
theorem every_backlog_worked_off
    (created : (Host.create kernel thread settings handler state).1 = .ok host) (untimed : settings.periodic = none)
    (calm : Calm handler host.task.outlook host.task.scene) {list : List (Host.Move σ π υ)} (early : host.Early list) :
    WorksOff handler host.task.outlook host.task.scene ((Course.start host).moves list) := by
  obtain ⟨posted, backlog⟩ := (start_backlog created untimed).moves calm early
  have lone : Lone (Course.start host).diary.session := List.forall_mem_nil _
  exact backlog.works_off calm (lone.moves list)

private theorem Course.blocked_stays (course : Course σ π ρ υ) {number later : Nat} {schedule : Nat → Host.Move σ π υ}
    (serves : ∀ number, schedule number = .serve) (order : number ≤ later)
    (blocked : (course.follow schedule number).host.step? = none) :
    course.follow schedule later = course.follow schedule number := by
  induction order with
  | refl => rfl
  | step _ ih =>
    rw [Course.follow, serves, ih]
    rcases (course.follow schedule number).serve_cases with ⟨_, same⟩ | ⟨progress, steps, _⟩
    · exact same
    · rw [Host.step?, steps] at blocked
      cases blocked

private theorem Course.fair_of_steps {count : Nat} {schedule : Nat → Host.Move σ π υ}
    (serves : ∀ number, schedule number = .serve)
    (steps : ∀ number < count, (course.follow schedule number).host.step?.isSome = true)
    (blocked : (course.follow schedule count).host.step?.isSome = false)
    (unheld : (course.follow schedule count).host.task.place.isHeld = false) : course.Fair schedule where
  turns number := ⟨number, Nat.le_refl number, serves number⟩
  released number held := by
    by_cases before : number < count
    · obtain ⟨after, steps⟩ := Option.isSome_iff_exists.mp (steps number before)
      obtain ⟨progress, goes, _⟩ := Option.map_eq_some_iff.mp steps
      exact ⟨number, Nat.le_refl number, serves number, progress, goes⟩
    · have none : (course.follow schedule count).host.step? = none := by simpa using blocked
      rw [course.blocked_stays serves (Nat.le_of_not_lt before) none, unheld] at held
      cases held

/-- What a note-taker does with a number: it notes it down, and fails on zero. -/
def noting : Option Nat → Body (List Nat) (Option Nat)
  | none => .done none
  | some number => .ask .state fun (noted : List Nat) => .ask (.setState (noted ++ [number])) fun _ =>
    if number = 0 then .ask (.panic .other) nofun else .done (some number)

def noteTaker : Handler (List Nat) Nat Nat Unit where
  onStart := .done ()
  handle message := HandlerCode.ofBody (noting message.payload)
  onExit := .done ()

private theorem noteTaker_makes : noteTaker.Makes outlook id
    (fun noted message => noted ++ message.payload.toList) id where
  onStart pending scene ending after plays := by
    obtain ⟨_, rfl⟩ := HandlerCode.Plays.of_done plays
    rfl
  onExit scene ending after plays := by
    obtain ⟨_, rfl⟩ := HandlerCode.Plays.of_done plays
    rfl
  handle message pending scene ending after plays := by
    obtain ⟨kind, payload, priority⟩ := message
    cases payload with
    | none =>
      obtain ⟨_, rfl⟩ := HandlerCode.Plays.of_done plays
      exact (List.append_nil _).symm
    | some number =>
      obtain ⟨_, read, reads, plays⟩ := HandlerCode.Plays.of_ask plays nofun
      cases reads
      obtain ⟨_, written, writes, plays⟩ := HandlerCode.Plays.of_ask plays nofun
      cases writes
      by_cases zero : number = 0
      · simp only [if_pos zero] at plays
        obtain ⟨_, rfl⟩ := HandlerCode.Plays.of_panic plays
        rfl
      · simp only [if_neg zero] at plays
        obtain ⟨_, rfl⟩ := HandlerCode.Plays.of_done plays
        rfl

/-- Four messages are posted and then the task is started. -/
def fourPosted : List (Host.Move (List Nat) Nat Unit) :=
  [.post (Message.user 1 (some 5)), .post (Message.quit.withPriority .normal), .call 9 (Message.user 2 (some 7)) none,
    .call 9 ((Message.user 3 (some 0)).withPriority .high) none, .begin 7 false, .commit]

/-- The most urgent message comes first although the handler fails on it, and the one behind the request to quit is
dropped. -/
theorem note_taker_works_off : ∃ host : Host (List Nat) Nat Nat Unit,
    (Host.create Worker.kernel 7 (Worker.settings none) noteTaker []).1 = .ok host ∧
    WorksOff noteTaker host.task.outlook host.task.scene ((Course.start host).moves fourPosted) ∧
    noteTaker.Makes host.task.outlook id (fun noted message => noted ++ message.payload.toList) id ∧
    (∃ number, (((Course.start host).moves fourPosted).follow (fun _ => .serve) number).host.task.place = .ended ∧
      ∃ done left last, WorkedOff noteTaker host.task.outlook host.task.scene
        ((Course.start host).moves fourPosted).posted
        (((Course.start host).moves fourPosted).follow (fun _ => .serve) number) done left last) ∧
    (handled (((Course.start host).moves fourPosted).follow (fun _ => .serve) 29).diary.history).map (·.arrival) =
      [3, 0, 1] ∧
    (((Course.start host).moves fourPosted).follow (fun _ => .serve) 29).host.task.surface.state = [0, 5] := by
  have made : ∃ host : Host (List Nat) Nat Nat Unit,
      (Host.create Worker.kernel 7 (Worker.settings none) noteTaker []).1 = .ok host := ⟨_, rfl⟩
  obtain ⟨host, created⟩ := made
  have calm : Calm noteTaker host.task.outlook host.task.scene := by
    cases created
    exact calm_of_bodies (.done ()) _ rfl (fun _ => rfl) rfl
  have early : host.Early fourPosted := by
    cases created
    exact ⟨⟨rfl, fun _ => rfl⟩, ⟨rfl, fun _ => rfl⟩, ⟨rfl, fun _ => rfl⟩, ⟨rfl, fun _ => rfl⟩, ⟨rfl, nofun⟩,
      ⟨rfl, nofun⟩, trivial⟩
  have works := every_backlog_worked_off created rfl calm early
  refine ⟨host, created, works, noteTaker_makes, works.ends ?_ _ (fun _ => rfl) ?_ ?_, ?_, ?_⟩ <;> cases created
  case refine_1 => decide +kernel
  case refine_2 =>
    exact Course.fair_of_steps (fun _ => rfl) (show ∀ number < 29, _ by decide +kernel) (by decide +kernel)
      (by decide +kernel)
  case refine_3 => exact bounded_of_quit (by decide +kernel)
  case refine_4 => decide +kernel
  case refine_5 => decide +kernel

end Task

end TaskKernel
