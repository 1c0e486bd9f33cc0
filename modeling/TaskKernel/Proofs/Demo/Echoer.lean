import TaskKernel.Proofs.Demo.Errands
import TaskKernel.Proofs.Sync.Solo
import TaskKernel.Proofs.Task.Exit
import TaskKernel.Proofs.Task.Party
import TaskKernel.Proofs.Timer.Order

/-!
The echoing task from its start to its end. A phase says, for each place of the serving thread, what it has counted
and how far the next wait is. What has been counted and what is queued make up all that the task has been sent.
-/
namespace TaskKernel.Demo.Echo

abbrev Echoer : Type := Task Counts String String Unit

/-- What an entry of the queue weighs: more than the steps it takes to serve it. -/
def turn : Nat := 8

/-- What is known at each place: what the counts come to when the thread is done there, the reply it is busy with,
and the rank of the place. -/
def Phase (task : Echoer) (notice : Notice) (counts : Counts) (reply : Option String) (rank : Nat) : Prop :=
  let Serving := notice ≠ .taken ∧ counts = task.surface.state
  let Leaving := notice = .taken ∧ counts = task.surface.state
  match task.place with
  | .idle => Serving ∧ rank = 21
  | .entering => Serving ∧ rank = 20
  | .arming => Serving ∧ rank = 19
  | .starting rest => notice ≠ .taken ∧ ∃ calls, calls ≤ 2 ∧ rank = 16 + calls ∧
      rest.Settles (fun _ after quitting => after = counts ∧ quitting = false) calls task.surface.state task.quitting
  | .handling _ rest => ∃ calls, calls ≤ 3 ∧ rank = 16 + calls ∧
      rest.Settles (fun answer after quitting => answer = reply ∧ after = counts ∧ (quitting = true ↔ notice = .taken))
        calls task.surface.state task.quitting
  | .answering _ response => response = .handled reply ∧ counts = task.surface.state ∧
      (task.quitting = true ↔ notice = .taken) ∧ rank = 15
  | .sweeping => Serving ∧ rank = 14
  | .draining _ => Serving ∧ rank = 13
  | .receiving => Serving ∧ rank = 12
  | .closing => Leaving ∧ rank = 11
  | .abandoning slots _ => slots = [] ∧ Leaving ∧ rank = 10
  | .exiting rest => notice = .taken ∧ ∃ calls, calls ≤ 2 ∧ rank = 7 + calls ∧
      rest.Settles (fun _ after _ => after = counts) calls task.surface.state task.quitting
  | .disposing => Leaving ∧ rank = 6
  | .leaving => Leaving ∧ rank = 5
  | .reporting => Leaving ∧ rank = 4
  | .ended => Leaving ∧ rank = 3
  | .lost | .ticking .. | .callingBack .. | .rearming .. | .ordering .. => False

/-- The slot whose request the thread is busy with. -/
def slotAt : Task.Place Counts String String Unit → Option Nat
  | .handling slot _ | .answering slot _ => slot
  | _ => none

/-- The request of a slot is still to be answered. -/
def Pending (task : Echoer) (slot : Nat) : Prop :=
  slotAt task.place = some slot ∨ ∃ entry ∈ task.exchange.queue.entries, entry.item.slot = some slot

/-- The consumer waits only for entries, without a deadline. -/
inductive Waits (entries : List (Queue.Entry Order)) : Option Sync.Wait → Prop
  | absent : Waits entries none
  | parked (deadline : Option Instant) (empty : entries = []) : Waits entries (some (deadline, .parked))
  | woken (deadline : Option Instant) : Waits entries (some (deadline, .woken))

private theorem Waits.woke {entries later : List (Queue.Entry Order)} {wait : Option Sync.Wait}
    (waits : Waits entries wait) : Waits later (wait.map Sync.Wait.woke) := by
  cases waits with
  | absent => exact .absent
  | parked deadline | woken deadline => exact .woken deadline

/-- What is known of the task all along. -/
structure Serves (task : Echoer) (notice : Notice) (sent : Counts) (reply : Option String) (rank : Nat) : Prop where
  handler : task.handler = handler
  untimed : task.initial = none ∧ task.timers.armed = []
  closed : task.exchange.queue.closed = task.place.isPast
  numbered : task.exchange.queue.Numbered
  fits : notice.Fits task.exchange.queue.entries
  issued : ∀ slot, Pending task slot → slot < task.exchange.slots.size
  waiting : ∃ wait, task.exchange.waiting = Sync.WaitSet.solo Task.consumer wait ∧
    (wait ≠ none → task.place = .receiving) ∧ Waits task.exchange.queue.entries wait
  stands : ∃ counts own, Phase task notice counts reply own ∧ served counts task.exchange.queue.entries = sent ∧
    rank = turn * task.exchange.queue.entries.length + own

/-- What a slot holds that a text comes back to. Nobody sleeps on an answer. -/
structure Tells (text : String) (cell : Slot String) : Prop where
  answer : ∀ response, cell.answer = some response → response = .handled (some text)
  gone : ∀ response, cell.caller = .gone response → response = .handled (some text) ∨ response = .timedOut
  asleep : cell.caller = .parked → cell.answer = none

/-- A text comes back to whoever waits at a slot. -/
structure Destined (task : Echoer) (reply : Option String) (slot : Nat) (text : String) : Prop where
  queued : ∀ entry ∈ task.exchange.queue.entries, entry.item.slot = some slot →
    entry.item = (Errand.request text slot).order
  held : slotAt task.place = some slot → reply = some text
  cell : ∃ cell, task.exchange.slots[slot]? = some cell ∧ Tells text cell ∧ (cell.answer = none → Pending task slot)

variable {task : Echoer} {notice : Notice} {sent counts : Counts} {reply : Option String} {rank own lower given : Nat}
  {now : Instant} {progress : Task.Progress Counts String String Unit}

/-- The thread goes on waiting for an entry. -/
structure Rests (task after : Echoer) : Prop where
  before : task.place = .receiving
  stays : after.place = .receiving
  empty : task.exchange.queue.entries = []
  queue : after.exchange.queue = task.exchange.queue

/-- Where a step leads. -/
structure Onward (task : Echoer) (given : Nat) (notice : Notice) (sent : Counts) (reply : Option String) (rank : Nat)
    (progress : Task.Progress Counts String String Unit) : Prop where
  given : progress.given = given
  life : progress.task.life = task.life ∨
    task.place = .leaving ∧ task.life.terminate? = some progress.task.life
  outcomes : ∀ slot, progress.task.exchange.outcome? slot = task.exchange.outcome? slot
  leads : ∃ later next lower, Serves progress.task later sent next lower ∧
    (later = .none ↔ notice = .none) ∧
    (∀ slot text, Destined task reply slot text → Destined progress.task next slot text) ∧
    (lower < rank ∨ lower = rank ∧ Rests task progress.task)

private theorem Serves.away (serves : Serves task notice sent reply rank) (away : task.place ≠ .receiving) :
    task.exchange.waiting = Sync.WaitSet.solo Task.consumer none := by
  obtain ⟨wait, waiting, only, _⟩ := serves.waiting
  cases wait with
  | none => exact waiting
  | some wait => exact absurd (only nofun) away

private theorem Serves.onward (serves : Serves task notice sent reply rank)
    {here there : Task.Place Counts String String Unit} (place : task.place = here) (away : here ≠ .receiving)
    (past : there.isPast = here.isPast) (slot : slotAt there = slotAt here)
    (tally : served counts task.exchange.queue.entries = sent)
    (ranked : rank = turn * task.exchange.queue.entries.length + own) {life : Lifecycle} {surface : Surface Counts}
    {initial : Option (Timer Counts)} {quitting : Bool} {disposals : Nat} {effects : List Effect}
    (phase : Phase { task with life, surface, initial, quitting, place := there, disposals } notice counts reply lower)
    (less : lower < own) (untimed : initial = none)
    (lives : life = task.life ∨ task.place = .leaving ∧ task.life.terminate? = some life) :
    Onward task given notice sent reply rank
      ⟨{ task with life, surface, initial, quitting, place := there, disposals }, given, effects⟩ where
  given := rfl
  life := lives
  outcomes _ := rfl
  leads := by
    have held : slotAt there = slotAt task.place := by rw [slot, place]
    refine ⟨notice, reply, turn * task.exchange.queue.entries.length + lower, ⟨serves.handler,
      ⟨untimed, serves.untimed.2⟩, by rw [serves.closed, place, past], serves.numbered, serves.fits,
      fun number pending => serves.issued number (pending.imp_left fun busy => held ▸ busy),
      ⟨none, serves.away (place ▸ away), fun some => absurd rfl some, .absent⟩, counts, lower, phase, tally, rfl⟩,
      Iff.rfl, fun number text destined => ?_, .inl (by omega)⟩
    obtain ⟨cell, found, tells, due⟩ := destined.cell
    exact ⟨destined.queued, fun busy => destined.held (held ▸ busy), cell, found, tells,
      fun unanswered => (due unanswered).imp_left fun busy => held ▸ busy⟩

private theorem Serves.step_starting (serves : Serves task notice sent reply rank)
    {rest : HandlerCode Counts String Unit Unit} (place : task.place = .starting rest)
    (stepped : task.step? now given = some progress) : Onward task given notice sent reply rank progress := by
  obtain ⟨counts, own, phase, tally, ranked⟩ := serves.stands
  simp only [Phase, place] at phase
  obtain ⟨early, calls, few, exact, settles⟩ := phase
  obtain ⟨⟨after, _, effects⟩, steps, rfl, nears⟩ :=
    (Task.InCode.starting rest place).nears now given settles
  cases steps.symm.trans stepped
  cases nears with
  | goesOn rest state quitting fewer less settles =>
    exact serves.onward place (by simp) (by rfl) (by rfl) tally ranked
      ⟨early, fewer, by omega, rfl, settles⟩ (by omega) serves.untimed.1 (.inl rfl)
  | finishes value ended =>
    obtain ⟨same, working⟩ := ended
    simp only [Task.afterCall, working, Bool.false_eq_true, if_false]
    exact serves.onward place (by simp) (by rfl) (by rfl) tally ranked
      ⟨⟨early, same.symm⟩, rfl⟩ (by omega) serves.untimed.1 (.inl rfl)

private theorem Serves.step_handling (serves : Serves task notice sent reply rank) {slot : Option Nat}
    {rest : HandlerCode Counts String Unit (Option String)} (place : task.place = .handling slot rest)
    (stepped : task.step? now given = some progress) : Onward task given notice sent reply rank progress := by
  obtain ⟨counts, own, phase, tally, ranked⟩ := serves.stands
  simp only [Phase, place] at phase
  obtain ⟨calls, few, exact, settles⟩ := phase
  obtain ⟨⟨after, _, effects⟩, steps, rfl, nears⟩ :=
    (Task.InCode.handling slot rest place).nears now given settles
  cases steps.symm.trans stepped
  cases nears with
  | goesOn rest state quitting fewer less settles =>
    exact serves.onward place (by simp) (by rfl) (by rfl) tally ranked
      ⟨fewer, by omega, rfl, settles⟩ (by omega) serves.untimed.1 (.inl rfl)
  | finishes value ended =>
    obtain ⟨rfl, same, leaving⟩ := ended
    exact serves.onward place (by simp) (by rfl) (by rfl) tally ranked
      ⟨rfl, same.symm, leaving, rfl⟩ (by omega) serves.untimed.1 (.inl rfl)

private theorem Destined.fill {slot : Option Nat} {response : Response String} {number : Nat} {text : String}
    (destined : Destined task reply number text) (place : task.place = .answering slot response)
    (answered : response = .handled reply) {there : Task.Place Counts String String Unit} (idle : slotAt there = none) :
    Destined { task with exchange := task.exchange.answer slot response, place := there } reply number text := by
  obtain ⟨cell, found, tells, due⟩ := destined.cell
  have busy : slotAt task.place = slot := by rw [place]; rfl
  have queue : (task.exchange.answer slot response).queue = task.exchange.queue := by cases slot <;> rfl
  refine ⟨fun entry member => destined.queued entry (queue ▸ member), by simp [idle], ?_⟩
  by_cases here : slot = some number
  · subst here
    obtain rfl := destined.held busy
    refine ⟨_, by simp only [Exchange.answer, Exchange.fill, Array.getElem?_modify, if_pos, found, Option.map_some]; rfl,
      ⟨?_, ?_, ?_⟩, fun unanswered => by cases unanswered⟩
    · intro filled same
      obtain rfl := Option.some.inj same
      cases answer : cell.answer with
      | none => exact answered
      | some other => exact tells.answer other answer
    · intro response left
      refine tells.gone response ?_
      cases caller : cell.caller <;> simp_all
    · intro asleep
      cases caller : cell.caller <;> simp_all
  · refine ⟨cell, ?_, tells, fun unanswered => .inr ?_⟩
    · cases slot with
      | none => exact found
      | some other =>
        have apart : other ≠ number := fun same => here (by rw [same])
        simpa only [Exchange.answer, Exchange.fill, Array.getElem?_modify, if_neg apart] using found
    · rw [queue]
      exact (due unanswered).resolve_left fun held => here (busy ▸ held)

private theorem Serves.step_answered (serves : Serves task notice sent reply rank) {slot : Option Nat}
    {response : Response String} (place : task.place = .answering slot response) :
    Onward task given notice sent reply rank
      ⟨{ task with exchange := task.exchange.answer slot response, place := task.afterCall }, given, []⟩ := by
  obtain ⟨counts, own, phase, tally, ranked⟩ := serves.stands
  simp only [Phase, place] at phase
  obtain ⟨answered, same, leaving, exact⟩ := phase
  have kept : (task.exchange.answer slot response).queue = task.exchange.queue ∧
      (task.exchange.answer slot response).waiting = task.exchange.waiting ∧
      (task.exchange.answer slot response).slots.size = task.exchange.slots.size ∧
      ∀ number, (task.exchange.answer slot response).outcome? number = task.exchange.outcome? number := by
    cases slot with
    | none => exact ⟨rfl, rfl, rfl, fun _ => rfl⟩
    | some slot => exact ⟨rfl, rfl, Array.size_modify, fun _ => Exchange.outcome?_fill⟩
  have next : slotAt task.afterCall = none ∧ task.afterCall.isPast = false ∧ ∃ lower < own, Phase
      { task with exchange := task.exchange.answer slot response, place := task.afterCall } notice counts reply lower := by
    rw [Task.afterCall]
    cases quitting : task.quitting with
    | true => exact ⟨rfl, rfl, 11, by omega, ⟨leaving.mp quitting, same⟩, rfl⟩
    | false => exact ⟨rfl, rfl, 14, by omega, ⟨fun taken => by simp [leaving.mpr taken] at quitting, same⟩, rfl⟩
  obtain ⟨idle, present, lower, less, phase⟩ := next
  refine ⟨rfl, .inl rfl, fun _ => kept.2.2.2 _, notice, reply, turn * task.exchange.queue.entries.length + lower,
    ⟨serves.handler, serves.untimed, ?_, kept.1 ▸ serves.numbered, kept.1 ▸ serves.fits, ?_, ?_, counts, lower, phase, ?_,
      ?_⟩, Iff.rfl, fun number text destined => destined.fill place answered idle, .inl (by omega)⟩
  · rw [kept.1, serves.closed, place, present]
    rfl
  · rintro number (busy | ⟨entry, member, waits⟩)
    · rw [idle] at busy
      cases busy
    · rw [kept.2.2.1]
      exact serves.issued number (.inr ⟨entry, kept.1 ▸ member, waits⟩)
  · exact ⟨none, kept.2.1.trans (serves.away (by simp [place])), fun some => absurd rfl some, .absent⟩
  · rw [kept.1, tally]
  · rw [kept.1]

private theorem pending_take (numbered : task.exchange.queue.Numbered) (idle : slotAt task.place = none)
    {entry : Queue.Entry Order} {queue : Queue Order} (popped : task.exchange.queue.pop? = some (entry, queue))
    {errand : Errand} (item : entry.item = errand.order) {waiting : Sync.WaitSet} {quitting : Bool}
    {rest : HandlerCode Counts String Unit (Option String)} (number : Nat) :
    Pending { task with
      exchange := { task.exchange with queue, waiting }
      quitting
      place := .handling errand.slot rest } number ↔ Pending task number := by
  obtain ⟨earlier, later, entries, rfl, _, _⟩ := numbered.pop_divided popped
  have slot : entry.item.slot = errand.slot := by rw [item]; rfl
  show (errand.slot = some number ∨ ∃ other ∈ earlier ++ later, other.item.slot = some number) ↔ _
  simp only [Pending, idle, entries, List.mem_append, List.mem_cons, or_and_right, exists_or, exists_eq_left, slot,
    reduceCtorEq, false_or]
  exact or_left_comm

private theorem Destined.take {number : Nat} {text : String} (destined : Destined task reply number text)
    (numbered : task.exchange.queue.Numbered) (idle : slotAt task.place = none)
    {entry : Queue.Entry Order} {queue : Queue Order} (popped : task.exchange.queue.pop? = some (entry, queue))
    {errand : Errand} (item : entry.item = errand.order) {waiting : Sync.WaitSet} {quitting : Bool}
    {rest : HandlerCode Counts String Unit (Option String)} :
    Destined { task with
      exchange := { task.exchange with queue, waiting }
      quitting
      place := .handling errand.slot rest } errand.reply number text := by
  obtain ⟨cell, found, tells, due⟩ := destined.cell
  refine ⟨fun other left => destined.queued other (Queue.pop?_subset popped left), fun busy => ?_, cell, found, tells,
    fun unanswered => (pending_take numbered idle popped item number).mpr (due unanswered)⟩
  have own := destined.queued entry (Queue.front?_mem (Queue.pop?_eq_some popped).1) (by rw [item]; exact busy)
  rw [Errand.order_injective (item.symm.trans own)]
  rfl

private theorem Serves.step_took (serves : Serves task notice sent reply rank) (place : task.place = .receiving)
    {entry : Queue.Entry Order} {queue : Queue Order} (popped : task.exchange.queue.pop? = some (entry, queue)) :
    Onward task given notice sent reply rank
      ⟨Task.take { task with exchange :=
        { task.exchange with queue, waiting := task.exchange.waiting.leave Task.consumer } } entry.item, given, []⟩ := by
  obtain ⟨counts, own, phase, tally, ranked⟩ := serves.stands
  simp only [Phase, place] at phase
  obtain ⟨⟨early, rfl⟩, rfl⟩ := phase
  obtain ⟨wait, waiting, _, _⟩ := serves.waiting
  obtain ⟨errand, item, fits⟩ := serves.fits.pop serves.numbered popped
  have fewer := Queue.size_pop popped
  have leaving : notice.next errand = .taken ↔ errand = .exit := by cases errand <;> simp [Notice.next, early]
  have settles := errand.settles task.surface.state errand.message.kind.isQuit
  simp only [Task.take, item, Errand.order, waiting, Sync.WaitSet.solo_leave]
  refine ⟨rfl, .inl rfl, fun _ => rfl, notice.next errand, errand.reply, turn * queue.entries.length + (16 + 3),
    ⟨serves.handler, serves.untimed, ?_, serves.numbered.pop popped, fits,
      fun number pending => serves.issued number ((pending_take serves.numbered (by rw [place]; rfl) popped item
        number).mp pending), ⟨none, rfl, fun some => absurd rfl some, .absent⟩, errand.count task.surface.state, 16 + 3,
      ⟨3, Nat.le_refl 3, rfl, ?_⟩, (served_pop serves.numbered popped item _).trans tally, rfl⟩, ?_,
    fun number text destined => destined.take serves.numbered (by rw [place]; rfl) popped item, .inl ?_⟩
  · exact (Queue.closed_pop popped).trans (serves.closed.trans (by rw [place]; rfl))
  · rw [serves.handler]
    refine settles.imp ?_
    rintro answer after quits ⟨replied, counted, rfl⟩
    exact ⟨replied, counted, errand.isQuit_eq.trans leaving.symm⟩
  · exact serves.fits.next (Queue.front?_mem (Queue.pop?_eq_some popped).1) item
  · simp only [Queue.size, turn] at fewer ranked ⊢
    omega

private theorem Serves.not_futile (serves : Serves task notice sent reply rank) (place : task.place = .receiving)
    (futile : task.exchange.queue.closed = true ∨ task.exchange.waiting.stance? Task.consumer = some .expired) :
    False := by
  obtain ⟨wait, waiting, _, waits⟩ := serves.waiting
  have unclosed : task.exchange.queue.closed = false := by rw [serves.closed, place]; rfl
  have expired : wait.map (·.2) = some .expired := by
    rw [← Sync.WaitSet.solo_stance Task.consumer, ← waiting]
    exact futile.resolve_left (by simp [unclosed])
  cases waits <;> simp at expired

private theorem Serves.step_parked (serves : Serves task notice sent reply rank) (place : task.place = .receiving)
    (empty : task.exchange.queue.pop? = none) :
    Onward task given notice sent reply rank
      ⟨{ task with
        exchange := { task.exchange with
          waiting := task.exchange.waiting.park Task.consumer (Sync.limit task.timers.nextDeadline?) }
        place := .receiving }, given, []⟩ := by
  obtain ⟨counts, own, phase, tally, ranked⟩ := serves.stands
  simp only [Phase, place] at phase
  obtain ⟨⟨early, rfl⟩, rfl⟩ := phase
  obtain ⟨wait, waiting, _, _⟩ := serves.waiting
  have unclosed : task.exchange.queue.closed = false := by rw [serves.closed, place]; rfl
  have entries := Queue.pop?_eq_none.mp empty
  rw [waiting, Sync.WaitSet.solo_park]
  exact ⟨rfl, .inl rfl, fun _ => rfl, notice, reply, rank, ⟨serves.handler, serves.untimed, unclosed, serves.numbered,
    serves.fits, by rw [← place]; exact serves.issued, ⟨_, rfl, fun _ => rfl, .parked _ entries⟩, _, 12,
    ⟨⟨early, rfl⟩, rfl⟩, tally, ranked⟩, Iff.rfl,
    fun _ _ destined =>
      ⟨destined.queued, by rw [← place]; exact destined.held, by rw [← place]; exact destined.cell⟩,
    .inr ⟨rfl, place, rfl, entries, rfl⟩⟩

private theorem Serves.step_closed (serves : Serves task notice sent reply rank) (place : task.place = .closing) :
    Onward task given notice sent reply rank
      ⟨{ task with
        timers := task.timers.clear
        exchange := task.exchange.close.2
        place := .abandoning (Exchange.slotsOf task.exchange.close.1) task.exchange.close.1.length }, given, []⟩ := by
  obtain ⟨counts, own, phase, tally, ranked⟩ := serves.stands
  simp only [Phase, place] at phase
  obtain ⟨⟨rfl, rfl⟩, exact⟩ := phase
  have waiting := serves.away (by simp [place])
  have empty := serves.fits
  rw [Notice.Fits] at empty
  simp only [Exchange.close, Queue.close, waiting, Sync.WaitSet.solo_broadcast, empty]
  refine ⟨rfl, .inl rfl, fun _ => rfl, .taken, reply, 10, ⟨serves.handler, ⟨serves.untimed.1, rfl⟩, rfl,
    ⟨.nil, by simp⟩, rfl, by simp [Pending, slotAt], ⟨none, rfl, fun some => absurd rfl some, .absent⟩, _, 10,
    ⟨rfl, ⟨rfl, rfl⟩, rfl⟩, ?_, rfl⟩, Iff.rfl, fun number text destined => ?_, .inl (by omega)⟩
  · rw [← tally, empty]
  · obtain ⟨cell, found, tells, due⟩ := destined.cell
    refine ⟨by simp, by simp [slotAt], cell, found, tells, fun unanswered => ?_⟩
    rcases due unanswered with busy | ⟨entry, member, _⟩
    · rw [place] at busy
      cases busy
    · rw [empty] at member
      cases member

private theorem Serves.step_exiting (serves : Serves task notice sent reply rank)
    {rest : HandlerCode Counts String Unit Unit} (place : task.place = .exiting rest)
    (stepped : task.step? now given = some progress) : Onward task given notice sent reply rank progress := by
  obtain ⟨counts, own, phase, tally, ranked⟩ := serves.stands
  simp only [Phase, place] at phase
  obtain ⟨taken, calls, few, exact, settles⟩ := phase
  obtain ⟨⟨after, _, effects⟩, steps, rfl, nears⟩ :=
    (Task.InCode.exiting rest place).nears now given settles
  cases steps.symm.trans stepped
  cases nears with
  | goesOn rest state quitting fewer less settles =>
    exact serves.onward place (by simp) (by rfl) (by rfl) tally ranked
      ⟨taken, fewer, by omega, rfl, settles⟩ (by omega) serves.untimed.1 (.inl rfl)
  | finishes value ended =>
    exact serves.onward place (by simp) (by rfl) (by rfl) tally ranked ⟨⟨taken, ended.symm⟩, rfl⟩ (by omega)
      serves.untimed.1 (.inl rfl)

theorem Serves.step (serves : Serves task notice sent reply rank)
    (stepped : task.step? now given = some progress) : Onward task given notice sent reply rank progress := by
  obtain ⟨counts, own, phase, tally, ranked⟩ := serves.stands
  cases Task.turn_of_step? stepped with
  | ran inside advanced =>
    cases inside with
    | starting rest place => exact serves.step_starting place stepped
    | handling slot rest place => exact serves.step_handling place stepped
    | exiting rest place => exact serves.step_exiting place stepped
    | ticking began timer rest place | callingBack began timer rest place => simp [Phase, place] at phase
  | took entry queue place popped => exact serves.step_took place popped
  | gaveUp place empty futile => exact (serves.not_futile place futile).elim
  | parked place empty => exact serves.step_parked place empty
  | answered slot response place => exact serves.step_answered place
  | closed place => exact serves.step_closed place
  | armed timer place initial =>
    rw [serves.untimed.1] at initial
    cases initial
  | fired began firing timers place due =>
    have silent : task.timers.fire? began = none := TimerSet.fire?_eq_none.mpr (by simp [serves.untimed.2])
    rw [silent] at due
    cases due
  | rearmed began timer place | ordered slot command place | told slot slots dropped place =>
    simp [Phase, place] at phase
  | started place initial =>
    simp only [Phase, place] at phase
    obtain ⟨serving, exact⟩ := phase
    exact serves.onward place (by simp) (by rfl) (by rfl) tally ranked
      ⟨serving.1, 2, Nat.le_refl 2, rfl, by rw [serves.handler]; exact fun _ => ⟨serving.2.symm, rfl⟩⟩ (by omega) rfl
      (.inl rfl)
  | exited dropped place =>
    simp only [Phase, place] at phase
    obtain ⟨_, leaving, exact⟩ := phase
    exact serves.onward place (by simp) (by rfl) (by rfl) tally ranked
      ⟨leaving.1, 2, Nat.le_refl 2, rfl, by rw [serves.handler]; exact leaving.2.symm⟩ (by omega)
      serves.untimed.1 (.inl rfl)
  | left life place terminated =>
    simp only [Phase, place] at phase
    obtain ⟨leaving, exact⟩ := phase
    exact serves.onward place (by simp) (by rfl) (by rfl) tally ranked ⟨leaving, rfl⟩ (by omega) serves.untimed.1
      (.inr ⟨place, terminated⟩)
  | entered place | swept place | drained began place | disposed place | reported place =>
    simp only [Phase, place] at phase
    obtain ⟨standing, exact⟩ := phase
    exact serves.onward place (by simp) (by rfl) (by rfl) tally ranked ⟨standing, rfl⟩ (by omega)
      serves.untimed.1 (.inl rfl)

theorem Serves.stepped (serves : Serves task notice sent reply rank) (begun : task.place ≠ .idle)
    (unended : task.place ≠ .ended) (committed : task.life.starting = false) (now : Instant) (given : Nat) :
    (∃ progress, task.step? now given = some progress) ∨
      task.place = .receiving ∧ task.exchange.queue.entries = [] := by
  obtain ⟨counts, own, phase, _⟩ := serves.stands
  cases place : task.place with
  | idle | ended => contradiction
  | lost | ticking | callingBack | rearming | ordering => simp [Phase, place] at phase
  | entering | arming | sweeping | answering | closing | disposing | reporting =>
    exact .inl ⟨_, by simp only [Task.step?, place]; rfl⟩
  | starting rest =>
    simp only [Phase, place] at phase
    obtain ⟨_, calls, _, _, settles⟩ := phase
    obtain ⟨progress, steps, _⟩ := (Task.InCode.starting rest place).nears now given settles
    exact .inl ⟨progress, steps⟩
  | handling slot rest =>
    simp only [Phase, place] at phase
    obtain ⟨calls, _, _, settles⟩ := phase
    obtain ⟨progress, steps, _⟩ := (Task.InCode.handling slot rest place).nears now given settles
    exact .inl ⟨progress, steps⟩
  | exiting rest =>
    simp only [Phase, place] at phase
    obtain ⟨_, calls, _, _, settles⟩ := phase
    obtain ⟨progress, steps, _⟩ := (Task.InCode.exiting rest place).nears now given settles
    exact .inl ⟨progress, steps⟩
  | draining began =>
    refine .inl ?_
    simp only [Task.step?, place]
    cases task.timers.fire? began <;> exact ⟨_, rfl⟩
  | receiving =>
    obtain ⟨wait, waiting, _, waits⟩ := serves.waiting
    have stance : task.exchange.waiting.stance? Task.consumer = wait.map (·.2) := by
      rw [waiting, Sync.WaitSet.solo_stance]
    by_cases parked : wait.map (·.2) = some .parked
    · refine .inr ⟨rfl, ?_⟩
      cases waits with
      | absent | woken => cases parked
      | parked _ empty => exact empty
    · refine .inl ?_
      simp only [Task.step?, place]
      rw [if_neg (stance ▸ parked)]
      split <;> exact ⟨_, rfl⟩
  | abandoning slots dropped =>
    simp only [Phase, place] at phase
    obtain ⟨rfl, _⟩ := phase
    exact .inl ⟨_, by simp only [Task.step?, place]; rfl⟩
  | leaving =>
    exact .inl ⟨_, by simp only [Task.step?, place, Lifecycle.terminate?, committed, Bool.false_eq_true, if_false]; rfl⟩

theorem Serves.taken_of_past (serves : Serves task notice sent reply rank) (past : task.place.isPast = true) :
    notice = .taken := by
  obtain ⟨counts, own, phase, _⟩ := serves.stands
  cases place : task.place with
  | abandoning | exiting | disposing | leaving | reporting | ended =>
    simp only [Phase, place] at phase
    simp_all
  | idle | lost | entering | arming | starting | sweeping | draining | ticking | callingBack | rearming | receiving
    | handling | answering | ordering | closing => simp [place, Task.Place.isPast] at past

theorem Serves.unclosed (serves : Serves task notice sent reply rank) (early : notice ≠ .taken) :
    task.exchange.queue.closed = false := by
  rw [serves.closed]
  cases past : task.place.isPast with
  | false => rfl
  | true => exact absurd (serves.taken_of_past past) early

/-- In the end the task has counted all that it has been sent. -/
theorem Serves.counted (serves : Serves task notice sent reply rank) (ended : task.place = .ended) :
    task.surface.state = sent := by
  obtain ⟨counts, own, phase, tally, _⟩ := serves.stands
  simp only [Phase, ended] at phase
  obtain ⟨⟨rfl, rfl⟩, _⟩ := phase
  have empty := serves.fits
  rw [Notice.Fits] at empty
  rw [← tally, empty]
  rfl

theorem Serves.notice_of_rest (serves : Serves task notice sent reply rank) (place : task.place = .receiving)
    (empty : task.exchange.queue.entries = []) : notice = .none := by
  obtain ⟨counts, own, phase, _⟩ := serves.stands
  simp only [Phase, place] at phase
  cases notice with
  | none => rfl
  | given =>
    obtain ⟨earlier, last, entries, _⟩ := serves.fits
    simp [empty] at entries
  | taken => exact absurd rfl phase.1.1

theorem Serves.framed (serves : Serves task notice sent reply rank) (life : Lifecycle) (abandoned : Bool) :
    Serves { task with life, abandoned } notice sent reply rank :=
  ⟨serves.handler, serves.untimed, serves.closed, serves.numbered, serves.fits, serves.issued, serves.waiting,
    serves.stands⟩

theorem Serves.begun (serves : Serves task notice sent reply rank) (idle : task.place = .idle) (life : Lifecycle) :
    ∃ lower < rank, Serves { task with life, place := .entering } notice sent reply lower := by
  obtain ⟨counts, own, phase, tally, ranked⟩ := serves.stands
  simp only [Phase, idle] at phase
  obtain ⟨serving, exact⟩ := phase
  exact ⟨turn * task.exchange.queue.entries.length + 20, by omega, serves.handler, serves.untimed,
    by rw [serves.closed, idle]; rfl, serves.numbered, serves.fits,
    fun number pending => serves.issued number (.inr (pending.resolve_left nofun)),
    ⟨none, serves.away (by simp [idle]), fun some => absurd rfl some, .absent⟩, counts, 20, ⟨serving, rfl⟩, tally, rfl⟩

theorem Serves.rouse (serves : Serves task notice sent reply rank) :
    Serves { task with exchange := task.exchange.rouse Task.consumer } notice sent reply rank := by
  obtain ⟨wait, waiting, only, waits⟩ := serves.waiting
  refine ⟨serves.handler, serves.untimed, serves.closed, serves.numbered, serves.fits, serves.issued,
    ⟨wait.map Sync.Wait.woke, by rw [Exchange.rouse, waiting, Sync.WaitSet.solo_rouse], ?_, waits.woke⟩,
    serves.stands⟩
  exact fun some => only fun none => some (by rw [none]; rfl)

theorem Serves.modified (serves : Serves task notice sent reply rank) (slot : Nat) (change : Slot String → Slot String) :
    Serves { task with exchange := { task.exchange with slots := task.exchange.slots.modify slot change } } notice sent
      reply rank :=
  ⟨serves.handler, serves.untimed, serves.closed, serves.numbered, serves.fits,
    fun number pending => by simpa using serves.issued number pending, serves.waiting, serves.stands⟩

private theorem Phase.noticed {later : Notice} (phase : Phase task notice counts reply rank)
    (same : later = .taken ↔ notice = .taken) : Phase task later counts reply rank := by
  unfold Phase at phase ⊢
  simpa only [ne_eq, same] using phase

private theorem Serves.admit (serves : Serves task notice sent reply rank) (early : notice ≠ .taken) (later : Notice)
    (untaken : later ≠ .taken) {errand : Errand} {priority : Priority}
    (fits : later.Fits (task.exchange.queue.appended priority errand.order).entries) {slots : Array (Slot String)}
    (grows : task.exchange.slots.size ≤ slots.size) (issued : ∀ slot, errand.slot = some slot → slot < slots.size) :
    Serves { task with exchange := { task.exchange.admitted priority errand.order 0 with slots } } later
      (errand.count sent) reply (rank + turn) := by
  obtain ⟨wait, waiting, only, waits⟩ := serves.waiting
  obtain ⟨counts, own, phase, tally, ranked⟩ := serves.stands
  refine ⟨serves.handler, serves.untimed, serves.closed, serves.numbered.appended _ _, fits, ?_,
    ⟨wait.map Sync.Wait.woke, by rw [Exchange.admitted, waiting, Sync.WaitSet.solo_signal], ?_, waits.woke⟩, counts, own,
    phase.noticed (iff_of_false untaken early), ?_, ?_⟩
  · rintro number (busy | ⟨entry, member, waits⟩)
    · exact Nat.lt_of_lt_of_le (serves.issued number (.inl busy)) grows
    · rcases List.mem_append.mp member with old | new
      · exact Nat.lt_of_lt_of_le (serves.issued number (.inr ⟨entry, old, waits⟩)) grows
      · rw [List.mem_singleton.mp new] at waits
        exact issued number waits
  · exact fun some => only fun none => some (by rw [none]; rfl)
  · rw [← tally]
    exact served_appended _ _ _ _
  · simp only [Exchange.admitted, Queue.appended, List.length_append, List.length_singleton, ranked, turn]
    omega

theorem Serves.send (serves : Serves task .none sent reply rank) (priority : Priority) (errand : Errand)
    (working : errand ≠ .exit) {slots : Array (Slot String)} (grows : task.exchange.slots.size ≤ slots.size)
    (issued : ∀ slot, errand.slot = some slot → slot < slots.size) :
    Serves { task with exchange := { task.exchange.admitted priority errand.order 0 with slots } } .none
      (errand.count sent) reply (rank + turn) :=
  serves.admit nofun .none nofun (serves.fits.appended priority working) grows issued

theorem Serves.give (serves : Serves task .none sent reply rank) :
    Serves { task with exchange := task.exchange.admitted .low Errand.exit.order 0 } .given sent reply (rank + turn) :=
  serves.admit nofun .given nofun serves.fits.give (Nat.le_refl _) nofun

section Destined

variable {slot other : Nat} {text : String} (destined : Destined task reply slot text)

include destined

theorem Destined.framed (life : Lifecycle) (abandoned : Bool) (waiting : Sync.WaitSet) :
    Destined { task with life, abandoned, exchange := { task.exchange with waiting } } reply slot text :=
  ⟨destined.queued, destined.held, destined.cell⟩

theorem Destined.begun (idle : task.place = .idle) (life : Lifecycle) :
    Destined { task with life, place := .entering } reply slot text := by
  obtain ⟨cell, found, tells, due⟩ := destined.cell
  refine ⟨destined.queued, nofun, cell, found, tells, fun unanswered => .inr ((due unanswered).resolve_left ?_)⟩
  rw [idle]
  nofun

private theorem Destined.modified {change : Slot String → Slot String}
    (answers : ∀ cell, (change cell).answer = cell.answer)
    (leaves : ∀ cell response, (change cell).caller = .gone response →
      cell.caller = .gone response ∨ cell.answer = some response ∨ response = .timedOut)
    (sleeps : ∀ cell, (change cell).caller = .parked → cell.caller = .parked ∨ cell.answer = none) :
    Destined { task with exchange := { task.exchange with slots := task.exchange.slots.modify other change } } reply slot
      text := by
  obtain ⟨cell, found, tells, due⟩ := destined.cell
  by_cases here : other = slot
  · subst here
    refine ⟨destined.queued, destined.held, change cell,
      by simp only [Array.getElem?_modify, if_pos, found, Option.map_some], ⟨?_, ?_, ?_⟩, ?_⟩
    · exact fun response answer => tells.answer response ((answers cell).symm.trans answer)
    · intro response left
      rcases leaves cell response left with before | answer | late
      · exact tells.gone response before
      · exact .inl (tells.answer response answer)
      · exact .inr late
    · exact fun asleep => (answers cell).trans ((sleeps cell asleep).elim tells.asleep id)
    · exact fun unanswered => due ((answers cell).symm.trans unanswered)
  · exact ⟨destined.queued, destined.held, cell,
      by simpa only [Array.getElem?_modify, if_neg here] using found, tells, due⟩

theorem Destined.look : Destined { task with exchange := task.exchange.look other } reply slot text := by
  refine destined.modified (fun _ => rfl) (fun cell response left => ?_) fun cell asleep => ?_
  · simp only [Exchange.looked] at left
    split at left <;> simp_all
  · simp only [Exchange.looked] at asleep
    split at asleep <;> simp_all

theorem Destined.rouseCaller : Destined { task with exchange := task.exchange.rouseCaller other } reply slot text := by
  refine destined.modified (fun cell => ?_) (fun cell response left => ?_) fun cell asleep => ?_
  · cases cell.caller <;> rfl
  · cases caller : cell.caller <;> simp_all
  · cases caller : cell.caller <;> simp_all

theorem Destined.expireCaller (now : Instant) :
    Destined { task with exchange := task.exchange.expireCaller now other } reply slot text := by
  refine destined.modified (fun cell => ?_) (fun cell response left => ?_) fun cell asleep => ?_
  · split
    · split <;> rfl
    · rfl
  · split at left
    · split at left <;> simp_all
    · exact .inl left
  · split at asleep
    · exact .inl ‹_›
    · exact .inl asleep

theorem Destined.admit (errand : Errand) {priority : Priority} (apart : errand.slot ≠ some slot)
    {slots : Array (Slot String)} (same : slots[slot]? = task.exchange.slots[slot]?) :
    Destined { task with exchange := { task.exchange.admitted priority errand.order 0 with slots } } reply slot text := by
  obtain ⟨cell, found, tells, due⟩ := destined.cell
  refine ⟨fun entry member waits => ?_, destined.held, cell, same.trans found, tells, fun unanswered => ?_⟩
  · rcases List.mem_append.mp member with old | new
    · exact destined.queued entry old waits
    · rw [List.mem_singleton.mp new] at waits
      exact absurd waits apart
  · refine (due unanswered).imp_right fun ⟨entry, member, waits⟩ => ⟨entry, List.mem_append_left _ member, waits⟩

end Destined

theorem Serves.asked (serves : Serves task notice sent reply rank) (text : String) {priority : Priority}
    (deadline : Option Instant) : Destined { task with exchange := { task.exchange.admitted priority
        (Errand.request text task.exchange.slots.size).order 0 with
          slots := task.exchange.slots.push ⟨deadline, none, .looking⟩ } } reply task.exchange.slots.size text := by
  have fresh : ¬ Pending task task.exchange.slots.size := fun pending => Nat.lt_irrefl _ (serves.issued _ pending)
  refine ⟨fun entry member waits => ?_, fun busy => absurd (.inl busy) fresh, _, Array.getElem?_push_size,
    ⟨nofun, nofun, nofun⟩, fun _ => .inr ⟨_, List.mem_append_right _ (List.mem_singleton.mpr rfl), rfl⟩⟩
  rcases List.mem_append.mp member with old | new
  · exact absurd (.inr ⟨entry, old, waits⟩) fresh
  · rw [List.mem_singleton.mp new]

end TaskKernel.Demo.Echo
