import TaskKernel.Proofs.Task.Exit

/-!
The ledger of a task: what its thread takes from the queue is what the handler is called for, what it
discards is what is still queued at the close, and what it says to a caller is how the call for that
message has ended.
-/
namespace TaskKernel

/-- What is posted to a task. -/
abbrev Envelope (σ π : Type) : Type := Queue.Entry (Parcel (Command σ π))

def Command.isMessage {σ π : Type} : Command σ π → Bool
  | .deliver _ => true
  | .addTimer _ | .cancelTimer _ => false

private theorem Command.isMessage_of_not {command : Command σ π} (order : ∀ message, command ≠ .deliver message) :
    command.isMessage = false := by
  cases command with
  | deliver message => exact absurd rfl (order message)
  | addTimer | cancelTimer => rfl

/-- Code can come to an end in this way. -/
def HandlerCode.ComesTo {σ π υ α : Type} (code : HandlerCode σ π υ α) (ending : Ending α) : Prop :=
  ∃ rest : HandlerCode σ π υ α, code.Leads rest ∧ rest.ending? = some ending

namespace Task

variable {σ π ρ υ : Type}

@[simp] def Activity.envelope? : Activity σ π → Option (Envelope σ π)
  | .handling entry _ => entry
  | .starting | .callingBack _ | .exiting => none

@[simp] def Event.given? : Event σ π ρ → Option (Envelope σ π)
  | .began activity => activity.envelope?
  | .ended .. | .closed _ => none

@[simp] def Event.finished? : Event σ π ρ → Option (Envelope σ π)
  | .ended activity _ _ => activity.envelope?
  | .began _ | .closed _ => none

@[simp] def Event.dropped : Event σ π ρ → List (Envelope σ π)
  | .closed entries => entries
  | .began _ | .ended .. => []

/-- The messages that the handler has been called for. -/
def handled (history : List (Event σ π ρ)) : List (Envelope σ π) := history.filterMap Event.given?

/-- The messages for which the call of the handler is over. -/
def finished (history : List (Event σ π ρ)) : List (Envelope σ π) := history.filterMap Event.finished?

/-- What has been dropped when the queue was closed. -/
def dropped (history : List (Event σ π ρ)) : List (Envelope σ π) := history.flatMap Event.dropped

section

variable (history : List (Event σ π ρ)) (event : Event σ π ρ)

@[simp] theorem handled_append : handled (history ++ [event]) = handled history ++ event.given?.toList := by
  rw [handled, List.filterMap_append, List.filterMap_cons]
  cases event.given? <;> rfl

@[simp] theorem finished_append :
    finished (history ++ [event]) = finished history ++ event.finished?.toList := by
  rw [finished, List.filterMap_append, List.filterMap_cons]
  cases event.finished? <;> rfl

@[simp] theorem dropped_append : dropped (history ++ [event]) = dropped history ++ event.dropped := by
  simp [dropped]

end

/-- An event has the message of its envelope, and a call ends as the handler's code can end. -/
def Event.Fits (handler : Handler σ π ρ υ) : Event σ π ρ → Prop
  | .began (.handling entry message) => ∀ found ∈ entry, found.item.item = .deliver message
  | .ended (.handling entry message) ending _ =>
    (∀ found ∈ entry, found.item.item = .deliver message) ∧ (handler.handle message).ComesTo ending
  | .began .starting | .began (.callingBack _) | .began .exiting | .ended .starting ..
    | .ended (.callingBack _) .. | .ended .exiting .. | .closed _ => True

/-- The calls of the handler agree with what has been taken from the queue, and what has been dropped
with what has been discarded. -/
structure Ledger (task : Task σ π ρ υ) (diary : Diary σ π ρ) : Prop where
  taken : (Exchange.Session.taken diary.session.history).filter (·.item.item.isMessage) =
    handled diary.history
  discarded : Exchange.Session.discarded diary.session.history = dropped diary.history
  current : handled diary.history =
    finished diary.history ++ (diary.activity.bind Activity.envelope?).toList
  fits : ∀ event ∈ diary.history, event.Fits task.handler

variable {task next : Task σ π ρ υ} {diary later : Diary σ π ρ}

private theorem Ledger.framed (ledger : Ledger task diary)
    (taken : (Exchange.Session.taken later.session.history).filter (·.item.item.isMessage) =
      (Exchange.Session.taken diary.session.history).filter (·.item.item.isMessage))
    (discarded : Exchange.Session.discarded later.session.history =
      Exchange.Session.discarded diary.session.history)
    (history : later.history = diary.history) (activity : later.activity = diary.activity)
    (handler : next.handler = task.handler) : Ledger next later where
  taken := by rw [taken, history, ledger.taken]
  discarded := by rw [discarded, history, ledger.discarded]
  current := by rw [history, activity, ledger.current]
  fits := by
    rw [history, handler]
    exact ledger.fits

theorem OuterFrame.taken {session after : Exchange.Session (Command σ π) ρ}
    (frame : OuterFrame session after) :
    Exchange.Session.taken after.history = Exchange.Session.taken session.history := by
  rcases frame.history with same | ⟨entry, deadline, same⟩ <;> simp [same]

private theorem OuterFrame.discarded {session after : Exchange.Session (Command σ π) ρ}
    (frame : OuterFrame session after) :
    Exchange.Session.discarded after.history = Exchange.Session.discarded session.history := by
  rcases frame.history with same | ⟨entry, deadline, same⟩ <;> simp [same]

private theorem Ledger.append (ledger : Ledger task diary) (event : Event σ π ρ)
    (history : later.history = diary.history ++ [event])
    (taken : (Exchange.Session.taken later.session.history).filter (·.item.item.isMessage) =
      (Exchange.Session.taken diary.session.history).filter (·.item.item.isMessage) ++ event.given?.toList)
    (discarded : Exchange.Session.discarded later.session.history =
      Exchange.Session.discarded diary.session.history ++ event.dropped)
    (current : handled diary.history ++ event.given?.toList = finished diary.history ++
      event.finished?.toList ++ (later.activity.bind Activity.envelope?).toList)
    (fits : event.Fits task.handler) (handler : next.handler = task.handler) : Ledger next later where
  taken := by rw [taken, history, handled_append, ledger.taken]
  discarded := by rw [discarded, history, dropped_append, ledger.discarded]
  current := by rw [history, handled_append, finished_append, current]
  fits := by
    rw [history, handler]
    intro found member
    rcases List.mem_append.mp member with old | new
    · exact ledger.fits found old
    · rwa [List.mem_singleton.mp new]

theorem Ledger.begin (ledger : Ledger task diary) (idle : diary.activity = none) {activity : Activity σ π}
    (history : later.history = diary.history ++ [.began activity]) (begun : later.activity = some activity)
    (taken : (Exchange.Session.taken later.session.history).filter (·.item.item.isMessage) =
      (Exchange.Session.taken diary.session.history).filter (·.item.item.isMessage) ++
        activity.envelope?.toList)
    (discarded : Exchange.Session.discarded later.session.history =
      Exchange.Session.discarded diary.session.history)
    (fits : (Event.began activity : Event σ π ρ).Fits task.handler) (handler : next.handler = task.handler) :
    Ledger next later := by
  refine ledger.append (.began activity) history taken ?_ ?_ fits handler
  · rw [discarded, Event.dropped, List.append_nil]
  · simp [ledger.current, idle, begun]

private theorem Doing.fits {handler : Handler σ π ρ υ} {quitting asked : Bool} {activity : Activity σ π}
    {place after : Place σ π ρ υ} (doing : Doing handler quitting asked (some activity) place)
    {ending : Ending (Option ρ)} (ends : place.Ends quitting ending after) :
    (Event.ended activity ending asked : Event σ π ρ).Fits handler := by
  cases ends with
  | starting | callingBack | exiting =>
    cases doing
    trivial
  | ticking now timer rest ending ended =>
    cases doing with
    | ticking _ _ message _ leads _ _ => exact ⟨nofun, rest, leads, ended⟩
  | handling slot rest ending ended =>
    cases doing with
    | handling entry message _ item leads _ =>
      refine ⟨?_, rest, leads, ended⟩
      rintro found ⟨⟩
      exact item

private theorem Ledger.ended (ledger : Ledger task diary) (engaged : Engaged task diary) {place : Place σ π ρ υ}
    {ending : Ending (Option ρ)} (ends : task.place.Ends task.quitting ending place)
    (handler : next.handler = task.handler) : Ledger next (diary.finish ending) := by
  obtain ⟨activity, current⟩ := engaged.loud ends.quiet.1
  rw [Engaged, current] at engaged
  have before := ledger.current
  rw [current] at before
  rw [Diary.finish, current]
  refine ledger.append (.ended activity ending diary.asked) rfl ?_ ?_ ?_ (engaged.fits ends) handler
  · rw [Event.given?, Option.toList_none, List.append_nil]
  · rw [Event.dropped, List.append_nil]
  · simp [before]

private theorem activity_envelope (task : Task σ π ρ υ) (firing : TimerSet.Firing σ) :
    (task.activityOf firing).envelope? = none := by
  unfold activityOf
  split <;> rfl

private theorem activity_fits (task : Task σ π ρ υ) (firing : TimerSet.Firing σ) (handler : Handler σ π ρ υ) :
    (Event.began (task.activityOf firing) : Event σ π ρ).Fits handler := by
  unfold activityOf
  split
  · exact nofun
  · trivial

theorem Ledger.step (ledger : Ledger task diary) (mirrored : Mirrored task diary)
    (engaged : Engaged task diary) (step : Step task diary next later) : Ledger next later := by
  cases step with
  | aside | passed | woundDown | waited => exact ledger.framed rfl rfl rfl rfl rfl
  | dealt move outer =>
    have frame := outer_frame diary.session move outer
    exact ledger.framed (congrArg _ frame.taken) frame.discarded rfl rfl rfl
  | started timers arming =>
    have idle := Doing.of_quiet engaged (by rw [arming]; rfl)
    exact ledger.begin idle rfl rfl (by simp [Diary.begin]) rfl trivial rfl
  | asked call resume asks answer surface timers userData untimed =>
    have frame := ask_frame diary call
    exact ledger.framed (congrArg _ frame.taken) frame.discarded (ask_history diary call)
      (ask_activity diary call) rfl
  | ended ending place ends => exact ledger.ended engaged ends rfl
  | fired now firing timers draining =>
    have idle := Doing.of_quiet engaged (by rw [draining]; rfl)
    refine ledger.begin idle rfl rfl ?_ rfl (activity_fits task firing _) rfl
    rw [activity_envelope, Option.toList_none, List.append_nil]
    rfl
  | took entry queue waiting message receiving popped item =>
    have idle := Doing.of_quiet engaged (by rw [receiving]; rfl)
    refine ledger.begin idle rfl rfl ?_ ?_ ?_ rfl
    · simp [Diary.begin, Exchange.Session.hand, item, Command.isMessage]
    · simp [Diary.begin, Exchange.Session.hand]
    · rintro found ⟨⟩
      exact item
  | ordered entry queue waiting receiving popped command =>
    refine ledger.framed ?_ ?_ rfl rfl rfl
    · simp [Exchange.Session.hand, Command.isMessage_of_not command]
    · simp [Exchange.Session.hand]
  | answered slot ending answering =>
    have session := reply_session mirrored answering
    have history := reply_history diary slot (responseOf ending)
    have activity := reply_activity diary slot (responseOf ending)
    refine ledger.framed ?_ ?_ history activity rfl
    · simp [session, Exchange.Session.taken]
    · simp [session, Exchange.Session.discarded]
  | closed closing =>
    have idle := Doing.of_quiet engaged (by rw [closing]; rfl)
    refine ledger.append (.closed task.exchange.queue.entries) rfl ?_ ?_ ?_ trivial rfl
    · simp [Diary.deal, Exchange.Session.move]
    · simp [Diary.deal, Exchange.Session.move, mirrored.exchange, Exchange.close, Queue.close]
    · simp [Diary.deal, ledger.current, idle]
  | told slot slots dropped abandoning =>
    have session := drop_session mirrored abandoning
    exact ledger.framed (by simp [session]) (by simp [session]) rfl rfl rfl
  | exited dropped abandoning =>
    have idle := Doing.of_quiet engaged (by rw [abandoning]; rfl)
    exact ledger.begin idle rfl rfl (by simp [Diary.begin]) rfl trivial rfl

/-- The call for the message of a slot has ended in this way. -/
def Concluded (history : List (Event σ π ρ)) (number : Nat) (ending : Ending (Option ρ)) : Prop :=
  ∃ (entry : Envelope σ π) (message : Message π) (asked : Bool),
    .ended (.handling (some entry) message) ending asked ∈ history ∧ entry.item.slot = some number

/-- The slot that is about to be filled, and with what. -/
def Place.response? : Place σ π ρ υ → Option (Nat × Response ρ)
  | .answering (some number) response => some (number, response)
  | .idle | .lost | .entering | .arming | .starting _ | .sweeping | .draining _ | .ticking .. | .callingBack ..
    | .rearming .. | .receiving | .handling .. | .answering none _ | .ordering .. | .closing | .abandoning ..
    | .exiting _ | .disposing | .leaving | .reporting | .ended => none

/-- Whether an event says nothing of a message, or only that it has been dropped at the close. -/
def isMute {α β : Type} : Exchange.Session.Event α β → Bool
  | .settled .. => false
  | .dropped responder => responder.done || responder.discarded
  | .admitted .. | .taken .. | .closed _ => true

/-- A caller is told how the call for its message has ended, or is dropped at the close. -/
structure Candid (task : Task σ π ρ υ) (diary : Diary σ π ρ) : Prop where
  answering : ∀ number response, task.place.response? = some (number, response) →
    ∃ ending, response = responseOf ending ∧ Concluded diary.history number ending
  settled : ∀ number ruling, .settled number ruling ∈ diary.session.history →
    ∃ ending, ruling = rulingOf ending ∧ Concluded diary.history number ending
  dropped : ∀ responder, .dropped responder ∈ diary.session.history →
    (responder.done || responder.discarded) = true

private theorem Concluded.still {before after : List (Event σ π ρ)} (early : before <+: after) {number : Nat}
    {ending : Ending (Option ρ)} (concluded : Concluded before number ending) :
    Concluded after number ending := by
  obtain ⟨entry, message, asked, past, slot⟩ := concluded
  exact ⟨entry, message, asked, early.subset past, slot⟩

private theorem rulingOf_congr {first second : Ending (Option ρ)} (same : responseOf first = responseOf second) :
    rulingOf first = rulingOf second := by
  cases first <;> cases second <;> simp_all [responseOf, rulingOf]

private theorem Candid.mute (candid : Candid task diary) (history : diary.history <+: later.history)
    (place : next.place = task.place ∨ next.place.response? = none)
    {extra : List (Exchange.Session.Event (Command σ π) ρ)}
    (session : later.session.history = diary.session.history ++ extra)
    (mute : ∀ event ∈ extra, isMute event = true) : Candid next later where
  answering number response stands := by
    rcases place with still | none
    · rw [still] at stands
      obtain ⟨ending, same, concluded⟩ := candid.answering number response stands
      exact ⟨ending, same, concluded.still history⟩
    · rw [none] at stands
      cases stands
  settled number ruling past := by
    rw [session] at past
    rcases List.mem_append.mp past with old | new
    · obtain ⟨ending, same, concluded⟩ := candid.settled number ruling old
      exact ⟨ending, same, concluded.still history⟩
    · cases mute _ new
  dropped responder past := by
    rw [session] at past
    rcases List.mem_append.mp past with old | new
    · exact candid.dropped responder old
    · exact mute _ new

private theorem Place.Passes.mute {quitting : Bool} {place after : Place σ π ρ υ}
    (passes : place.Passes quitting after) : after.response? = none := by
  cases passes with
  | rearmed | answered => cases quitting <;> rfl
  | lost | begun | entered | swept | drained | ordered => rfl

private theorem Place.WindsDown.mute {place after : Place σ π ρ υ} (winds : place.WindsDown after) :
    after.response? = none := by
  cases winds <;> rfl

private theorem Place.Asks.mute {call : HandlerCall σ π υ} {place : Place σ π ρ υ}
    {resume : call.Answer → Place σ π ρ υ} (asks : place.Asks call resume) (answer : call.Answer) :
    (resume answer).response? = none := by
  cases asks <;> rfl

private theorem OuterFrame.mute {session after : Exchange.Session (Command σ π) ρ}
    (frame : OuterFrame session after) :
    ∃ extra, after.history = session.history ++ extra ∧ ∀ event ∈ extra, isMute event = true := by
  rcases frame.history with same | ⟨entry, deadline, same⟩
  · exact ⟨[], by simp [same], by simp⟩
  · exact ⟨_, same, by simp [isMute]⟩

private theorem Doing.concludes {handler : Handler σ π ρ υ} {quitting asked : Bool} {activity : Activity σ π}
    {place after : Place σ π ρ υ} (doing : Doing handler quitting asked (some activity) place)
    {ending : Ending (Option ρ)} (ends : place.Ends quitting ending after) {number : Nat}
    {response : Response ρ} (answering : after.response? = some (number, response))
    (history : List (Event σ π ρ)) : response = responseOf ending ∧
      Concluded (history ++ [.ended activity ending asked]) number ending := by
  cases ends with
  | starting => cases quitting <;> cases answering
  | ticking | callingBack | exiting => cases answering
  | handling slot rest ending ended =>
    cases doing with
    | handling entry message _ _ _ _ =>
      cases slot : entry.item.slot with
      | none =>
        rw [slot] at answering
        cases answering
      | some number =>
        rw [slot] at answering
        cases answering
        exact ⟨rfl, entry, message, asked, by simp, slot⟩

private theorem Candid.ended (candid : Candid task diary) (engaged : Engaged task diary) {place : Place σ π ρ υ}
    {ending : Ending (Option ρ)} (ends : task.place.Ends task.quitting ending place) :
    Candid { task with place } (diary.finish ending) := by
  have step : Step task diary { task with place } (diary.finish ending) := .ended ending place ends
  have history := history_step step
  have session := finish_session diary ending
  obtain ⟨activity, current⟩ := engaged.loud ends.quiet.1
  rw [Engaged, current] at engaged
  refine ⟨?_, ?_, ?_⟩
  · intro number response answering
    obtain ⟨same, concluded⟩ := engaged.concludes ends answering diary.history
    rw [Diary.finish, current]
    exact ⟨ending, same, concluded⟩
  · intro number ruling past
    rw [session] at past
    obtain ⟨ending, same, concluded⟩ := candid.settled number ruling past
    exact ⟨ending, same, concluded.still history⟩
  · rw [session]
    exact candid.dropped

private theorem Candid.answered (candid : Candid task diary) (mirrored : Mirrored task diary) {slot : Nat}
    {ending : Ending (Option ρ)} (answering : task.place = .answering (some slot) (responseOf ending))
    (place : next.place.response? = none) : Candid next (reply diary slot (responseOf ending)) := by
  have session := reply_session mirrored answering
  have history := reply_history diary slot (responseOf ending)
  refine ⟨?_, ?_, ?_⟩
  · intro number response stands
    rw [place] at stands
    cases stands
  · intro number ruling past
    rw [history]
    simp only [session, List.mem_append, List.mem_cons, List.not_mem_nil, or_false] at past
    rcases past with old | new | new
    · exact candid.settled number ruling old
    · cases new
      obtain ⟨other, same, concluded⟩ := candid.answering slot (responseOf ending) (by rw [answering]; rfl)
      exact ⟨other, rulingOf_congr same, concluded⟩
    · cases new
  · intro responder past
    simp only [session, List.mem_append, List.mem_cons, List.not_mem_nil, or_false] at past
    rcases past with old | new | new
    · exact candid.dropped responder old
    · cases new
    · cases new
      rfl

theorem Candid.step (candid : Candid task diary) (mirrored : Mirrored task diary)
    (engaged : Engaged task diary) (step : Step task diary next later) : Candid next later := by
  have history := history_step step
  cases step with
  | aside life surface abandoned disposals stays =>
    exact candid.mute history (.inl rfl) (List.append_nil _).symm (by simp)
  | dealt move outer =>
    obtain ⟨extra, session, mute⟩ := (outer_frame diary.session move outer).mute
    exact candid.mute history (.inl rfl) session mute
  | passed life timers abandoned disposals place passes =>
    exact candid.mute history (.inr passes.mute) (List.append_nil _).symm (by simp)
  | woundDown life disposals place winds ends =>
    exact candid.mute history (.inr winds.mute) (List.append_nil _).symm (by simp)
  | started timers arming => exact candid.mute history (.inr rfl) (List.append_nil _).symm (by simp)
  | asked call resume asks answer surface timers userData untimed =>
    obtain ⟨extra, session, mute⟩ := (ask_frame diary call).mute
    exact candid.mute history (.inr (asks.mute answer)) session mute
  | ended ending place ends => exact candid.ended engaged ends
  | fired now firing timers draining =>
    refine candid.mute history (.inr ?_) (List.append_nil _).symm (by simp)
    show (task.fire now firing).response? = none
    unfold fire
    split <;> rfl
  | waited waiting place receiving goes =>
    refine candid.mute history (.inr ?_) (List.append_nil _).symm (by simp)
    rcases goes with rfl | rfl <;> rfl
  | took entry queue waiting message receiving popped item =>
    exact candid.mute history (.inr rfl) rfl (by simp [isMute])
  | ordered entry queue waiting receiving popped command =>
    exact candid.mute history (.inr rfl) rfl (by simp [isMute])
  | answered slot ending answering =>
    refine candid.answered mirrored answering ?_
    unfold afterCall
    show Place.response? (if _ then _ else _) = none
    split <;> rfl
  | closed closing => exact candid.mute history (.inr rfl) rfl (by simp [isMute])
  | told slot slots dropped abandoning =>
    have session := drop_session mirrored abandoning
    exact candid.mute history (.inr rfl) (by rw [session]) (by simp [isMute])
  | exited dropped abandoning =>
    exact candid.mute history (.inr rfl) (List.append_nil _).symm (by simp)

end Task

end TaskKernel
