import TaskKernel.Proofs.Task.Mirror

/-!
What the serving thread does at each place: for which activity the handler's code runs there, what code
it began as, and whether the service ends with it.
-/
namespace TaskKernel

variable {σ π ρ υ α : Type}

/-- What is left of a script when some of its calls have been answered. -/
inductive Script.Leads {Call : Type} {Answer : Call → Type} (code : Script Call Answer α) :
    Script Call Answer α → Prop
  | refl : Leads code code
  | next {call : Call} {next : Answer call → Script Call Answer α} (leads : Leads code (.ask call next))
      (answer : Answer call) : Leads code (next answer)

private theorem HandlerCode.ofBody_leads {body : Body σ α} {rest : HandlerCode σ π υ α}
    (leads : (HandlerCode.ofBody body).Leads rest) : ∃ left : Body σ α, rest = HandlerCode.ofBody left := by
  induction leads with
  | refl => exact ⟨body, rfl⟩
  | next _ answer ih =>
    obtain ⟨left, same⟩ := ih
    cases left with
    | done => cases same
    | ask call follow =>
      cases same
      exact ⟨follow answer, rfl⟩

theorem HandlerCode.plain_of_ofBody_leads {body : Body σ α} {call : HandlerCall σ π υ}
    {next : call.Answer → HandlerCode σ π υ α}
    (leads : (HandlerCode.ofBody body).Leads (.ask call next)) : call.isPlain = true := by
  obtain ⟨left, same⟩ := ofBody_leads leads
  cases left with
  | done => cases same
  | ask call follow =>
    cases same
    rfl

private theorem HandlerCall.not_quit_of_plain {call : HandlerCall σ π υ} (plain : call.isPlain = true) :
    call.isQuit = false := by
  cases call with
  | plain => rfl
  | post | waitSelf | addTimer | addCallback | cancelTimer | freshTimer | armedCount | quit | isQuitting
    | tickPriority | pending | isClosed | userData | setUserData => cases plain

namespace Task

/-- Whether no code of the handler runs at a place. -/
def Place.isQuiet : Place σ π ρ υ → Bool
  | .starting _ | .ticking .. | .callingBack .. | .handling .. | .exiting _ => false
  | .idle | .lost | .entering | .arming | .sweeping | .draining _ | .rearming .. | .receiving | .answering ..
    | .ordering .. | .closing | .abandoning .. | .disposing | .leaving | .reporting | .ended => true

/-- The code that runs at a place is what is left of the handler's code for the activity, and the
service ends with it when the handler has asked for that or the message does. -/
inductive Doing (handler : Handler σ π ρ υ) (quitting asked : Bool) :
    Option (Activity σ π) → Place σ π ρ υ → Prop
  | starting (rest : HandlerCode σ π υ Unit) (leads : handler.onStart.Leads rest)
      (ends : quitting = asked) : Doing handler quitting asked (some .starting) (.starting rest)
  | ticking (now : Instant) (timer : Timer σ) (message : Message π)
      (rest : HandlerCode σ π υ (Option ρ)) (leads : (handler.handle message).Leads rest)
      (tick : message.kind.isQuit = false) (ends : quitting = asked) :
      Doing handler quitting asked (some (.handling none message)) (.ticking now timer rest)
  | callingBack (now : Instant) (timer : Timer σ) (tick : Tick) (body : Body σ Unit)
      (rest : HandlerCode σ π υ Unit) (leads : (HandlerCode.ofBody body).Leads rest)
      (goesOn : quitting = false) (unasked : asked = false) :
      Doing handler quitting asked (some (.callingBack tick)) (.callingBack now timer rest)
  | handling (entry : Queue.Entry (Parcel (Command σ π))) (message : Message π)
      (rest : HandlerCode σ π υ (Option ρ)) (item : entry.item.item = .deliver message)
      (leads : (handler.handle message).Leads rest) (ends : quitting = (asked || message.kind.isQuit)) :
      Doing handler quitting asked (some (.handling (some entry) message)) (.handling entry.item.slot rest)
  | exiting (rest : HandlerCode σ π υ Unit) (leads : (HandlerCode.ofBody handler.onExit).Leads rest)
      (unasked : asked = false) : Doing handler quitting asked (some .exiting) (.exiting rest)
  | nothing (place : Place σ π ρ υ) (quiet : place.isQuiet = true) :
      Doing handler quitting asked none place

private theorem Place.Passes.quiet {quitting : Bool} {place after : Place σ π ρ υ}
    (passes : place.Passes quitting after) : place.isQuiet = true ∧ after.isQuiet = true := by
  cases passes with
  | rearmed | answered => cases quitting <;> exact ⟨rfl, rfl⟩
  | lost | begun | entered | swept | drained | ordered => exact ⟨rfl, rfl⟩

variable {handler : Handler σ π ρ υ} {quitting asked : Bool} {activity : Option (Activity σ π)}
  {place after : Place σ π ρ υ}

theorem Doing.of_quiet (doing : Doing handler quitting asked activity place)
    (quiet : place.isQuiet = true) : activity = none := by
  cases doing with
  | nothing => rfl
  | starting | ticking | callingBack | handling | exiting => cases quiet

private theorem Doing.ask (doing : Doing handler quitting asked activity place) {call : HandlerCall σ π υ}
    {resume : call.Answer → Place σ π ρ υ} (asks : place.Asks call resume) (answer : call.Answer) :
    Doing handler (quitting || call.isQuit) (asked || call.isQuit) activity (resume answer) := by
  cases asks with
  | starting next =>
    cases doing with
    | starting _ leads ends => exact .starting _ (leads.next answer) (by rw [ends])
    | nothing _ quiet => cases quiet
  | ticking now timer next =>
    cases doing with
    | ticking _ _ message _ leads tick ends =>
      exact .ticking now timer message _ (leads.next answer) tick (by rw [ends])
    | nothing _ quiet => cases quiet
  | callingBack now timer next =>
    cases doing with
    | callingBack _ _ tick body _ leads goesOn unasked =>
      have calm := HandlerCall.not_quit_of_plain (HandlerCode.plain_of_ofBody_leads leads)
      exact .callingBack now timer tick body _ (leads.next answer) (by rw [goesOn, calm]; rfl)
        (by rw [unasked, calm]; rfl)
    | nothing _ quiet => cases quiet
  | handling slot next =>
    cases doing with
    | handling entry message _ item leads ends =>
      refine .handling entry message _ item (leads.next answer) ?_
      rw [ends, Bool.or_assoc, Bool.or_assoc, Bool.or_comm call.isQuit]
    | nothing _ quiet => cases quiet
  | exiting next =>
    cases doing with
    | exiting _ leads unasked =>
      have calm := HandlerCall.not_quit_of_plain (HandlerCode.plain_of_ofBody_leads leads)
      exact .exiting _ (leads.next answer) (by rw [unasked, calm]; rfl)
    | nothing _ quiet => cases quiet

theorem Place.Ends.quiet {ending : Ending (Option ρ)} (ends : place.Ends quitting ending after) :
    place.isQuiet = false ∧ after.isQuiet = true := by
  cases ends with
  | starting => cases quitting <;> exact ⟨rfl, rfl⟩
  | ticking | callingBack | handling | exiting => exact ⟨rfl, rfl⟩

private theorem Doing.of_loud (doing : Doing handler quitting asked activity place)
    (loud : place.isQuiet = false) : ∃ current, activity = some current := by
  cases doing with
  | nothing _ quiet =>
    rw [loud] at quiet
    cases quiet
  | starting | ticking | callingBack | handling | exiting => exact ⟨_, rfl⟩

private theorem Doing.fire (task : Task σ π ρ υ) (now : Instant) (firing : TimerSet.Firing σ) :
    Doing task.handler false false (some (task.activityOf firing)) (task.fire now firing) := by
  unfold activityOf Task.fire
  cases firing.timer.action with
  | dispatch => exact .ticking now firing.timer _ _ .refl rfl rfl
  | callback run => exact .callingBack now firing.timer firing.tick _ _ .refl rfl rfl

/-- What the thread does agrees with the diary. -/
def Engaged (task : Task σ π ρ υ) (diary : Diary σ π ρ) : Prop :=
  Doing task.handler task.quitting diary.asked diary.activity task.place

variable {task next : Task σ π ρ υ} {diary later : Diary σ π ρ}

private theorem Engaged.quiet (engaged : Engaged task diary) (before : task.place.isQuiet = true)
    (handler : next.handler = task.handler) (activity : later.activity = diary.activity)
    (quiet : next.place.isQuiet = true) : Engaged next later := by
  have idle : later.activity = none := activity.trans (Doing.of_quiet engaged before)
  rw [Engaged, idle, handler]
  exact .nothing _ quiet

theorem Engaged.loud (engaged : Engaged task diary) (loud : task.place.isQuiet = false) :
    ∃ activity, diary.activity = some activity := Doing.of_loud engaged loud

private theorem afterCall_quiet (task : Task σ π ρ υ) : task.afterCall.isQuiet = true := by
  unfold afterCall
  split <;> rfl

theorem reply_activity (diary : Diary σ π ρ) (slot : Nat) (response : Response ρ) :
    (reply diary slot response).activity = diary.activity := by cases response <;> rfl

theorem ask_activity (diary : Diary σ π ρ) (call : HandlerCall σ π υ) :
    (diary.ask call).activity = diary.activity := by cases call <;> rfl

private theorem ask_asked (diary : Diary σ π ρ) (call : HandlerCall σ π υ) :
    (diary.ask call).asked = (diary.asked || call.isQuit) := by
  cases call <;> simp [Diary.ask, HandlerCall.isQuit, Diary.deal]

theorem Engaged.step (engaged : Engaged task diary) (step : Step task diary next later) :
    Engaged next later := by
  cases step with
  | aside life surface abandoned disposals stays => exact engaged
  | dealt move outer => exact engaged
  | passed life timers abandoned disposals place passes =>
    exact engaged.quiet passes.quiet.1 rfl rfl passes.quiet.2
  | woundDown life disposals place winds ends =>
    refine engaged.quiet ?_ rfl rfl ?_
    · generalize task.place = before at winds
      cases winds <;> rfl
    · generalize task.place = before at winds
      cases winds <;> rfl
  | started timers arming => exact .starting _ .refl rfl
  | asked call resume asks answer surface timers userData untimed =>
    rw [Engaged, ask_activity, ask_asked]
    exact Doing.ask engaged asks answer
  | ended ending place ends =>
    obtain ⟨activity, current⟩ := engaged.loud ends.quiet.1
    rw [Engaged, Diary.finish, current]
    exact .nothing place ends.quiet.2
  | fired now firing timers draining => exact .fire task now firing
  | waited waiting place receiving goes =>
    refine engaged.quiet (by rw [receiving]; rfl) rfl rfl ?_
    rcases goes with rfl | rfl <;> rfl
  | took entry queue waiting message receiving popped item =>
    exact .handling entry message _ item .refl (Bool.false_or _).symm
  | ordered entry queue waiting receiving popped command =>
    exact engaged.quiet (by rw [receiving]; rfl) rfl rfl rfl
  | answered slot ending answering =>
    exact engaged.quiet (by rw [answering]; rfl) rfl (reply_activity diary slot _) (afterCall_quiet task)
  | closed closing => exact engaged.quiet (by rw [closing]; rfl) rfl rfl rfl
  | told slot slots dropped abandoning => exact engaged.quiet (by rw [abandoning]; rfl) rfl rfl rfl
  | exited dropped abandoning => exact .exiting _ .refl rfl

end Task

end TaskKernel
