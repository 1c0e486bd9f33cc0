import TaskKernel.Proofs.Queue.Sections
import TaskKernel.Task

/-!
Everything that the serving thread can do in one step, with what it found and what it leaves behind. What
is kept by all these turns is kept by the thread.
-/
namespace TaskKernel.Task

variable {σ π ρ υ α : Type} {task : Task σ π ρ υ} {now : Instant} {given : Nat}

/-- The thread is in code of the handler. `resume` says where it stands with the rest of the code, and
`finish` where it goes from the end and what it records. -/
inductive InCode (task : Task σ π ρ υ) : {α : Type} → HandlerCode σ π υ α →
    (HandlerCode σ π υ α → Place σ π ρ υ) → (Ending α → Place σ π ρ υ × List Effect) → Prop
  | starting (rest : HandlerCode σ π υ Unit) (place : task.place = .starting rest) :
      InCode task rest .starting fun ending =>
        (task.afterCall, task.panicRecord "on_start" ending ++ [task.named .debug " serving"])
  | ticking (began : Instant) (timer : Timer σ) (rest : HandlerCode σ π υ (Option ρ))
      (place : task.place = .ticking began timer rest) :
      InCode task rest (.ticking began timer) fun ending =>
        (.rearming began timer, task.panicRecord "handler" ending)
  | callingBack (began : Instant) (timer : Timer σ) (rest : HandlerCode σ π υ Unit)
      (place : task.place = .callingBack began timer rest) :
      InCode task rest (.callingBack began timer) fun ending =>
        (.rearming began timer, task.panicRecord (timer.id.text ++ " callback") ending)
  | handling (slot : Option Nat) (rest : HandlerCode σ π υ (Option ρ)) (place : task.place = .handling slot rest) :
      InCode task rest (.handling slot) fun ending =>
        (.answering slot (responseOf ending), task.panicRecord "handler" ending)
  | exiting (rest : HandlerCode σ π υ Unit) (place : task.place = .exiting rest) :
      InCode task rest .exiting fun ending =>
        (.disposing, task.panicRecord "on_exit" ending ++ [task.named .debug " stopped"])

theorem InCode.step?_eq {rest : HandlerCode σ π υ α} {resume : HandlerCode σ π υ α → Place σ π ρ υ}
    {finish : Ending α → Place σ π ρ υ × List Effect} (inside : task.InCode rest resume finish) (now : Instant)
    (given : Nat) : task.step? now given = task.advance now given rest resume finish := by
  cases inside with
  | starting rest place | ticking began timer rest place | callingBack began timer rest place
    | handling slot rest place | exiting rest place => simp only [step?, place]

/-- A step of the serving thread. -/
inductive Turn (task : Task σ π ρ υ) (now : Instant) (given : Nat) : Progress σ π ρ υ → Prop
  | entered (place : task.place = .entering) :
      Turn task now given ⟨{ task with place := .arming }, given, task.life.enterEffects⟩
  | started (place : task.place = .arming) (initial : task.initial = none) :
      Turn task now given
        ⟨{ task with
          initial := none
          quitting := false
          place := .starting task.handler.onStart }, given, []⟩
  | armed (timer : Timer σ) (place : task.place = .arming) (initial : task.initial = some timer) :
      Turn task now given
        ⟨{ task with
          timers := task.timers.arm timer now
          initial := none
          quitting := false
          place := .starting task.handler.onStart }, given, []⟩
  | ran {α : Type} {rest : HandlerCode σ π υ α} {resume : HandlerCode σ π υ α → Place σ π ρ υ}
      {finish : Ending α → Place σ π ρ υ × List Effect} (inside : task.InCode rest resume finish)
      {progress : Progress σ π ρ υ} (advanced : task.advance now given rest resume finish = some progress) :
      Turn task now given progress
  | swept (place : task.place = .sweeping) :
      Turn task now given ⟨{ task with place := .draining now }, given, []⟩
  | drained (began : Instant) (place : task.place = .draining began) (due : task.timers.fire? began = none) :
      Turn task now given ⟨{ task with place := .receiving }, given, []⟩
  | fired (began : Instant) (firing : TimerSet.Firing σ) (timers : TimerSet σ) (place : task.place = .draining began)
      (due : task.timers.fire? began = some (firing, timers)) :
      Turn task now given
        ⟨{ task with timers, quitting := false, place := task.fire began firing }, given,
          [task.firedRecord firing.tick]⟩
  | rearmed (began : Instant) (timer : Timer σ) (place : task.place = .rearming began timer) :
      Turn task now given
        ⟨{ task with
          timers := task.timers.finish timer now
          place := if task.quitting then .closing else .draining began }, given, []⟩
  | took (entry : Queue.Entry (Parcel (Command σ π))) (queue : Queue (Parcel (Command σ π)))
      (place : task.place = .receiving) (popped : task.exchange.queue.pop? = some (entry, queue))
      (received : task.exchange.receive consumer task.timers.nextDeadline? =
        (.received entry, { task.exchange with queue, waiting := task.exchange.waiting.leave consumer })) :
      Turn task now given
        ⟨take { task with exchange :=
          { task.exchange with queue, waiting := task.exchange.waiting.leave consumer } } entry.item, given, []⟩
  | gaveUp (place : task.place = .receiving) (empty : task.exchange.queue.pop? = none)
      (futile : task.exchange.queue.closed = true ∨ task.exchange.waiting.stance? consumer = some .expired)
      (received : task.exchange.receive consumer task.timers.nextDeadline? =
        (.nothing, { task.exchange with waiting := task.exchange.waiting.leave consumer })) :
      Turn task now given
        ⟨{ task with
          exchange := { task.exchange with waiting := task.exchange.waiting.leave consumer }
          place := .sweeping }, given, []⟩
  | parked (place : task.place = .receiving) (empty : task.exchange.queue.pop? = none)
      (unclosed : task.exchange.queue.closed = false)
      (unexpired : task.exchange.waiting.stance? consumer ≠ some .expired)
      (received : task.exchange.receive consumer task.timers.nextDeadline? =
        (.parked, { task.exchange with
          waiting := task.exchange.waiting.park consumer (Sync.limit task.timers.nextDeadline?) })) :
      Turn task now given
        ⟨{ task with
          exchange := { task.exchange with
            waiting := task.exchange.waiting.park consumer (Sync.limit task.timers.nextDeadline?) }
          place := .receiving }, given, []⟩
  | answered (slot : Option Nat) (response : Response ρ) (place : task.place = .answering slot response) :
      Turn task now given
        ⟨{ task with exchange := task.exchange.answer slot response, place := task.afterCall }, given, []⟩
  | ordered (slot : Option Nat) (command : Command σ π) (place : task.place = .ordering slot command) :
      Turn task now given
        ⟨{ (task.order now command).1 with
          exchange := (task.order now command).1.exchange.answer slot .abandoned
          place := .sweeping }, given, (task.order now command).2⟩
  | closed (place : task.place = .closing) :
      Turn task now given
        ⟨{ task with
          timers := task.timers.clear
          exchange := task.exchange.close.2
          place := .abandoning (Exchange.slotsOf task.exchange.close.1) task.exchange.close.1.length }, given, []⟩
  | told (slot : Nat) (slots : List Nat) (dropped : Nat) (place : task.place = .abandoning (slot :: slots) dropped) :
      Turn task now given
        ⟨{ task with
          exchange := task.exchange.fill slot .abandoned
          place := .abandoning slots dropped }, given, []⟩
  | exited (dropped : Nat) (place : task.place = .abandoning [] dropped) :
      Turn task now given
        ⟨{ task with place := .exiting (HandlerCode.ofBody task.handler.onExit) }, given,
          if dropped = 0 then [] else
            [task.named .debug (": dropped " ++ toString dropped ++ " pending messages")]⟩
  | disposed (place : task.place = .disposing) :
      Turn task now given
        ⟨{ task with
          place := .leaving
          disposals := if task.life.detached then task.disposals + 1 else task.disposals }, given, []⟩
  | left (life : Lifecycle) (place : task.place = .leaving) (terminated : task.life.terminate? = some life) :
      Turn task now given ⟨{ task with life, place := .reporting }, given, []⟩
  | reported (place : task.place = .reporting) :
      Turn task now given
        ⟨{ task with
          place := .ended
          disposals := if task.abandoned && !task.life.detached then task.disposals + 1 else task.disposals },
          given, [task.life.terminatedEffect]⟩

variable {progress : Progress σ π ρ υ}

private theorem receive_turn (place : task.place = .receiving) (stepped : task.step? now given = some progress) :
    task.Turn now given progress := by
  simp only [step?, place] at stepped
  rcases task.exchange.receive_cases consumer task.timers.nextDeadline? with ⟨parked, _⟩ |
    ⟨awake, ⟨entry, queue, popped, received⟩ | ⟨empty, futile, received⟩ | ⟨empty, unclosed, unexpired, received⟩⟩
  · rw [if_pos parked] at stepped
    cases stepped
  · rw [if_neg awake, received] at stepped
    cases stepped
    exact .took entry queue place popped received
  · rw [if_neg awake, received] at stepped
    cases stepped
    exact .gaveUp place empty futile received
  · rw [if_neg awake, received] at stepped
    cases stepped
    exact .parked place empty unclosed unexpired received

/-- Every step of the thread is one of the turns. -/
theorem turn_of_step? (stepped : task.step? now given = some progress) : task.Turn now given progress := by
  cases place : task.place with
  | receiving => exact receive_turn place stepped
  | idle | lost | ended => simp [step?, place] at stepped
  | entering =>
    simp only [step?, place] at stepped
    cases stepped
    exact .entered place
  | arming =>
    simp only [step?, place] at stepped
    cases initial : task.initial with
    | none =>
      rw [initial] at stepped
      cases stepped
      exact .started place initial
    | some timer =>
      rw [initial] at stepped
      cases stepped
      exact .armed timer place initial
  | starting rest =>
    have inside : task.InCode rest _ _ := .starting rest place
    exact .ran inside (inside.step?_eq now given ▸ stepped)
  | sweeping =>
    simp only [step?, place] at stepped
    cases stepped
    exact .swept place
  | draining began =>
    simp only [step?, place] at stepped
    cases due : task.timers.fire? began with
    | none =>
      rw [due] at stepped
      cases stepped
      exact .drained began place due
    | some fired =>
      rw [due] at stepped
      cases stepped
      exact .fired began fired.1 fired.2 place due
  | ticking began timer rest =>
    have inside : task.InCode rest _ _ := .ticking began timer rest place
    exact .ran inside (inside.step?_eq now given ▸ stepped)
  | callingBack began timer rest =>
    have inside : task.InCode rest _ _ := .callingBack began timer rest place
    exact .ran inside (inside.step?_eq now given ▸ stepped)
  | rearming began timer =>
    simp only [step?, place] at stepped
    cases stepped
    exact .rearmed began timer place
  | handling slot rest =>
    have inside : task.InCode rest _ _ := .handling slot rest place
    exact .ran inside (inside.step?_eq now given ▸ stepped)
  | answering slot response =>
    simp only [step?, place] at stepped
    cases stepped
    exact .answered slot response place
  | ordering slot command =>
    simp only [step?, place] at stepped
    cases stepped
    exact .ordered slot command place
  | closing =>
    simp only [step?, place] at stepped
    cases stepped
    exact .closed place
  | abandoning slots dropped =>
    cases slots with
    | nil =>
      simp only [step?, place] at stepped
      cases stepped
      exact .exited dropped place
    | cons slot slots =>
      simp only [step?, place] at stepped
      cases stepped
      exact .told slot slots dropped place
  | exiting rest =>
    have inside : task.InCode rest _ _ := .exiting rest place
    exact .ran inside (inside.step?_eq now given ▸ stepped)
  | disposing =>
    simp only [step?, place] at stepped
    cases stepped
    exact .disposed place
  | leaving =>
    simp only [step?, place, Option.map_eq_some_iff] at stepped
    obtain ⟨life, terminated, rfl⟩ := stepped
    exact .left life place terminated
  | reporting =>
    simp only [step?, place] at stepped
    cases stepped
    exact .reported place

end TaskKernel.Task
