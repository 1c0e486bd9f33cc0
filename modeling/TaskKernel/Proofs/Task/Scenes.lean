import TaskKernel.Proofs.Task.Service

/-!
What a call of the handler makes of its state, when the handler neither posts to its own queue nor arms timers.
Who else acts in the meantime makes no difference, so that one call of the handler after the other makes up the
state of the task.
-/
namespace TaskKernel

variable {σ π ρ υ α : Type}

/-- What such a handler changes with its calls. -/
structure Scene (σ υ : Type) where
  state : σ
  userData : Option υ
  quits : Bool

/-- What a handler finds out of its task. -/
structure Outlook where
  handle : ThreadHandle
  name : String
  tickPriority : Priority
  pending : Nat
  closed : Bool

namespace Outlook

def serving (outlook : Outlook) (pending : Nat) : Outlook := { outlook with pending, closed := false }

def leaving (outlook : Outlook) : Outlook := { outlook with pending := 0, closed := true }

end Outlook

namespace HandlerCall

/-- Whether a call neither posts nor arms a timer. A wait on the task's own queue is always refused. -/
def isSilent : HandlerCall σ π υ → Bool
  | .post _ | .addTimer .. | .addCallback .. => false
  | .plain _ | .waitSelf .. | .cancelTimer _ | .freshTimer | .armedCount | .quit | .isQuitting | .tickPriority
    | .pending | .isClosed | .userData | .setUserData _ => true

/-- How a call is answered in a task without timers, and what it leaves. What the clock shows and which number a
timer would get is for others to say. -/
inductive Yields (outlook : Outlook) (scene : Scene σ υ) :
    (call : HandlerCall σ π υ) → call.Answer → Scene σ υ → Prop
  | state : Yields outlook scene (.plain .state) scene.state scene
  | setState (value : σ) : Yields outlook scene (.plain (.setState value)) () { scene with state := value }
  | record (level : Log.Level) (text : String) : Yields outlook scene (.plain (.record level text)) () scene
  | identity : Yields outlook scene (.plain .identity) outlook.handle scene
  | name : Yields outlook scene (.plain .name) outlook.name scene
  | now (instant : Instant) : Yields outlook scene (.plain .now) instant scene
  | sleep (delay : Delay) : Yields outlook scene (.plain (.sleep delay)) () scene
  | pause : Yields outlook scene (.plain .pause) () scene
  | waitSelf (message : Message π) (timeout : Option Delay) : Yields outlook scene (.waitSelf message timeout)
      (Task.ownQueue outlook.handle (Task.waitOperation timeout)).1 scene
  | cancelTimer (id : TimerId) : Yields outlook scene (.cancelTimer id) false scene
  | freshTimer (id : TimerId) : Yields outlook scene .freshTimer id scene
  | armedCount : Yields outlook scene .armedCount (0 : Nat) scene
  | quit : Yields outlook scene .quit () { scene with quits := true }
  | isQuitting : Yields outlook scene .isQuitting scene.quits scene
  | tickPriority : Yields outlook scene .tickPriority outlook.tickPriority scene
  | pending : Yields outlook scene .pending outlook.pending scene
  | isClosed : Yields outlook scene .isClosed outlook.closed scene
  | userData : Yields outlook scene .userData scene.userData scene
  | setUserData (data : υ) : Yields outlook scene (.setUserData data) () { scene with userData := some data }

end HandlerCall

namespace HandlerCode

/-- The code never posts and never arms a timer. -/
def Silent (code : HandlerCode σ π υ α) : Prop :=
  ∀ call next, code.Leads (.ask call next) → call.isSilent = true

theorem ofBody_silent (body : Body σ α) : Silent (ofBody body : HandlerCode σ π υ α) := by
  intro call next leads
  have plain := plain_of_ofBody_leads leads
  cases call with
  | plain => rfl
  | post | waitSelf | addTimer | addCallback | cancelTimer | freshTimer | armedCount | quit | isQuitting
    | tickPriority | pending | isClosed | userData | setUserData => cases plain

/-- Some calls of the code are answered, one after the other. -/
inductive Performs (outlook : Outlook) (code : HandlerCode σ π υ α) (scene : Scene σ υ) :
    HandlerCode σ π υ α → Scene σ υ → Prop
  | refl : Performs outlook code scene code scene
  | next {call : HandlerCall σ π υ} {next : call.Answer → HandlerCode σ π υ α} {before after : Scene σ υ}
      {answer : call.Answer} (performs : Performs outlook code scene (.ask call next) before)
      (yields : call.Yields outlook before answer after) : Performs outlook code scene (next answer) after

/-- The code comes to an end in this way and leaves this behind. -/
def Plays (outlook : Outlook) (code : HandlerCode σ π υ α) (scene : Scene σ υ) (ending : Ending α)
    (after : Scene σ υ) : Prop :=
  ∃ rest : HandlerCode σ π υ α, code.Performs outlook scene rest after ∧ rest.ending? = some ending

variable {outlook : Outlook} {code rest : HandlerCode σ π υ α} {scene after : Scene σ υ}

theorem Performs.leads (performs : code.Performs outlook scene rest after) : code.Leads rest := by
  induction performs with
  | refl => exact .refl
  | next _ _ ih => exact ih.next _

theorem Performs.silent (performs : code.Performs outlook scene rest after) (silent : code.Silent) :
    ∀ call next, rest = .ask call next → call.isSilent = true := by
  rintro call next rfl
  exact silent call next performs.leads

private theorem Performs.of_done {value : α} (performs : HandlerCode.Performs outlook (.done value) scene rest after) :
    rest = .done value ∧ after = scene := by
  induction performs with
  | refl => exact ⟨rfl, rfl⟩
  | next _ _ ih => cases ih.1

private theorem Performs.of_ask {call : HandlerCall σ π υ} {next : call.Answer → HandlerCode σ π υ α}
    (performs : HandlerCode.Performs outlook (.ask call next) scene rest after) :
    (rest = .ask call next ∧ after = scene) ∨ ∃ answer middle, call.Yields outlook scene answer middle ∧
      (next answer).Performs outlook middle rest after := by
  induction performs with
  | refl => exact .inl ⟨rfl, rfl⟩
  | next _ yields ih =>
    rcases ih with ⟨same, rfl⟩ | ⟨answer, middle, first, others⟩
    · cases same
      exact .inr ⟨_, _, yields, .refl⟩
    · exact .inr ⟨answer, middle, first, others.next yields⟩

variable {ending : Ending α}

theorem Plays.of_done {value : α}
    (plays : HandlerCode.Plays outlook (.done value : HandlerCode σ π υ α) scene ending after) :
    ending = .returned value ∧ after = scene := by
  obtain ⟨rest, performs, ended⟩ := plays
  obtain ⟨rfl, rfl⟩ := performs.of_done
  cases ended
  exact ⟨rfl, rfl⟩

theorem Plays.of_ask {call : HandlerCall σ π υ} {next : call.Answer → HandlerCode σ π υ α}
    (plays : HandlerCode.Plays outlook (.ask call next) scene ending after)
    (calm : ∀ cause, call ≠ .plain (.panic cause)) :
    ∃ answer middle, call.Yields outlook scene answer middle ∧ (next answer).Plays outlook middle ending after := by
  obtain ⟨rest, performs, ended⟩ := plays
  rcases performs.of_ask with ⟨rfl, _⟩ | ⟨answer, middle, yields, others⟩
  · rw [Task.unended_of_calm calm] at ended
    cases ended
  · exact ⟨answer, middle, yields, rest, others, ended⟩

theorem Plays.of_panic {cause : Panic} {next : Call.Answer (.panic cause : Call σ) → HandlerCode σ π υ α}
    (plays : HandlerCode.Plays outlook (.ask (.plain (.panic cause)) next) scene ending after) :
    ending = .panicked cause ∧ after = scene := by
  obtain ⟨rest, performs, ended⟩ := plays
  rcases performs.of_ask with ⟨rfl, rfl⟩ | ⟨answer, _⟩
  · cases ended
    exact ⟨rfl, rfl⟩
  · exact answer.elim

end HandlerCode

namespace Task

def scene (task : Task σ π ρ υ) : Scene σ υ := ⟨task.surface.state, task.userData, task.quitting⟩

def outlook (task : Task σ π ρ υ) : Outlook :=
  ⟨task.life.handle, task.life.name, task.tickPriority, task.exchange.queue.size, task.exchange.queue.closed⟩

variable {task : Task σ π ρ υ} {now : Instant} {given : Nat} {progress : Progress σ π ρ υ}

private theorem serve_yields (untimed : task.timers = TimerSet.empty) {call : HandlerCall σ π υ}
    (silent : call.isSilent = true) {answer : call.Answer}
    (served : task.serve now given call = .answered answer progress) :
    ∃ (surface : Surface σ) (userData : Option υ) (quitting : Bool),
      call.Yields task.outlook task.scene answer ⟨surface.state, userData, quitting⟩ ∧
        progress.task = { task with surface, userData, quitting } := by
  cases call with
  | plain call =>
    refine ⟨progress.task.surface, task.userData, task.quitting, ?_⟩
    cases call with
    | state | setState | record | identity | name | now =>
      cases served
      exact ⟨by constructor, rfl⟩
    | sleep delay =>
      simp only [serve, Surface.serve] at served
      cases wake : task.surface.wake with
      | none => simp [wake] at served
      | some instant =>
        rw [wake] at served
        by_cases past : instant ≤ now
        · simp only [if_pos past] at served
          cases served
          exact ⟨.sleep delay, rfl⟩
        · simp [if_neg past] at served
    | pause =>
      simp only [serve, Surface.serve] at served
      by_cases none : task.surface.permits = 0
      · simp [if_pos none] at served
      · simp only [if_neg none] at served
        cases served
        exact ⟨.pause, rfl⟩
    | panic cause => exact answer.elim
  | post | addTimer | addCallback => cases silent
  | cancelTimer id =>
    have unknown : task.timers.cancel id = (false, task.timers) := by rw [untimed]; rfl
    simp only [serve, unknown] at served
    cases served
    exact ⟨task.surface, task.userData, task.quitting, .cancelTimer id, rfl⟩
  | armedCount =>
    simp only [serve, untimed] at served
    cases served
    exact ⟨task.surface, task.userData, task.quitting, .armedCount, rfl⟩
  | quit =>
    cases served
    exact ⟨task.surface, task.userData, true, .quit, rfl⟩
  | setUserData data =>
    cases served
    exact ⟨task.surface, some data, task.quitting, .setUserData data, rfl⟩
  | waitSelf | freshTimer | isQuitting | tickPriority | pending | isClosed | userData =>
    cases served
    exact ⟨task.surface, task.userData, task.quitting, by constructor, rfl⟩

/-- A step of the handler's code: it ends, or one call is answered, or a sleep begins. -/
inductive Plods (task : Task σ π ρ υ) (rest : HandlerCode σ π υ α) (resume : HandlerCode σ π υ α → Place σ π ρ υ)
    (finish : Ending α → Place σ π ρ υ × List Effect) : Task σ π ρ υ → Prop
  | ends (ending : Ending α) (ended : rest.ending? = some ending) :
      Plods task rest resume finish { task with place := (finish ending).1 }
  | answered (call : HandlerCall σ π υ) (next : call.Answer → HandlerCode σ π υ α) (answer : call.Answer)
      (surface : Surface σ) (userData : Option υ) (quitting : Bool) (asks : rest = .ask call next)
      (goesOn : rest.ending? = none)
      (yields : call.Yields task.outlook task.scene answer ⟨surface.state, userData, quitting⟩) :
      Plods task rest resume finish { task with surface, userData, quitting, place := resume (next answer) }
  | sleeps (surface : Surface σ) (goesOn : rest.ending? = none) (same : surface.state = task.surface.state) :
      Plods task rest resume finish { task with surface }

theorem advance_plods (untimed : task.timers = TimerSet.empty) {rest : HandlerCode σ π υ α}
    (silent : ∀ call next, rest = .ask call next → call.isSilent = true)
    {resume : HandlerCode σ π υ α → Place σ π ρ υ} {finish : Ending α → Place σ π ρ υ × List Effect}
    (advanced : task.advance now given rest resume finish = some progress) :
    Plods task rest resume finish progress.task := by
  cases rest with
  | done value =>
    cases advanced
    exact .ends (.returned value) rfl
  | ask call next =>
    simp only [advance] at advanced
    split at advanced
    · rename_i answer served result
      obtain ⟨surface, userData, quitting, yields, after⟩ := serve_yields untimed (silent call next rfl) result
      cases advanced
      rw [after]
      exact .answered call next answer surface userData quitting rfl
        (unended_of_calm (calm_of_answered answer)) yields
    · rename_i after begun
      obtain ⟨delay, rfl, _, rfl⟩ := serve_begun begun
      cases advanced
      exact .sleeps _ (unended_of_calm fun cause => by simp) rfl
    · cases advanced
    · rename_i cause panicked
      cases serve_panicked panicked
      cases advanced
      exact .ends (.panicked cause) rfl

theorem call_of_ended {diary : Diary σ π ρ} {rest : HandlerCode σ π υ α} {ending : Ending α}
    (ended : rest.ending? = some ending) (reply : α → Option ρ) :
    diary.call rest reply = diary.finish (ending.map reply) := by
  unfold HandlerCode.ending? at ended
  split at ended <;> cases ended <;> rfl

theorem call_of_unended (diary : Diary σ π ρ) {rest : HandlerCode σ π υ α} (goesOn : rest.ending? = none)
    (reply : α → Option ρ) :
    (diary.call rest reply).history = diary.history ∧ (diary.call rest reply).activity = diary.activity := by
  cases rest with
  | done => cases goesOn
  | ask call next =>
    rw [call_of_ask reply goesOn]
    exact ⟨ask_history diary call, ask_activity diary call⟩

end Task

end TaskKernel
