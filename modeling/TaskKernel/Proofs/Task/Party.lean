import TaskKernel.Proofs.Task.Progress
import TaskKernel.Proofs.Thread.Naming

/-!
The threads that a program makes, plain ones and those that serve a queue, as far as identities go. Each
has been given its identity when it was made, and binds it with the first step of its native thread.
-/
namespace TaskKernel

variable {σ π ρ υ α β : Type}

/-- Whether the native thread has got as far as the code of its body. -/
def Native.hasEntered : Native σ α → Bool
  | absent | entering _ => false
  | joinable _ | detached _ | leaving _ | reporting _ | ended _ => true

/-- Whether the serving thread has got as far as the code of the handler. -/
def Task.Place.hasEntered : Task.Place σ π ρ υ → Bool
  | idle | lost | entering => false
  | arming | starting _ | sweeping | draining _ | ticking .. | callingBack .. | rearming .. | receiving
  | handling .. | answering .. | ordering .. | closing | abandoning .. | exiting _ | disposing | leaving
  | reporting | ended => true

/-- A thread that a program has made. -/
inductive Party : Type 1
  | ofThread {σ α : Type} (thread : Thread σ α)
  | ofTask {σ π ρ υ : Type} (task : Task σ π ρ υ)

namespace Party

/-- The identity that the thread has been given. -/
def handle : Party → ThreadHandle
  | ofThread thread => thread.life.handle
  | ofTask task => task.life.handle

def hasEntered : Party → Bool
  | ofThread thread => thread.native.hasEntered
  | ofTask task => task.place.hasEntered

/-- A body that has not been taken has no native thread. -/
def Sound : Party → Prop
  | ofThread thread => thread.body.isSome = true → thread.native = .absent
  | ofTask _ => True

/-- What leaves alone the identity of a thread and how far it has got, and binds none. -/
structure Aside (party after : Party) (effects : List Effect) : Prop where
  handle : after.handle = party.handle
  entered : after.hasEntered = party.hasEntered
  sound : party.Sound → after.Sound
  plain : ∀ effect ∈ effects, effect.isPlain = true

/-- What a step of its native thread makes of a thread, and what it does to the program. -/
inductive Change (party after : Party) (effects : List Effect) : Prop
  | aside (before : party.hasEntered = true) (aside : party.Aside after effects)
  | entering (handle : after.handle = party.handle) (before : party.hasEntered = false)
      (entered : after.hasEntered = true) (sound : party.Sound → after.Sound)
      (binding : ∃ rest, effects = .bindHandle party.handle :: rest ∧ ∀ effect ∈ rest, effect.isPlain = true)

variable {party after later : Party} {effects more : List Effect}

private theorem Change.plain (handle : after.handle = party.handle) (before : party.hasEntered = true)
    (still : after.hasEntered = true) (sound : party.Sound → after.Sound)
    (plain : ∀ effect ∈ effects, effect.isPlain = true) : party.Change after effects :=
  .aside before ⟨handle, still.trans before.symm, sound, plain⟩

theorem Aside.refl (party : Party) : party.Aside party [] := ⟨rfl, rfl, id, by simp⟩

private theorem Aside.quiet (aside : party.Aside after effects) : party.Aside after [] :=
    { aside with plain := by simp }

end Party

private theorem Surface.serve_plain {life : Lifecycle} {now : Instant} {surface after : Surface σ} {call : Call σ}
    {answer : call.Answer} {effects : List Effect}
    (served : surface.serve life now call = .answered answer after effects) :
    ∀ effect ∈ effects, effect.isPlain = true := by
  cases call with
  | record =>
    cases served
    simp [Effect.isPlain]
  | state | setState | identity | name | now =>
    cases served
    simp
  | sleep delay =>
    simp only [serve] at served
    split at served
    · cases served
    · split at served
      · cases served
        simp
      · cases served
  | pause =>
    simp only [serve] at served
    split at served
    · cases served
    · cases served
      simp
  | panic => cases served

namespace Thread

variable {thread after : Thread σ α} {effects : List Effect}

theorem begin_aside (thread : Thread σ α) (sound : (Party.ofThread thread).Sound) (detached : Bool) :
    Party.Aside (.ofThread thread) (.ofThread (thread.begin detached).2.1) (thread.begin detached).2.2 := by
  obtain ⟨handle, plain⟩ := thread.life.begin_plain detached thread.body.isSome
  unfold begin
  simp only
  split
  · rename_i body accepted taken has
    have absent := sound (by simp [has])
    refine .mk handle ?_ (fun _ taken => by cases taken) plain
    simp [Party.hasEntered, absent, Native.hasEntered]
  · exact .mk handle rfl (fun _ taken => by cases taken) plain
  · exact .mk handle rfl id plain

theorem join_aside (thread : Thread σ α) :
    Party.Aside (.ofThread thread) (.ofThread thread.join.2.1) thread.join.2.2 := by
  unfold join
  split
  · exact .mk rfl rfl (fun _ taken => by cases taken) (by simp [Lifecycle.neverStartedEffect, Effect.isPlain])
  · exact .mk rfl rfl id (by simp)
  · split <;> exact .mk rfl rfl id (by simp)

theorem setPriority_aside {priority : Priority} (changed : thread.setPriority priority = .ok (after, effects)) :
    Party.Aside (.ofThread thread) (.ofThread after) effects := by
  unfold setPriority at changed
  cases result : thread.life.setPriority priority with
  | error failure =>
    rw [result] at changed
    cases changed
  | ok life =>
    rw [result] at changed
    cases changed
    obtain ⟨handle, plain⟩ := Lifecycle.setPriority_plain result
    exact .mk handle rfl id plain

theorem abandon_aside (thread : Thread σ α) : Party.Aside (.ofThread thread) (.ofThread thread.abandon) [] := by
  unfold abandon
  split
  · exact .mk rfl rfl (fun _ taken => by cases taken) (by simp)
  · exact .mk rfl rfl id (by simp)

private theorem advance_change {now : Instant} {rest : Body σ β} {resume : Body σ β → Native σ α}
    {finish : Ending β → Option (Ending α)} (sound : (Party.ofThread thread).Sound)
    (entered : thread.native.hasEntered = true) (resumes : ∀ rest, (resume rest).hasEntered = true)
    (advanced : thread.advance now rest resume finish = some (after, effects)) :
    Party.Change (.ofThread thread) (.ofThread after) effects := by
  have taken : ¬ thread.body.isSome = true := fun some => by
    rw [sound some] at entered
    cases entered
  unfold advance at advanced
  split at advanced
  · cases advanced
    exact .plain rfl entered rfl (fun _ some => absurd some taken) (by simp)
  · split at advanced
    · rename_i served
      cases advanced
      exact .plain rfl entered (resumes _) (fun _ some => absurd some taken) (Surface.serve_plain served)
    · cases advanced
      exact .plain rfl entered entered (fun _ some => absurd some taken) (by simp)
    · cases advanced
    · cases advanced
      exact .plain rfl entered rfl (fun _ some => absurd some taken)
        (by simp [Lifecycle.panickedEffect, Effect.isPlain])

theorem step?_change {now : Instant} (sound : (Party.ofThread thread).Sound)
    (stepped : thread.step? now = some (after, effects)) :
    Party.Change (.ofThread thread) (.ofThread after) effects := by
  unfold step? at stepped
  split at stepped
  · cases stepped
  · cases stepped
  · rename_i runnable entering
    cases stepped
    refine .entering rfl ?_ ?_ (fun sound some => ?_) thread.life.enterEffects_eq
    · simp [Party.hasEntered, entering, Native.hasEntered]
    · simp only [Party.hasEntered]
      split <;> rfl
    · rw [sound some] at entering
      cases entering
  · rename_i rest native
    exact advance_change sound (by rw [native]; rfl) (fun _ => rfl) stepped
  · rename_i rest native
    exact advance_change sound (by rw [native]; rfl) (fun _ => rfl) stepped
  · rename_i ending leaving
    obtain ⟨life, ended, same⟩ := Option.map_eq_some_iff.mp stepped
    cases same
    obtain ⟨_, rfl⟩ := Lifecycle.terminate?_eq_some ended
    refine .plain rfl ?_ rfl (fun sound some => ?_) (by simp)
    · simp [Party.hasEntered, leaving, Native.hasEntered]
    · rw [sound some] at leaving
      cases leaving
  · rename_i ending reporting
    cases stepped
    refine .plain rfl ?_ rfl (fun sound some => ?_) (by simp [Lifecycle.terminatedEffect, Effect.isPlain])
    · simp [Party.hasEntered, reporting, Native.hasEntered]
    · rw [sound some] at reporting
      cases reporting

end Thread

namespace Task

variable {task after : Task σ π ρ υ} {now : Instant} {given : Nat} {progress : Progress σ π ρ υ}

private theorem begin_aside (task : Task σ π ρ υ) (detached : Bool) :
    Party.Aside (.ofTask task) (.ofTask (task.begin detached).2.1) (task.begin detached).2.2 := by
  obtain ⟨handle, plain⟩ := task.life.begin_plain detached task.hasHandler
  by_cases idle : task.place = .idle
  · unfold begin
    simp only
    split
    · exact .mk handle (by simp [Party.hasEntered, idle, Place.hasEntered]) id plain
    · exact .mk handle (by simp [Party.hasEntered, idle, Place.hasEntered]) id plain
    · exact .mk handle rfl id plain
  · have gone : task.hasHandler = false := by
      unfold hasHandler
      split
      · contradiction
      · rfl
    obtain ⟨refusal, effects, refused⟩ := task.life.begin_bodyless detached
    rw [gone, refused] at plain
    unfold begin
    simp only [gone, refused]
    exact .mk rfl rfl id plain

private theorem abandon_aside (task : Task σ π ρ υ) : Party.Aside (.ofTask task) (.ofTask task.abandon) [] := by
  unfold abandon
  split
  · rename_i idle
    exact .mk rfl (by simp [Party.hasEntered, idle, Place.hasEntered]) id (by simp)
  · exact .mk rfl rfl id (by simp)
  · exact .mk rfl rfl id (by simp)

private theorem join_aside (task : Task σ π ρ υ) :
    Party.Aside (.ofTask task) (.ofTask task.join.2.1) task.join.2.2 := by
  unfold join
  split
  · exact { abandon_aside task with plain := by simp [Lifecycle.neverStartedEffect, Effect.isPlain] }
  · exact abandon_aside task
  · split <;> exact .mk rfl rfl id (by simp)

private theorem setPriority_aside {priority : Priority} {effects : List Effect}
    (changed : task.setPriority priority = .ok (after, effects)) :
    Party.Aside (.ofTask task) (.ofTask after) effects := by
  unfold setPriority at changed
  cases result : task.life.setPriority priority with
  | error failure =>
    rw [result] at changed
    cases changed
  | ok life =>
    rw [result] at changed
    cases changed
    obtain ⟨handle, plain⟩ := Lifecycle.setPriority_plain result
    exact .mk handle rfl id plain

private theorem serve_change {call : HandlerCall σ π υ} {answer : call.Answer}
    (served : task.serve now given call = .answered answer progress) :
    progress.task.life = task.life ∧ ∀ effect ∈ progress.effects, effect.isPlain = true := by
  cases call with
  | plain call =>
    simp only [serve] at served
    split at served
    · rename_i served'
      cases served
      exact ⟨rfl, Surface.serve_plain served'⟩
    · cases served
    · cases served
    · cases served
  | post message =>
    simp only [serve] at served
    split at served <;> cases served <;> simp
  | waitSelf =>
    cases served
    simp [Effect.isPlain]
  | addTimer interval repeats =>
    simp only [serve, armNew] at served
    split at served <;> cases served <;> simp
  | addCallback interval repeats run =>
    simp only [serve, armNew] at served
    split at served <;> cases served <;> simp
  | cancelTimer | freshTimer | armedCount | quit | isQuitting | tickPriority | pending | isClosed | userData
    | setUserData =>
    cases served
    simp

private theorem begun_aside {call : HandlerCall σ π υ} (served : task.serve now given call = .begun after) :
    ∃ surface : Surface σ, after = { task with surface } := by
  cases call with
  | plain call =>
    simp only [serve] at served
    split at served <;> cases served
    exact ⟨_, rfl⟩
  | post message =>
    simp only [serve] at served
    split at served <;> cases served
  | waitSelf | addTimer | addCallback | cancelTimer | freshTimer | armedCount | quit | isQuitting | tickPriority
    | pending | isClosed | userData | setUserData => cases served

private theorem panicRecord_plain (task : Task σ π ρ υ) (what : String) (ending : Ending α) :
    ∀ effect ∈ task.panicRecord what ending, effect.isPlain = true := by
  cases ending <;> simp [panicRecord, named, Effect.isPlain]

section

variable {rest : HandlerCode σ π υ α} {resume : HandlerCode σ π υ α → Place σ π ρ υ}
  {finish : Ending α → Place σ π ρ υ × List Effect}

private theorem InCode.hasEntered (inside : task.InCode rest resume finish) : task.place.hasEntered = true := by
  cases inside with
  | starting rest place | ticking began timer rest place | callingBack began timer rest place
    | handling slot rest place | exiting rest place =>
    rw [place]
    rfl

private theorem InCode.resume_hasEntered (inside : task.InCode rest resume finish) (code : HandlerCode σ π υ α) :
    (resume code).hasEntered = true := by
  cases inside <;> rfl

private theorem InCode.finish_hasEntered (inside : task.InCode rest resume finish) (ending : Ending α) :
    (finish ending).1.hasEntered = true := by
  cases inside with
  | starting =>
    simp only [afterCall]
    split <;> rfl
  | ticking | callingBack | handling | exiting => rfl

private theorem InCode.finish_plain (inside : task.InCode rest resume finish) (ending : Ending α) :
    ∀ effect ∈ (finish ending).2, effect.isPlain = true := by
  cases inside with
  | starting | exiting =>
    refine List.forall_mem_append.mpr ⟨panicRecord_plain task _ ending, ?_⟩
    exact List.forall_mem_singleton.mpr rfl
  | ticking | callingBack | handling => exact panicRecord_plain task _ ending

private theorem InCode.change (inside : task.InCode rest resume finish)
    (advanced : task.advance now given rest resume finish = some progress) :
    Party.Change (.ofTask task) (.ofTask progress.task) progress.effects := by
  unfold advance at advanced
  simp only at advanced
  split at advanced
  · cases advanced
    exact .plain rfl inside.hasEntered (inside.finish_hasEntered _) id (inside.finish_plain _)
  · split at advanced
    · rename_i served
      cases advanced
      obtain ⟨life, plain⟩ := serve_change served
      refine .plain ?_ inside.hasEntered (inside.resume_hasEntered _) id plain
      simp [Party.handle, life]
    · rename_i begun
      cases advanced
      obtain ⟨surface, rfl⟩ := begun_aside begun
      exact .plain rfl inside.hasEntered inside.hasEntered id (by simp)
    · cases advanced
    · cases advanced
      exact .plain rfl inside.hasEntered (inside.finish_hasEntered _) id (inside.finish_plain _)

end

private theorem entered_change {effects : List Effect} (entered : task.place.hasEntered = true)
    (handle : after.life.handle = task.life.handle) (still : after.place.hasEntered = true)
    (plain : ∀ effect ∈ effects, effect.isPlain = true) :
    Party.Change (.ofTask task) (.ofTask after) effects :=
  .plain handle entered still id plain

private theorem take_hasEntered (task : Task σ π ρ υ) (parcel : Parcel (Command σ π)) :
    (task.take parcel).place.hasEntered = true ∧ (task.take parcel).life = task.life := by
  unfold take
  split <;> exact ⟨rfl, rfl⟩

private theorem order_plain (task : Task σ π ρ υ) (now : Instant) (command : Command σ π) :
    (task.order now command).1.life = task.life ∧
      ∀ effect ∈ (task.order now command).2, effect.isPlain = true := by
  cases command with
  | deliver message => simp [order]
  | addTimer timer => simp [order, named, Effect.isPlain]
  | cancelTimer id =>
    simp only [order]
    split <;> simp [named, Effect.isPlain]

theorem step?_change (stepped : task.step? now given = some progress) :
    Party.Change (.ofTask task) (.ofTask progress.task) progress.effects := by
  cases turn_of_step? stepped with
  | entered place =>
    exact .entering rfl (by simp [Party.hasEntered, place, Place.hasEntered]) rfl id task.life.enterEffects_eq
  | ran inside advanced => exact inside.change advanced
  | started place | armed timer place | swept place | drained began place | gaveUp place | parked place
    | closed place | told slot slots dropped place | disposed place =>
    exact entered_change (by rw [place]; rfl) rfl rfl (by simp)
  | fired began firing timers place =>
    refine entered_change (by rw [place]; rfl) rfl ?_ (by simp [firedRecord, named, Effect.isPlain])
    simp only [fire]
    split <;> rfl
  | rearmed began timer place =>
    refine entered_change (by rw [place]; rfl) rfl ?_ (by simp)
    simp only
    split <;> rfl
  | took entry queue place =>
    obtain ⟨entered, life⟩ := take_hasEntered { task with exchange := _ } entry.item
    exact entered_change (by rw [place]; rfl) (congrArg Lifecycle.handle life) entered (by simp)
  | answered slot response place =>
    refine entered_change (by rw [place]; rfl) rfl ?_ (by simp)
    simp only [afterCall]
    split <;> rfl
  | ordered slot command place =>
    obtain ⟨life, plain⟩ := task.order_plain now command
    exact entered_change (by rw [place]; rfl) (congrArg Lifecycle.handle life) rfl plain
  | exited dropped place =>
    refine entered_change (by rw [place]; rfl) rfl rfl ?_
    simp only
    split <;> simp [named, Effect.isPlain]
  | left life place terminated =>
    obtain ⟨_, rfl⟩ := Lifecycle.terminate?_eq_some terminated
    exact entered_change (by rw [place]; rfl) rfl rfl (by simp)
  | reported place =>
    exact entered_change (by rw [place]; rfl) rfl rfl (by simp [Lifecycle.terminatedEffect, Effect.isPlain])

theorem begun_of_step (stepped : task.step? now given = some progress) : progress.task.place ≠ .idle := by
  intro idle
  cases step?_change stepped with
  | aside before aside =>
    have entered := aside.entered.trans before
    simp [Party.hasEntered, idle, Place.hasEntered] at entered
  | entering _ _ entered => simp [Party.hasEntered, idle, Place.hasEntered] at entered

namespace Host

variable {host : Host σ π ρ υ} {move : Move σ π υ}

/-- The thread of the program that makes a move, if it is one of those that can need an identity. -/
def Move.actor? : Move σ π υ → Option ThreadKey
  | .begin thread _ | .join thread | .setPriority thread _ | .call thread .. | .identify thread
  | .record thread .. => some thread
  | .commit | .abandon | .post _ | .addTimer .. | .cancelTimer _ | .serve | .permit | .look _ | .rouseCaller _
  | .expireCaller _ | .rouse | .expire | .passTo _ | .allocateHandle | .allocateTimer => none

def Move.isAllocation : Move σ π υ → Bool
  | .allocateHandle => true
  | .begin .. | .join _ | .setPriority .. | .call .. | .identify _ | .record .. | .commit | .abandon | .post _
  | .addTimer .. | .cancelTimer _ | .serve | .permit | .look _ | .rouseCaller _ | .expireCaller _ | .rouse
  | .expire | .passTo _ | .allocateTimer => false

theorem move_aside (host : Host σ π ρ υ) (others : move.isServe = false) :
    Party.Aside (.ofTask host.task) (.ofTask (host.move move).task) [] := by
  have touched := host.move_touched others
  generalize (host.move move).task = after at touched
  cases touched with
  | begun thread detached => exact (begin_aside host.task detached).quiet
  | joined thread => exact (join_aside host.task).quiet
  | abandoned => exact abandon_aside host.task
  | prioritized thread priority life effects changed =>
    exact .mk (Lifecycle.setPriority_plain changed).1 rfl id (by simp)
  | spared | committed | dealt | permitted => exact .mk rfl rfl id (by simp)

theorem move_named (host : Host σ π ρ υ) {thread : ThreadKey} (actor : move.actor? = some thread) :
    host.kernel.Named thread (host.move move).kernel := by
  cases move with
  | begin other detached =>
    cases actor
    simp only [Host.move, asOwner]
    split
    · exact .refl _ _
    · exact Kernel.carryOutAll_named _ _ (begin_aside host.task detached).plain
  | join other =>
    cases actor
    simp only [Host.move, asOwner]
    split
    · exact .refl _ _
    · exact Kernel.carryOutAll_named _ _ (join_aside host.task).plain
  | setPriority other priority =>
    cases actor
    simp only [Host.move, asOwner, setPriority]
    split
    · exact .refl _ _
    · split
      · exact .refl _ _
      · exact Kernel.carryOutAll_named _ _ (setPriority_aside ‹_›).plain
  | call other message timeout =>
    cases actor
    have asked := host.kernel.isCurrent_named thread host.task.life.handle
    simp only [Host.move, call]
    generalize host.kernel.isCurrent thread host.task.life.handle = answer at asked ⊢
    obtain ⟨current, kernel⟩ := answer
    cases current with
    | true => exact asked.trans (Kernel.carryOutAll_named kernel thread (by simp [ownQueue, Effect.isPlain]))
    | false =>
      simp only
      split <;> exact asked
  | identify other =>
    cases actor
    exact host.kernel.identify_named thread
  | record other level text =>
    cases actor
    exact host.kernel.record_named thread level text
  | commit | abandon | post | addTimer | cancelTimer | serve | permit | look | rouseCaller | expireCaller | rouse
    | expire | passTo | allocateHandle | allocateTimer => cases actor

theorem move_kept (host : Host σ π ρ υ) (actor : move.actor? = none) (others : move.isServe = false)
    (allocates : move.isAllocation = false) : (host.move move).kernel.handles = host.kernel.handles ∧
      (host.move move).kernel.bound = host.kernel.bound ∧
      (host.move move).kernel.threads = host.kernel.threads := by
  cases move with
  | commit | abandon =>
    simp only [Host.move, asOwner]
    split <;> exact ⟨rfl, rfl, rfl⟩
  | post | cancelTimer =>
    simp only [Host.move, post, cancelTimer, push_kernel]
    trivial
  | addTimer interval repeats action =>
    simp only [Host.move, addTimer]
    split
    · exact ⟨rfl, rfl, rfl⟩
    · simp only [push_kernel]
      exact ⟨rfl, rfl, rfl⟩
  | passTo now =>
    simp only [Host.move]
    split <;> exact ⟨rfl, rfl, rfl⟩
  | permit | look | rouseCaller | expireCaller | rouse | expire | allocateTimer => exact ⟨rfl, rfl, rfl⟩
  | serve => cases others
  | allocateHandle => cases allocates
  | begin | join | setPriority | call | identify | record => cases actor

theorem serve_cases (host : Host σ π ρ υ) : host.move .serve = host ∨ ∃ progress, host.Steps progress ∧
    host.move .serve = { host with
      task := progress.task
      kernel := { host.kernel with timers := progress.given }.carryOutAll host.native progress.effects } := by
  cases stepped : host.task.step? host.kernel.now host.kernel.timers with
  | none => exact .inl (serve_of_blocked (by simp [step?, stepped]))
  | some progress => exact .inr ⟨progress, stepped, by simp [move, step?, stepped]⟩

theorem create_ok {kernel : Kernel} {thread : ThreadKey} {settings : Settings υ} {handler : Handler σ π ρ υ}
    {state : σ} (created : (create kernel thread settings handler state).1 = .ok host) :
    host.native = (kernel.readConfig thread).2.threads ∧
      host.kernel.handles = (kernel.readConfig thread).2.handles + 1 ∧
      host.kernel.bound = (kernel.readConfig thread).2.bound ∧
      host.kernel.threads = (kernel.readConfig thread).2.threads + 1 ∧
      host.task.life.handle = ⟨(kernel.readConfig thread).2.handles + 1⟩ ∧ host.task.place = .idle := by
  simp only [create, Kernel.allocateHandle] at created
  split at created
  · cases created
  · split at created
    · cases created
    · rename_i life built
      cases created
      refine ⟨?_, ?_, ?_, ?_, Lifecycle.build_handle built, rfl⟩ <;> simp only [Kernel.newThread] <;> split <;> rfl

/-- The handle of a task that is refused has been given out all the same. -/
theorem create_error {kernel : Kernel} {thread : ThreadKey} {settings : Settings υ} {handler : Handler σ π ρ υ}
    {state : σ} {failure : Failure} (refused : (create kernel thread settings handler state).1 = .error failure) :
    (create kernel thread settings handler state).2.handles = (kernel.readConfig thread).2.handles + 1 ∧
      (create kernel thread settings handler state).2.bound = (kernel.readConfig thread).2.bound ∧
      (create kernel thread settings handler state).2.threads = (kernel.readConfig thread).2.threads := by
  simp only [create, Kernel.allocateHandle] at refused ⊢
  split at refused
  · exact ⟨rfl, rfl, rfl⟩
  · split at refused
    · simp only
      split <;> exact ⟨rfl, rfl, rfl⟩
    · cases refused

end Host

end Task

end TaskKernel
