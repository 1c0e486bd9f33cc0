import TaskKernel.Proofs.Thread.Lifecycle
import TaskKernel.Thread

/-!
A thread and the lock over its life. The starter has the lock until the thread counts as running, though
the native thread is at work before that. A caller that changes the priority has it from its look at the
state until the priority is stored. The native thread needs it to end its life.
-/
namespace TaskKernel

variable {σ α : Type}

/-- The states from one to the last. -/
def LifeState.onwards : LifeState → List LifeState
  | new => [new, running, terminated]
  | running => [running, terminated]
  | terminated => [terminated]

namespace Native

/-- Whether there is a native thread that has not ended its life. -/
def isAlive : Native σ α → Bool
  | entering _ | joinable _ | detached _ | leaving _ => true
  | absent | reporting _ | ended _ => false

/-- Whether the body is yet to begin. -/
def isEntering : Native σ α → Bool
  | entering _ => true
  | absent | joinable _ | detached _ | leaving _ | reporting _ | ended _ => false

def isLeaving : Native σ α → Bool
  | leaving _ => true
  | absent | entering _ | joinable _ | detached _ | reporting _ | ended _ => false

end Native

namespace Thread

variable {thread after : Thread σ α}

/-- What a step of the native thread can do. -/
inductive Onward (thread : Thread σ α) : Thread σ α → Prop
  | working (surface : Surface σ) (native : Native σ α) (disposals : Nat) (alive : thread.native.isAlive = true)
      (still : native.isAlive = true) (begun : native.isEntering = false) :
      Onward thread { thread with surface, native, disposals }
  | terminated (ending : Option (Ending α)) (life : Lifecycle) (leaving : thread.native = .leaving ending)
      (ended : thread.life.terminate? = some life) :
      Onward thread { thread with life, native := .reporting ending }
  | reported (ending : Option (Ending α)) (reporting : thread.native = .reporting ending) :
      Onward thread { thread with native := .ended ending }

private theorem advance_onward {β : Type} {now : Instant} {rest : Body σ β} {resume : Body σ β → Native σ α}
    {finish : Ending β → Option (Ending α)} {effects : List Effect}
    (alive : thread.native.isAlive = true) (begun : thread.native.isEntering = false)
    (resumes : ∀ rest, (resume rest).isAlive = true ∧ (resume rest).isEntering = false)
    (advanced : thread.advance now rest resume finish = some (after, effects)) : thread.Onward after := by
  unfold advance at advanced
  split at advanced
  · cases advanced
    exact .working thread.surface _ _ alive rfl rfl
  · split at advanced
    · cases advanced
      exact .working _ _ thread.disposals alive (resumes _).1 (resumes _).2
    · cases advanced
      exact .working _ thread.native thread.disposals alive alive begun
    · cases advanced
    · cases advanced
      exact .working thread.surface _ _ alive rfl rfl

private theorem step?_onward {now : Instant} {effects : List Effect}
    (stepped : thread.step? now = some (after, effects)) : thread.Onward after := by
  unfold step? at stepped
  split at stepped
  · cases stepped
  · cases stepped
  · rename_i runnable entering
    cases stepped
    refine .working thread.surface _ thread.disposals (by rw [entering]; rfl) ?_ ?_ <;> split <;> rfl
  · rename_i rest native
    exact advance_onward (by rw [native]; rfl) (by rw [native]; rfl) (fun _ => ⟨rfl, rfl⟩) stepped
  · rename_i rest native
    exact advance_onward (by rw [native]; rfl) (by rw [native]; rfl) (fun _ => ⟨rfl, rfl⟩) stepped
  · rename_i ending leaving
    obtain ⟨life, ended, same⟩ := Option.map_eq_some_iff.mp stepped
    cases same
    exact .terminated ending life leaving ended
  · rename_i ending reporting
    cases stepped
    exact .reported ending reporting

/-- Where the native thread and the life of a thread stand together. -/
inductive Stage (thread : Thread σ α) : Prop
  | unstarted (native : thread.native = .absent) (state : thread.life.state = .new)
      (identity : thread.life.hasNative = false) (resting : thread.life.starting = false)
  | starting (alive : thread.native.isAlive = true) (state : thread.life.state = .new)
      (identity : thread.life.hasNative = false) (busy : thread.life.starting = true)
  | running (alive : thread.native.isAlive = true) (state : thread.life.state = .running)
      (identity : thread.life.hasNative = true) (resting : thread.life.starting = false)
  | past (dead : thread.native.isAlive = false) (state : thread.life.state = .terminated)
      (identity : thread.life.hasNative = false) (resting : thread.life.starting = false)

private theorem Stage.framed (stage : thread.Stage) (native : after.native = thread.native)
    (state : after.life.state = thread.life.state) (identity : after.life.hasNative = thread.life.hasNative)
    (busy : after.life.starting = thread.life.starting) : after.Stage := by
  cases stage with
  | unstarted absent fresh unidentified resting =>
    exact .unstarted (native.trans absent) (state.trans fresh) (identity.trans unidentified) (busy.trans resting)
  | starting alive fresh unidentified starting =>
    exact .starting (native ▸ alive) (state.trans fresh) (identity.trans unidentified) (busy.trans starting)
  | running alive running identified resting =>
    exact .running (native ▸ alive) (state.trans running) (identity.trans identified) (busy.trans resting)
  | past dead terminated unidentified resting =>
    exact .past (native ▸ dead) (state.trans terminated) (identity.trans unidentified) (busy.trans resting)

private theorem Stage.onward (stage : thread.Stage) (onward : thread.Onward after) : after.Stage := by
  cases onward with
  | working surface native disposals alive still begun =>
    cases stage with
    | unstarted absent =>
      rw [absent] at alive
      cases alive
    | starting _ state identity busy => exact .starting still state identity busy
    | running _ state identity resting => exact .running still state identity resting
    | past dead =>
      rw [dead] at alive
      cases alive
  | terminated ending life leaving ended =>
    obtain ⟨resting, rfl⟩ := Lifecycle.terminate?_eq_some ended
    exact .past rfl rfl rfl resting
  | reported ending reporting =>
    cases stage with
    | unstarted absent =>
      rw [absent] at reporting
      cases reporting
    | starting alive | running alive =>
      rw [reporting] at alive
      cases alive
    | past _ state identity resting => exact .past rfl state identity resting

theorem begin_cases (thread : Thread σ α) (detached : Bool) :
    (∃ body, thread.body = some body ∧ thread.life.state = .new ∧ (thread.begin detached).2.1 =
      { thread with
        life := { thread.life with detached, starting := true }
        body := none
        native := .entering body }) ∨
    ∃ marked body disposals, (body = thread.body ∨ body = none) ∧ (thread.begin detached).2.1 =
      { thread with life := { thread.life with detached := marked }, body, disposals } := by
  unfold begin
  rcases thread.life.begin_cases detached thread.body.isSome with ⟨refusal, refused, marked, life⟩ |
    ⟨fresh, some, begun⟩
  · simp only [refused, life]
    split
    · contradiction
    · exact .inr ⟨marked, none, _, .inr rfl, rfl⟩
    · exact .inr ⟨marked, thread.body, _, .inl rfl, rfl⟩
  · obtain ⟨body, has⟩ := Option.isSome_iff_exists.mp some
    refine .inl ⟨body, has, fresh, ?_⟩
    simp only [begun]
    rw [has]

/-- A thread with the lock over its life, and the priority that a caller has that lock for. -/
structure Guarded (σ α : Type) where
  thread : Thread σ α
  change : Option Priority

/-- A caller takes the lock to change the priority, and keeps it if the thread runs; then it stores the
priority, or the system rejects it. -/
inductive Guarded.Move
  | begin (detached : Bool)
  | commit
  | change (priority : Priority)
  | store
  | reject
  | join
  | abandon
  | permit
  | native (now : Instant)

namespace Guarded

def start (life : Lifecycle) (body : Runnable σ α) (state : σ) : Guarded σ α :=
  ⟨Thread.create life body state, none⟩

/-- Whether nobody has the lock. -/
def isFree (guarded : Guarded σ α) : Bool := !guarded.thread.life.starting && guarded.change.isNone

/-- Make a move. A move that cannot be made changes nothing. -/
def move (guarded : Guarded σ α) : Move → Guarded σ α
  | .begin detached =>
    if guarded.isFree then { guarded with thread := (guarded.thread.begin detached).2.1 } else guarded
  | .commit =>
    if guarded.thread.life.starting then { guarded with thread := guarded.thread.commit } else guarded
  | .change priority =>
    if guarded.isFree then
      match guarded.thread.setPriority priority with
      | .error _ => guarded
      | .ok _ => { guarded with change := some priority }
    else guarded
  | .store =>
    match guarded.change with
    | none => guarded
    | some priority => ⟨{ guarded.thread with life.priority := priority }, none⟩
  | .reject => { guarded with change := none }
  | .join => { guarded with thread := guarded.thread.join.2.1 }
  | .abandon => { guarded with thread := guarded.thread.abandon }
  | .permit => { guarded with thread := guarded.thread.permit }
  | .native now =>
    if guarded.thread.native.isLeaving && guarded.change.isSome then guarded
    else
      match guarded.thread.step? now with
      | none => guarded
      | some (thread, _) => { guarded with thread }

def moves (guarded : Guarded σ α) (list : List Move) : Guarded σ α := list.foldl move guarded

/-- What a move can do. -/
inductive Step (guarded : Guarded σ α) : Guarded σ α → Prop
  | aside (detached : Bool) (body : Option (Runnable σ α)) (surface : Surface σ) (disposals : Nat)
      (less : body = guarded.thread.body ∨ body = none) :
      Step guarded { guarded with
        thread := { guarded.thread with
          life := { guarded.thread.life with detached }, body, surface, disposals } }
  | begun (detached : Bool) (body : Runnable σ α) (has : guarded.thread.body = some body)
      (fresh : guarded.thread.life.state = .new) (free : guarded.isFree = true) :
      Step guarded { guarded with
        thread := { guarded.thread with
          life := { guarded.thread.life with detached, starting := true }
          body := none
          native := .entering body } }
  | committed (busy : guarded.thread.life.starting = true) :
      Step guarded { guarded with thread := guarded.thread.commit }
  | locked (priority : Priority) (running : guarded.thread.life.state = .running) :
      Step guarded { guarded with change := some priority }
  | stored (priority : Priority) (changing : guarded.change = some priority) :
      Step guarded ⟨{ guarded.thread with life.priority := priority }, none⟩
  | released : Step guarded { guarded with change := none }
  | native (thread : Thread σ α) (onward : guarded.thread.Onward thread)
      (unlocked : guarded.thread.native.isLeaving = true → guarded.change = none) :
      Step guarded { guarded with thread }

theorem Step.refl (guarded : Guarded σ α) : guarded.Step guarded :=
  .aside guarded.thread.life.detached guarded.thread.body guarded.thread.surface guarded.thread.disposals (.inl rfl)

variable {guarded after : Guarded σ α}

theorem isFree_iff : guarded.isFree = true ↔ guarded.thread.life.starting = false ∧ guarded.change = none := by
  simp [isFree]

theorem setPriority_cases (thread : Thread σ α) (priority : Priority) :
    (thread.life.state = .running ∧ thread.life.hasNative = true ∧ thread.setPriority priority =
      .ok ({ thread with life := { thread.life with priority } }, [.probeTable])) ∨
    (¬ (thread.life.state = .running ∧ thread.life.hasNative = true) ∧ thread.setPriority priority =
      .error ⟨.notRunning thread.life.handle thread.life.state, .threadSetPriority⟩) := by
  by_cases runs : thread.life.state = .running ∧ thread.life.hasNative = true
  · refine .inl ⟨runs.1, runs.2, ?_⟩
    rw [setPriority, Lifecycle.setPriority, if_pos runs]
    rfl
  · refine .inr ⟨runs, ?_⟩
    rw [setPriority, Lifecycle.setPriority, if_neg runs]
    rfl

private theorem begin_step (free : guarded.isFree = true) (detached : Bool) :
    guarded.Step { guarded with thread := (guarded.thread.begin detached).2.1 } := by
  rcases guarded.thread.begin_cases detached with ⟨body, has, fresh, begun⟩ | ⟨marked, body, disposals, less, refused⟩
  · rw [begun]
    exact .begun detached body has fresh free
  · rw [refused]
    exact .aside marked body guarded.thread.surface disposals less

private theorem move_step (guarded : Guarded σ α) (move : Move) : guarded.Step (guarded.move move) := by
  cases move with
  | begin detached =>
    simp only [Guarded.move]
    split
    · exact begin_step ‹_› detached
    · exact .refl guarded
  | commit =>
    simp only [Guarded.move]
    split
    · exact .committed ‹_›
    · exact .refl guarded
  | change priority =>
    simp only [Guarded.move]
    split
    · rcases setPriority_cases guarded.thread priority with ⟨running, _, changed⟩ | ⟨_, refused⟩
      · simp only [changed]
        exact .locked priority running
      · simp only [refused]
        exact .refl guarded
    · exact .refl guarded
  | store =>
    simp only [Guarded.move]
    split
    · exact .refl guarded
    · exact .stored _ ‹_›
  | reject => exact .released
  | join =>
    simp only [Guarded.move, join]
    split
    · exact .aside guarded.thread.life.detached none guarded.thread.surface _ (.inr rfl)
    · exact .refl guarded
    · split <;> exact .refl guarded
  | abandon =>
    simp only [Guarded.move, abandon]
    split
    · exact .aside guarded.thread.life.detached none guarded.thread.surface _ (.inr rfl)
    · exact .refl guarded
  | permit =>
    exact .aside guarded.thread.life.detached guarded.thread.body _ guarded.thread.disposals (.inl rfl)
  | native now =>
    simp only [Guarded.move]
    split
    · exact .refl guarded
    · rename_i unblocked
      split
      · exact .refl guarded
      · rename_i thread effects stepped
        refine .native thread (step?_onward stepped) fun leaving => ?_
        simpa [leaving] using unblocked

structure Sound (guarded : Guarded σ α) : Prop where
  stage : guarded.thread.Stage
  running : ∀ priority, guarded.change = some priority → guarded.thread.life.state = .running

private theorem start_sound {life : Lifecycle} (fresh : life.state = .new) (unidentified : life.hasNative = false)
    (resting : life.starting = false) (body : Runnable σ α) (state : σ) : (start life body state).Sound where
  stage := .unstarted rfl fresh unidentified resting
  running _ changing := by cases changing

theorem Sound.step (sound : guarded.Sound) (step : guarded.Step after) : after.Sound := by
  obtain ⟨stage, running⟩ := sound
  cases step with
  | aside => exact ⟨stage.framed rfl rfl rfl rfl, running⟩
  | begun detached body has fresh free =>
    have unchanged := (isFree_iff.mp free).2
    refine ⟨?_, fun priority changing => ?_⟩
    · cases stage with
      | unstarted _ state identity => exact .starting rfl state identity rfl
      | starting _ state identity => exact .starting rfl state identity rfl
      | running _ state | past _ state =>
        rw [state] at fresh
        cases fresh
    · rw [unchanged] at changing
      cases changing
  | committed busy =>
    refine ⟨?_, fun _ _ => rfl⟩
    cases stage with
    | starting alive => exact .running alive rfl rfl rfl
    | unstarted _ _ _ resting | running _ _ _ resting | past _ _ _ resting =>
      rw [resting] at busy
      cases busy
  | locked priority runs => exact ⟨stage, fun _ _ => runs⟩
  | stored priority changing => exact ⟨stage.framed rfl rfl rfl rfl, fun _ changing => by cases changing⟩
  | released => exact ⟨stage, fun _ changing => by cases changing⟩
  | native thread onward unlocked =>
    refine ⟨stage.onward onward, fun priority changing => ?_⟩
    cases onward with
    | working | reported => exact running priority changing
    | terminated ending life leaving =>
      have none := unlocked (by rw [leaving]; rfl)
      rw [none] at changing
      cases changing

theorem Sound.moves (sound : guarded.Sound) (list : List Move) : (guarded.moves list).Sound := by
  induction list generalizing guarded with
  | nil => exact sound
  | cons move rest ih => exact ih (sound.step (guarded.move_step move))

private theorem Sound.step_state (sound : guarded.Sound) (step : guarded.Step after) :
    after.thread.life.state = guarded.thread.life.state ∨
      guarded.thread.life.state.canBecome after.thread.life.state = true := by
  cases step with
  | aside | begun | locked | stored | released => exact .inl rfl
  | committed busy =>
    cases sound.stage with
    | starting _ state => exact .inr (by rw [state]; rfl)
    | unstarted _ _ _ resting | running _ _ _ resting | past _ _ _ resting =>
      rw [resting] at busy
      cases busy
  | native thread onward =>
    cases onward with
    | working | reported => exact .inl rfl
    | terminated ending life leaving ended =>
      obtain ⟨resting, rfl⟩ := Lifecycle.terminate?_eq_some ended
      cases sound.stage with
      | running _ state => exact .inr (by rw [state]; rfl)
      | unstarted absent =>
        rw [absent] at leaving
        cases leaving
      | starting _ _ _ busy =>
        -- A body that ends early finds the lock with the starter, so the thread counts as running by now.
        rw [busy] at resting
        cases resting
      | past dead =>
        rw [leaving] at dead
        cases dead

/-- The values that the state takes in a run, each for as long as it lasts. -/
def values (guarded : Guarded σ α) : List Move → List LifeState
  | [] => [guarded.thread.life.state]
  | move :: rest =>
    if (guarded.move move).thread.life.state = guarded.thread.life.state then (guarded.move move).values rest
    else guarded.thread.life.state :: (guarded.move move).values rest

private theorem Sound.values (sound : guarded.Sound) (list : List Move) :
    guarded.values list <+: guarded.thread.life.state.onwards := by
  induction list generalizing guarded with
  | nil =>
    cases state : guarded.thread.life.state <;> simp [Guarded.values, LifeState.onwards, state]
  | cons move rest ih =>
    have later := ih (sound.step (guarded.move_step move))
    unfold Guarded.values
    split
    · rename_i same
      rwa [same] at later
    · rename_i different
      have next := (sound.step_state (guarded.move_step move)).resolve_left different
      generalize (guarded.move move).thread.life.state = reached, guarded.thread.life.state = state at *
      cases state <;> cases reached <;> simp_all [LifeState.canBecome, LifeState.onwards]

/-- How often the native thread begins with the body in a run. -/
def entries (guarded : Guarded σ α) : List Move → Nat
  | [] => 0
  | move :: rest =>
    (if guarded.thread.native.isEntering ∧ ¬ (guarded.move move).thread.native.isEntering then 1 else 0) +
      (guarded.move move).entries rest

/-- How often the body can still begin: it has not been taken, or the native thread is about to begin. -/
def chances (guarded : Guarded σ α) : Nat :=
  (if guarded.thread.body.isSome then 1 else 0) + if guarded.thread.native.isEntering then 1 else 0

private theorem Step.chances (step : guarded.Step after) : after.chances +
    (if guarded.thread.native.isEntering ∧ ¬ after.thread.native.isEntering then 1 else 0) ≤ guarded.chances := by
  cases step with
  | aside detached body surface disposals less =>
    rcases less with rfl | rfl <;> simp [Guarded.chances]
  | begun detached body has => simp [Guarded.chances, has, Native.isEntering]
  | committed =>
    have stays : ¬ (guarded.thread.native.isEntering ∧ ¬ guarded.thread.native.isEntering) :=
      fun both => both.2 both.1
    exact Nat.le_of_eq (congrArg (guarded.chances + ·) (if_neg stays))
  | locked | stored | released => simp [Guarded.chances]
  | native thread onward =>
    cases onward with
    | working surface native disposals alive still begun => simp [Guarded.chances, begun]
    | terminated ending life leaving => simp [Guarded.chances, leaving, Native.isEntering]
    | reported ending reporting => simp [Guarded.chances, reporting, Native.isEntering]

private theorem entries_le (guarded : Guarded σ α) (list : List Move) : guarded.entries list ≤ guarded.chances := by
  induction list generalizing guarded with
  | nil => exact Nat.zero_le _
  | cons move rest ih =>
    have once := (guarded.move_step move).chances
    have later := ih (guarded.move move)
    unfold entries
    omega

private theorem Sound.identified (sound : guarded.Sound) (free : guarded.isFree = true) :
    guarded.thread.life.hasNative = true ↔ guarded.thread.life.state = .running := by
  have resting := (isFree_iff.mp free).1
  cases sound.stage with
  | unstarted _ state identity | past _ state identity => simp [state, identity]
  | running _ state identity => simp [state, identity]
  | starting _ _ _ busy =>
    rw [resting] at busy
    cases busy

private theorem Sound.changes (sound : guarded.Sound) (running : guarded.thread.life.state = .running)
    (priority : Priority) : guarded.thread.native.isAlive = true ∧ guarded.thread.setPriority priority =
      .ok ({ guarded.thread with life.priority := priority }, [.probeTable]) := by
  cases sound.stage with
  | unstarted _ state | starting _ state | past _ state =>
    rw [running] at state
    cases state
  | running alive _ identity =>
    refine ⟨alive, ?_⟩
    rcases setPriority_cases guarded.thread priority with ⟨_, _, changed⟩ | ⟨idle, _⟩
    · exact changed
    · exact absurd ⟨running, identity⟩ idle

private theorem Sound.alive (sound : guarded.Sound) (free : guarded.isFree = true) :
    guarded.thread.native.isAlive = true ↔ guarded.thread.life.state = .running := by
  have resting := (isFree_iff.mp free).1
  cases sound.stage with
  | unstarted absent state => simp [absent, state, Native.isAlive]
  | starting _ _ _ busy =>
    rw [resting] at busy
    cases busy
  | running alive state => simp [alive, state]
  | past dead state => simp [dead, state]

private theorem Step.priority (step : guarded.Step after) :
    after.thread.life.priority = guarded.thread.life.priority ∨
      guarded.change = some after.thread.life.priority := by
  cases step with
  | aside | begun | committed | locked | released => exact .inl rfl
  | stored priority changing => exact .inr changing
  | native thread onward =>
    cases onward with
    | working | reported => exact .inl rfl
    | terminated ending life leaving ended =>
      obtain ⟨_, rfl⟩ := Lifecycle.terminate?_eq_some ended
      exact .inl rfl

/-- What is so of a thread in a run. -/
structure Orderly (guarded : Guarded σ α) (list : List Move) : Prop where
  values : guarded.values list <+: [.new, .running, .terminated]
  identified : (guarded.moves list).isFree = true →
    ((guarded.moves list).thread.life.hasNative = true ↔ (guarded.moves list).thread.life.state = .running)
  -- Whoever has the lock to change the priority finds a native thread that has not ended its life, and
  -- changes nothing else.
  changing : ∀ priority, (guarded.moves list).change = some priority →
    (guarded.moves list).thread.native.isAlive = true ∧ (guarded.moves list).thread.setPriority priority =
      .ok ({ (guarded.moves list).thread with life.priority := priority }, [.probeTable])
  changeable : ∀ priority, (guarded.moves list).isFree = true →
    (guarded.moves list).thread.native.isAlive = true →
      (guarded.moves list).move (.change priority) = { guarded.moves list with change := some priority }
  unchangeable : ∀ priority, (guarded.moves list).isFree = true →
    (guarded.moves list).thread.native.isAlive = false →
      (guarded.moves list).move (.change priority) = guarded.moves list ∧
        ∃ failure, failure.kind = .invalidState ∧
          (guarded.moves list).thread.setPriority priority = .error failure
  kept : ∀ move,
    ((guarded.moves list).move move).thread.life.priority = (guarded.moves list).thread.life.priority ∨
      (guarded.moves list).change = some ((guarded.moves list).move move).thread.life.priority
  once : guarded.entries list ≤ 1

/-- Every thread lives once, in every interleaving of its owner, its native thread and those who change its
priority. -/
theorem every_thread_lives_once {handle : ThreadHandle} {config : Config} {name : Option String}
    {stackSize : Option UInt64} {priority : Option Priority} {life : Lifecycle}
    (built : Lifecycle.build handle config name stackSize priority = .ok life) (body : Runnable σ α) (initial : σ)
    (list : List Move) : (start life body initial).Orderly list := by
  obtain ⟨fresh, unidentified, resting⟩ := Lifecycle.build_new built
  have first := start_sound fresh unidentified resting body initial
  have values := first.values list
  have sound := first.moves list
  rw [show (start life body initial).thread.life.state = .new from fresh] at values
  refine ⟨values, sound.identified, ?_, ?_, ?_, ?_, ?_⟩
  · intro priority changing
    exact sound.changes (sound.running priority changing) priority
  · intro priority free alive
    have changed := (sound.changes ((sound.alive free).mp alive) priority).2
    simp only [Guarded.move, free, if_true, changed]
  · intro priority free dead
    rcases setPriority_cases ((start life body initial).moves list).thread priority with ⟨running, _⟩ | ⟨_, refused⟩
    · rw [(sound.alive free).mpr running] at dead
      cases dead
    · refine ⟨?_, _, rfl, refused⟩
      simp only [Guarded.move, free, if_true, refused]
  · exact fun move => (move_step _ move).priority
  · exact entries_le _ list

/-- A thread whose body ends before its starter counts it as running, and whose priority is changed while it is
about to end. -/
theorem early_end_lives_once :
    ∃ life, Lifecycle.build ⟨1⟩ Config.library (some "early") none none = .ok life ∧
      let guarded : Guarded Unit Nat := start life (Runnable.ofBody (.done 7)) ()
      let started : List Move := [.begin false, .native .zero, .native .zero, .native .zero, .commit]
      let changed : List Move := [.change .high, .native .zero, .store, .native .zero, .native .zero, .change .low]
      guarded.Orderly (started ++ changed) ∧
        guarded.values (started ++ changed) = [.new, .running, .terminated] ∧
        (guarded.moves (started ++ changed)).thread.life.priority = .high := by
  have built : Lifecycle.build ⟨1⟩ Config.library (some "early") none none = .ok _ := rfl
  exact ⟨_, built, every_thread_lives_once built _ _ _, by decide +kernel, by decide +kernel⟩

end Guarded

end Thread

end TaskKernel
