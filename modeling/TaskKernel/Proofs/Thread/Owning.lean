import TaskKernel.Proofs.Thread.Lifecycle
import TaskKernel.Thread

/-!
A thread in the hands of its owner, who starts it any number of times and at last joins it or drops it,
while the native thread is at work. The first start settles the mode for good. What a join reports is how
the body has ended in that mode, and the body is disposed of once.
-/
namespace TaskKernel

variable {σ α β : Type}

namespace Body

/-- The ways in which code can end, whatever it is answered. -/
inductive CanEnd : Body σ β → Ending β → Prop
  | done (value : β) : CanEnd (.done value) (.returned value)
  | panic (cause : Panic) (next : Empty → Body σ β) : CanEnd (.ask (.panic cause) next) (.panicked cause)
  | ask (call : Call σ) (next : call.Answer → Body σ β) (answer : call.Answer) (ending : Ending β)
      (later : CanEnd (next answer) ending) : CanEnd (.ask call next) ending

/-- How code ends with its next step, if it does. -/
def ending? : Body σ β → Option (Ending β)
  | .done value => some (.returned value)
  | .ask (.panic cause) _ => some (.panicked cause)
  | .ask _ _ => none

end Body

/-- How a body has ended in one of its two modes. -/
inductive Finish (α : Type)
  | joinable (ending : Ending α)
  | detached (ending : Ending Unit)
deriving DecidableEq

namespace Finish

/-- The body can end so in the mode that the first start has chosen. -/
def Possible (runnable : Runnable σ α) (detached : Bool) : Finish α → Prop
  | joinable ending => detached = false ∧ runnable.runUndetached.CanEnd ending
  | Finish.detached ending => detached = true ∧ runnable.run.CanEnd ending

/-- What of it is left for a join. -/
def kept : Finish α → Option (Ending α)
  | joinable ending => some ending
  | detached _ => none

end Finish

/-- How the body ends with the next step of the native thread, if it does. -/
def Native.finish? : Native σ α → Option (Finish α)
  | .joinable rest => rest.ending?.map .joinable
  | .detached rest => rest.ending?.map .detached
  | _ => none

namespace Thread

/-- How a thread leaves the hands of its owner. -/
inductive Parting (α : Type)
  | joined (result : Joined α)
  | dropped
deriving DecidableEq

/-- A thread with the starts that its owner has asked for, what came of each, and the ends of its body. -/
structure Owned (σ α : Type) where
  thread : Thread σ α
  starts : List (Bool × Option Refusal)
  finishes : List (Finish α)
  parting : Option (Parting α)

namespace Owned

/-- What the owner, the native thread and those who share the state of the body do. -/
inductive Move (σ : Type)
  | start (detached : Bool)
  | commit
  | join
  | drop
  | permit
  | share (state : σ)
  | native (now : Instant)

def create (life : Lifecycle) (body : Runnable σ α) (state : σ) : Owned σ α :=
  ⟨Thread.create life body state, [], [], none⟩

/-- The owner has the thread and is not amid a start. -/
def inHand (owned : Owned σ α) : Bool := !owned.thread.life.starting && owned.parting.isNone

/-- Make a move. A move that cannot be made changes nothing. -/
def move (owned : Owned σ α) : Move σ → Owned σ α
  | .start detached =>
    if owned.inHand then
      let (refusal, thread, _) := owned.thread.begin detached
      { owned with thread, starts := owned.starts ++ [(detached, refusal)] }
    else owned
  | .commit => if owned.thread.life.starting then { owned with thread := owned.thread.commit } else owned
  | .join =>
    if owned.inHand then
      match owned.thread.join with
      | (.blocked, _, _) => owned
      | (result, thread, _) => { owned with thread, parting := some (.joined result) }
    else owned
  | .drop =>
    if owned.inHand then { owned with thread := owned.thread.abandon, parting := some .dropped } else owned
  | .permit => { owned with thread := owned.thread.permit }
  | .share state => { owned with thread := { owned.thread with surface.state := state } }
  | .native now =>
    match owned.thread.step? now with
    | none => owned
    | some (thread, _) =>
      { owned with thread, finishes := owned.finishes ++ owned.thread.native.finish?.toList }

def moves (owned : Owned σ α) (list : List (Move σ)) : Owned σ α := list.foldl move owned

/-- What the first start has asked for. -/
def mode (owned : Owned σ α) : Option Bool := owned.starts.head?.map Prod.fst

/-- The native thread is yet to begin the body, or amid it in the mode that has been chosen. -/
inductive Working (body : Runnable σ α) (detached : Bool) : Native σ α → Prop
  | entering : Working body detached (.entering body)
  | joinable (rest : Body σ α) (mode : detached = false)
      (ends : ∀ ending, rest.CanEnd ending → body.runUndetached.CanEnd ending) :
      Working body detached (.joinable rest)
  | detached (rest : Body σ Unit) (mode : detached = true)
      (ends : ∀ ending, rest.CanEnd ending → body.run.CanEnd ending) : Working body detached (.detached rest)

/-- The native thread has left the body that has ended so. -/
inductive Leaving (finish : Finish α) : Native σ α → LifeState → Prop
  | leaving (state : LifeState) (early : state ≠ .terminated) : Leaving finish (.leaving finish.kept) state
  | reporting : Leaving finish (.reporting finish.kept) .terminated
  | ended : Leaving finish (.ended finish.kept) .terminated

inductive Phase (body : Runnable σ α) (detached : Bool) (thread : Thread σ α) (finishes : List (Finish α)) : Prop
  | working (unfinished : finishes = []) (native : Working body detached thread.native)
      (undisposed : thread.disposals = 0) (early : thread.life.state ≠ .terminated)
  | finished (finish : Finish α) (once : finishes = [finish]) (possible : finish.Possible body detached)
      (native : Leaving finish thread.native thread.life.state) (disposed : thread.disposals = 1)

/-- The owner has been refused a start. -/
def Refused (call : Bool × Option Refusal) : Prop :=
  ∃ failure, call.2 = some (.failed failure) ∧ failure.kind = .invalidState

/-- What a join can report of a thread that has been started. -/
inductive Reported (detached : Bool) (finishes : List (Finish α)) : Joined α → Prop
  | refused (mode : detached = true) : Reported detached finishes (.refused ⟨.detached, .threadJoin⟩)
  | outcome (ending : Ending α) (finished : finishes = [.joinable ending]) :
      Reported detached finishes (.outcome ending.outcome)

/-- The thread has been started in a mode, which is settled. -/
structure Started (body : Runnable σ α) (detached : Bool) (owned : Owned σ α) : Prop where
  starts : ∃ again, owned.starts = (detached, none) :: again ∧ ∀ call ∈ again, Refused call
  marked : owned.thread.life.detached = detached
  taken : owned.thread.body = none
  lock : owned.thread.life.starting = true ↔ owned.thread.life.state = .new
  phase : Phase body detached owned.thread owned.finishes
  reported : ∀ result, owned.parting = some (.joined result) → Reported detached owned.finishes result

inductive Stage (life : Lifecycle) (body : Runnable σ α) (owned : Owned σ α) : Prop
  | held (starts : owned.starts = []) (finishes : owned.finishes = []) (parting : owned.parting = none)
      (same : owned.thread.life = life) (full : owned.thread.body = some body)
      (native : owned.thread.native = .absent) (undisposed : owned.thread.disposals = 0)
  | forgone (starts : owned.starts = []) (finishes : owned.finishes = [])
      (parting : owned.parting = some .dropped ∨ owned.parting = some (.joined (.outcome .notStarted)))
      (same : owned.thread.life = life) (empty : owned.thread.body = none)
      (native : owned.thread.native = .absent) (disposed : owned.thread.disposals = 1)
  | started (detached : Bool) (started : owned.Started body detached)

variable {life : Lifecycle} {body : Runnable σ α} {detached : Bool} {owned after : Owned σ α}

theorem inHand_iff : owned.inHand = true ↔ owned.thread.life.starting = false ∧ owned.parting = none := by
  simp [inHand]

theorem advance_cases {thread later : Thread σ α} {now : Instant} {rest : Body σ β}
    {resume : Body σ β → Native σ α} {finish : Ending β → Option (Ending α)} {effects : List Effect}
    (standing : thread.native = resume rest)
    (advanced : thread.advance now rest resume finish = some (later, effects)) :
    (∃ ending, rest.ending? = some ending ∧ rest.CanEnd ending ∧ later = thread.dispose (finish ending)) ∨
    (rest.ending? = none ∧ ∃ surface next, later = { thread with surface, native := resume next } ∧
      ∀ ending, next.CanEnd ending → rest.CanEnd ending) := by
  unfold advance at advanced
  cases rest with
  | done value =>
    cases advanced
    exact .inl ⟨.returned value, rfl, .done value, rfl⟩
  | ask call next =>
    simp only at advanced
    split at advanced
    · rename_i answer surface effects served
      cases advanced
      refine .inr ⟨?_, surface, next answer, rfl, fun ending later => .ask call next answer ending later⟩
      cases call with
      | panic cause => exact answer.elim
      | state | setState | record | identity | name | now | sleep | pause => rfl
    · rename_i surface served
      cases advanced
      refine .inr ⟨?_, surface, .ask call next, by rw [← standing], fun _ later => later⟩
      cases call with
      | panic cause => cases served
      | state | setState | record | identity | name | now | sleep | pause => rfl
    · cases advanced
    · rename_i cause served
      cases advanced
      obtain rfl := Surface.serve_panicked served
      exact .inl ⟨.panicked cause, rfl, .panic cause next, rfl⟩

/-- What a step of the native thread makes of a body that it is amid. -/
theorem Working.step {thread later : Thread σ α} {now : Instant} {effects : List Effect}
    (working : Working body detached thread.native) (marked : thread.life.detached = detached)
    (stepped : thread.step? now = some (later, effects)) :
    (thread.native.finish? = none ∧ ∃ surface native, later = { thread with surface, native } ∧
      Working body detached native) ∨
    ∃ finish, thread.native.finish? = some finish ∧ finish.Possible body detached ∧
      later = thread.dispose finish.kept := by
  generalize standing : thread.native = native at working
  simp only [step?, standing] at stepped
  cases working with
  | entering =>
    simp only [marked] at stepped
    cases stepped
    refine .inl ⟨rfl, thread.surface, _, rfl, ?_⟩
    cases detached with
    | true => exact .detached body.run rfl fun _ ends => ends
    | false => exact .joinable body.runUndetached rfl fun _ ends => ends
  | joinable rest mode ends =>
    rcases advance_cases standing stepped with ⟨ending, ended, can, same⟩ | ⟨unended, surface, next, same, more⟩
    · exact .inr ⟨.joinable ending, by simp [Native.finish?, ended], ⟨mode, ends ending can⟩, same⟩
    · exact .inl ⟨by simp [Native.finish?, unended], surface, _, same,
        .joinable next mode fun ending can => ends ending (more ending can)⟩
  | detached rest mode ends =>
    rcases advance_cases standing stepped with ⟨ending, ended, can, same⟩ | ⟨unended, surface, next, same, more⟩
    · exact .inr ⟨.detached ending, by simp [Native.finish?, ended], ⟨mode, ends ending can⟩, same⟩
    · exact .inl ⟨by simp [Native.finish?, unended], surface, _, same,
        .detached next mode fun ending can => ends ending (more ending can)⟩

theorem Leaving.step {thread later : Thread σ α} {finish : Finish α} {now : Instant} {effects : List Effect}
    (leaving : Leaving finish thread.native thread.life.state) (stepped : thread.step? now = some (later, effects)) :
    later.body = thread.body ∧ later.disposals = thread.disposals ∧ thread.native.finish? = none ∧
      Leaving finish later.native later.life.state ∧
      (later.life = thread.life ∨ thread.life.terminate? = some later.life) := by
  generalize standing : thread.native = native at leaving
  generalize standing' : thread.life.state = state at leaving
  simp only [step?, standing] at stepped
  cases leaving with
  | leaving state early =>
    obtain ⟨life, ended, same⟩ := Option.map_eq_some_iff.mp stepped
    cases same
    refine ⟨rfl, rfl, rfl, ?_, .inr ended⟩
    rw [(Lifecycle.terminate?_eq_some ended).2]
    exact .reporting
  | reporting =>
    cases stepped
    refine ⟨rfl, rfl, rfl, ?_, .inl rfl⟩
    simp only [standing']
    exact .ended
  | ended => cases stepped

private theorem Started.native {thread : Thread σ α} {now : Instant} {effects : List Effect}
    (started : owned.Started body detached) (stepped : owned.thread.step? now = some (thread, effects)) :
    Started body detached
      { owned with thread, finishes := owned.finishes ++ owned.thread.native.finish?.toList } := by
  obtain ⟨starts, marked, taken, lock, phase, reported⟩ := started
  cases phase with
  | working unfinished native undisposed early =>
    rcases native.step marked stepped with ⟨unended, surface, place, rfl, further⟩ | ⟨finish, ended, possible, rfl⟩
    · refine ⟨starts, marked, taken, lock, ?_, ?_⟩
      · exact .working (by simp [unfinished, unended]) further undisposed early
      · simpa [unended] using reported
    · refine ⟨starts, marked, taken, lock, ?_, ?_⟩
      · exact .finished finish (by simp [unfinished, ended]) possible (.leaving _ early)
          (by simp [dispose, undisposed])
      · intro result parted
        cases reported result parted with
        | refused mode => exact .refused mode
        | outcome ending finished =>
          rw [unfinished] at finished
          cases finished
  | finished finish once possible native disposed =>
    obtain ⟨body, disposals, unended, further, life⟩ := native.step stepped
    simp only [unended, Option.toList_none, List.append_nil]
    refine ⟨starts, ?_, body.trans taken, ?_,
      .finished finish once possible further (disposals.trans disposed), reported⟩
    · rcases life with same | ended
      · rw [← marked, same]
      · rw [← marked, (Lifecycle.terminate?_eq_some ended).2]
    · rcases life with same | ended
      · simpa only [same] using lock
      · obtain ⟨resting, same⟩ := Lifecycle.terminate?_eq_some ended
        simp [same, resting]

private theorem start_stage (fresh : life.state = .new) (detached : Bool) (creatable : life.Creatable)
    (stage : owned.Stage life body) : (owned.move (.start detached)).Stage life body := by
  by_cases free : owned.inHand = true
  · simp only [move, if_pos free]
    obtain ⟨unlocked, unparted⟩ := inHand_iff.mp free
    cases stage with
    | held starts finishes parting same full native undisposed =>
      have begun : owned.thread.begin detached = (none, { owned.thread with
          life := { life with detached, starting := true }, body := none, native := .entering body }, []) := by
        simp [begin, full, same, creatable.begin fresh detached]
      rw [begun]
      refine .started detached ⟨⟨[], by simp [starts], by simp⟩, rfl, rfl, ?_, ?_, ?_⟩
      · simp [fresh]
      · exact .working finishes .entering undisposed (by simp [fresh])
      · intro result parted
        rw [parting] at parted
        cases parted
    | forgone _ _ parting => rcases parting with parting | parting <;> simp [parting] at unparted
    | started first started =>
      obtain ⟨again, starts, refused⟩ := started.starts
      have used : owned.thread.life.state ≠ .new := fun new => by simp [started.lock.mpr new] at unlocked
      obtain ⟨failure, effects, kind, begun⟩ := Lifecycle.begin_again used detached owned.thread.body.isSome
      have unchanged : owned.thread.begin detached = (some (.failed failure), owned.thread, effects) := by
        simp [begin, begun]
      rw [unchanged]
      refine .started first ⟨⟨again ++ [(detached, some (.failed failure))], by simp [starts], ?_⟩,
        started.marked, started.taken, started.lock, started.phase, started.reported⟩
      intro call member
      rcases List.mem_append.mp member with earlier | last
      · exact refused call earlier
      · cases List.mem_singleton.mp last
        exact ⟨failure, rfl, kind⟩
  · simpa only [move, if_neg free] using stage

private theorem commit_stage (resting : life.starting = false) (stage : owned.Stage life body) :
    (owned.move .commit).Stage life body := by
  by_cases busy : owned.thread.life.starting = true
  · simp only [move, if_pos busy]
    cases stage with
    | held _ _ _ same | forgone _ _ _ same =>
      rw [same, resting] at busy
      cases busy
    | started detached started =>
      have new := started.lock.mp busy
      refine .started detached ⟨started.starts, started.marked, started.taken, ?_, ?_, started.reported⟩
      · simp [commit, Lifecycle.commit]
      · cases started.phase with
        | working unfinished native undisposed =>
          exact .working unfinished native undisposed (by simp [commit, Lifecycle.commit])
        | finished finish once possible native disposed =>
          refine .finished finish once possible ?_ disposed
          generalize standing : owned.thread.native = place at native
          rw [new] at native
          cases native with
          | leaving =>
            simp only [commit, standing]
            exact .leaving _ (by simp [Lifecycle.commit])
  · simpa only [move, if_neg busy] using stage

private theorem Started.join_awaited (started : owned.Started body detached)
    (waiting : owned.thread.life.joining = .awaited) :
    (∃ ending, owned.finishes = [.joinable ending] ∧
      owned.thread.join = (.outcome ending.outcome, owned.thread, [])) ∨
    ((∀ ending, owned.thread.native ≠ .ended ending) ∧ owned.thread.join = (.blocked, owned.thread, [])) := by
  have joinable : detached = false := by
    rw [← started.marked]
    simp only [Lifecycle.joining] at waiting
    grind
  simp only [join, waiting]
  cases started.phase with
  | working unfinished native =>
    refine .inr ?_
    generalize owned.thread.native = place at native
    cases native <;> exact ⟨by simp, rfl⟩
  | finished finish once possible native =>
    cases finish with
    | detached ending =>
      rw [joinable] at possible
      cases possible.1
    | joinable ending =>
      generalize owned.thread.native = place at native
      generalize owned.thread.life.state = state at native
      cases native with
      | leaving | reporting => exact .inr ⟨by simp, rfl⟩
      | ended => exact .inl ⟨ending, once, rfl⟩

private theorem join_stage (fresh : life.state = .new) (stage : owned.Stage life body) :
    (owned.move .join).Stage life body := by
  by_cases free : owned.inHand = true
  · simp only [move, if_pos free]
    obtain ⟨unlocked, unparted⟩ := inHand_iff.mp free
    cases stage with
    | held starts finishes parting same full native undisposed =>
      have joined : owned.thread.join = (.outcome .notStarted,
          { owned.thread with body := none, disposals := owned.thread.disposals + 1 },
          [owned.thread.life.neverStartedEffect]) := by
        simp [join, Lifecycle.joining, same, fresh, full]
      rw [joined]
      exact .forgone starts finishes (.inr rfl) same rfl native (by simp [undisposed])
    | forgone _ _ parting => rcases parting with parting | parting <;> simp [parting] at unparted
    | started detached started =>
      have used : owned.thread.life.state ≠ .new := fun new => by simp [started.lock.mpr new] at unlocked
      cases mode : detached with
      | true =>
        have joined : owned.thread.join = (.refused ⟨.detached, .threadJoin⟩, owned.thread, []) := by
          simp [join, Lifecycle.joining, used, started.marked, mode]
        rw [joined]
        refine .started true { mode ▸ started with reported := ?_ }
        intro result parted
        cases parted
        exact .refused rfl
      | false =>
        have waiting : owned.thread.life.joining = .awaited := by
          simp [Lifecycle.joining, used, started.marked, mode]
        rcases started.join_awaited waiting with ⟨ending, finished, joined⟩ | ⟨_, joined⟩
        · rw [joined]
          refine .started detached { started with reported := fun result parted => ?_ }
          cases parted
          exact .outcome ending finished
        · rw [joined]
          exact .started detached started
  · simpa only [move, if_neg free] using stage

private theorem drop_stage (stage : owned.Stage life body) : (owned.move .drop).Stage life body := by
  by_cases free : owned.inHand = true
  · simp only [move, if_pos free]
    obtain ⟨unlocked, unparted⟩ := inHand_iff.mp free
    cases stage with
    | held starts finishes parting same full native undisposed =>
      have given : owned.thread.abandon =
          { owned.thread with body := none, disposals := owned.thread.disposals + 1 } := by
        simp [abandon, full]
      rw [given]
      exact .forgone starts finishes (.inl rfl) same rfl native (by simp [undisposed])
    | forgone _ _ parting => rcases parting with parting | parting <;> simp [parting] at unparted
    | started detached started =>
      have kept : owned.thread.abandon = owned.thread := by simp [abandon, started.taken]
      rw [kept]
      exact .started detached { started with reported := fun _ parted => by cases parted }
  · simpa only [move, if_neg free] using stage

private theorem native_stage (now : Instant) (stage : owned.Stage life body) :
    (owned.move (.native now)).Stage life body := by
  simp only [move]
  split
  · exact stage
  · rename_i thread effects stepped
    cases stage with
    | held _ _ _ _ _ native | forgone _ _ _ _ _ native =>
      simp only [step?, native] at stepped
      cases stepped
    | started detached started => exact .started detached (started.native stepped)

private theorem aside_stage (surface : Surface σ) (stage : owned.Stage life body) :
    Stage life body { owned with thread := { owned.thread with surface } } := by
  cases stage with
  | held starts finishes parting same full native undisposed =>
    exact .held starts finishes parting same full native undisposed
  | forgone starts finishes parting same empty native disposed =>
    exact .forgone starts finishes parting same empty native disposed
  | started detached started =>
    obtain ⟨starts, marked, taken, lock, phase, reported⟩ := started
    refine .started detached ⟨starts, marked, taken, lock, ?_, reported⟩
    cases phase with
    | working unfinished native undisposed early => exact .working unfinished native undisposed early
    | finished finish once possible native disposed => exact .finished finish once possible native disposed

private theorem create_stage (body : Runnable σ α) (state : σ) : (create life body state).Stage life body :=
  .held rfl rfl rfl rfl rfl rfl rfl

theorem Stage.move (fresh : life.state = .new) (resting : life.starting = false) (creatable : life.Creatable)
    (stage : owned.Stage life body) (move : Move σ) : (owned.move move).Stage life body := by
  cases move with
  | start detached => exact start_stage fresh detached creatable stage
  | commit => exact commit_stage resting stage
  | join => exact join_stage fresh stage
  | drop => exact drop_stage stage
  | permit => exact aside_stage { owned.thread.surface with permits := owned.thread.surface.permits + 1 } stage
  | share state => exact aside_stage { owned.thread.surface with state } stage
  | native now => exact native_stage now stage

theorem Stage.moves (fresh : life.state = .new) (resting : life.starting = false) (creatable : life.Creatable)
    (stage : owned.Stage life body) (list : List (Move σ)) : (owned.moves list).Stage life body := by
  induction list generalizing owned with
  | nil => exact stage
  | cons move rest ih => exact ih (stage.move fresh resting creatable move)

/-- What a join of a thread in a mode reports once its body has ended so. -/
structure Told (ending : Ending α) (result : Joined α) : Prop where
  completed : ∀ value, result = .outcome (.completed value) ↔ ending = .returned value
  failed : ∀ reason, result = .outcome (.failed reason) ↔
    ∃ cause, ending = .panicked cause ∧ cause.reason = reason
  text : ∀ content, ending = .panicked (.text content) → result = .outcome (.failed content)

private theorem told (ending : Ending α) : Told ending (.outcome ending.outcome) := by
  cases ending with
  | returned value => exact ⟨by simp [Ending.outcome], by simp [Ending.outcome], nofun⟩
  | panicked cause =>
    refine ⟨by simp [Ending.outcome], by simp [Ending.outcome], fun content same => ?_⟩
    cases same
    rfl

/-- What a join can report, by what the first start has asked for. -/
def Report (owned : Owned σ α) (result : Joined α) : Prop :=
  match owned.mode with
  | none => result = .outcome .notStarted
  | some true => ∃ failure, failure.kind = .invalidState ∧ result = .refused failure
  | some false => ∃ ending, owned.finishes = [.joinable ending] ∧ Told ending result

/-- What is so of a thread in the hands of its owner. -/
structure Reliable (body : Runnable σ α) (owned : Owned σ α) : Prop where
  first : ∀ detached refusal again, owned.starts = (detached, refusal) :: again →
    refusal = none ∧ owned.thread.life.detached = detached ∧ ∀ call ∈ again, Refused call
  again : owned.starts ≠ [] → owned.inHand = true → ∀ detached, ∃ failure, failure.kind = .invalidState ∧
    owned.move (.start detached) = { owned with starts := owned.starts ++ [(detached, some (.failed failure))] }
  unstarted : owned.starts = [] → owned.thread.native = .absent ∧ owned.finishes = []
  ends : owned.finishes.length ≤ 1
  possible : ∀ finish ∈ owned.finishes, ∃ detached, owned.mode = some detached ∧ finish.Possible body detached
  reported : ∀ result, owned.parting = some (.joined result) → owned.Report result
  prompt : owned.inHand = true → owned.mode ≠ some false →
    ∃ result, (owned.move .join).parting = some (.joined result)
  -- Such a join waits for the end of the body, and is answered after two more steps of the native thread.
  waits : owned.inHand = true → owned.mode = some false → owned.finishes = [] → owned.move .join = owned
  answered : owned.inHand = true → owned.finishes ≠ [] → ∀ first second,
    ∃ result, (owned.moves [.native first, .native second, .join]).parting = some (.joined result)
  disposed : owned.thread.disposals =
    owned.finishes.length + if owned.starts.isEmpty && owned.parting.isSome then 1 else 0
  once : owned.thread.disposals ≤ 1
  before : owned.thread.life.state = .terminated → owned.thread.disposals = 1

private theorem Started.used (started : owned.Started body detached) (free : owned.inHand = true) :
    owned.thread.life.state ≠ .new := by
  intro new
  simp [inHand, started.lock.mpr new] at free

private theorem Started.mode (started : owned.Started body detached) : owned.mode = some detached := by
  obtain ⟨again, starts, _⟩ := started.starts
  simp [Owned.mode, starts]

private theorem Started.join_answered (started : owned.Started body detached) (free : owned.inHand = true)
    (due : detached = true ∨ ∃ ending, owned.thread.native = .ended ending) :
    ∃ result, (owned.move .join).parting = some (.joined result) := by
  have used := started.used free
  cases mode : detached with
  | true =>
    have refused : owned.thread.life.joining = .refused ⟨.detached, .threadJoin⟩ := by
      simp [Lifecycle.joining, used, started.marked, mode]
    exact ⟨.refused ⟨.detached, .threadJoin⟩, by simp [move, free, join, refused]⟩
  | false =>
    obtain ⟨ending, finished⟩ := due.resolve_left (by simp [mode])
    have waiting : owned.thread.life.joining = .awaited := by
      simp [Lifecycle.joining, used, started.marked, mode]
    rcases started.join_awaited waiting with ⟨ending, _, joined⟩ | ⟨unfinished, _⟩
    · exact ⟨.outcome ending.outcome, by simp [move, free, joined]⟩
    · exact absurd finished (unfinished ending)

private theorem Leaving.over {finish : Finish α} (leaving : Leaving finish owned.thread.native owned.thread.life.state)
    (free : owned.inHand = true) (first second : Instant) :
    ∃ ending, (owned.moves [.native first, .native second]).inHand = true ∧
      (owned.moves [.native first, .native second]).thread.native = .ended ending := by
  obtain ⟨resting, unparted⟩ := inHand_iff.mp free
  refine ⟨finish.kept, ?_⟩
  generalize standing : owned.thread.native = native at leaving
  generalize owned.thread.life.state = state at leaving
  cases leaving <;>
    simp [moves, move, step?, standing, Lifecycle.terminate?, inHand, resting, unparted]

private theorem Started.possible (started : owned.Started body detached) (finish : Finish α)
    (member : finish ∈ owned.finishes) : finish.Possible body detached := by
  cases started.phase with
  | working unfinished => simp [unfinished] at member
  | finished last once possible =>
    rw [once] at member
    cases List.mem_singleton.mp member
    exact possible

private theorem Started.onward (started : owned.Started body detached) (now : Instant) :
    (owned.move (.native now)).Started body detached := by
  simp only [move]
  split
  · exact started
  · exact started.native ‹_›

private theorem Started.reliable (started : owned.Started body detached) : owned.Reliable body := by
  obtain ⟨again, starts, refused⟩ := started.starts
  have mode := started.mode
  refine ⟨?_, ?_, ?_, ?_, ?_, ?_, ?_, ?_, ?_, ?_, ?_, ?_⟩
  · intro first refusal more same
    cases starts.symm.trans same
    exact ⟨rfl, started.marked, refused⟩
  · intro _ free later
    obtain ⟨failure, effects, kind, begun⟩ :=
      Lifecycle.begin_again (started.used free) later owned.thread.body.isSome
    exact ⟨failure, kind, by simp [move, free, begin, begun]⟩
  · intro none
    rw [starts] at none
    cases none
  · cases started.phase with
    | working unfinished => simp [unfinished]
    | finished finish once => simp [once]
  · exact fun finish member => ⟨detached, mode, started.possible finish member⟩
  · intro result parted
    cases started.reported result parted with
    | refused mode' =>
      simp only [Report, mode, mode']
      exact ⟨_, rfl, rfl⟩
    | outcome ending finished =>
      have joinable := (started.possible (.joinable ending) (by simp [finished])).1
      simp only [Report, mode, joinable]
      exact ⟨ending, finished, told ending⟩
  · intro free unawaited
    exact started.join_answered free (.inl (by simpa [mode] using unawaited))
  · intro free joinable unfinished
    have undetached : detached = false := by simpa [mode] using joinable
    have waiting : owned.thread.life.joining = .awaited := by
      simp [Lifecycle.joining, started.used free, started.marked, undetached]
    rcases started.join_awaited waiting with ⟨ending, finished, _⟩ | ⟨_, blocked⟩
    · rw [unfinished] at finished
      cases finished
    · simp [move, free, blocked]
  · intro free finished first second
    cases started.phase with
    | working unfinished => exact absurd unfinished finished
    | finished finish once possible native =>
      obtain ⟨ending, held, finished⟩ := native.over free first second
      exact ((started.onward first).onward second).join_answered held (.inr ⟨ending, finished⟩)
  · rw [starts]
    cases started.phase with
    | working unfinished native undisposed => simp [unfinished, undisposed]
    | finished finish once possible native disposed => simp [once, disposed]
  · cases started.phase with
    | working unfinished native undisposed => simp [undisposed]
    | finished finish once possible native disposed => simp [disposed]
  · intro terminated
    cases started.phase with
    | working unfinished native undisposed early => exact absurd terminated early
    | finished finish once possible native disposed => exact disposed

private theorem Stage.reliable (fresh : life.state = .new) (stage : owned.Stage life body) : owned.Reliable body := by
  cases stage with
  | held starts finishes parting same full native undisposed =>
    have new : owned.thread.life.joining = .neverStarted := by simp [Lifecycle.joining, same, fresh]
    refine ⟨by simp [starts], by simp [starts], fun _ => ⟨native, finishes⟩, by simp [finishes],
      by simp [finishes], by simp [parting], ?_, by simp [mode, starts], by simp [finishes],
      by simp [finishes, parting, undisposed], by simp [undisposed], by simp [same, fresh]⟩
    intro free _
    exact ⟨.outcome .notStarted, by simp [Owned.move, free, join, new]⟩
  | forgone starts finishes parting same empty native disposed =>
    have given : owned.parting.isSome = true := by rcases parting with parting | parting <;> simp [parting]
    have spent : owned.inHand = false := by rcases parting with parting | parting <;> simp [inHand, parting]
    refine ⟨by simp [starts], by simp [starts], fun _ => ⟨native, finishes⟩, by simp [finishes],
      by simp [finishes], ?_, by simp [spent], by simp [mode, starts], by simp [finishes],
      by simp [finishes, starts, given, disposed], by simp [disposed], by simp [same, fresh]⟩
    intro result parted
    have unstarted : owned.mode = none := by simp [mode, starts]
    simp only [Report, unstarted]
    rcases parting with parting | parting
    · rw [parting] at parted
      cases parted
    · rw [parting] at parted
      cases parted
      rfl
  | started detached started => exact started.reliable

/-- Every thread that the system can make is reliable, whatever its owner asks of it in whatever order, and
however its body goes. -/
theorem every_owned_thread_is_reliable {handle : ThreadHandle} {config : Config} {name : Option String}
    {stackSize : Option UInt64} {priority : Option Priority} {life : Lifecycle}
    (built : Lifecycle.build handle config name stackSize priority = .ok life) (creatable : life.Creatable)
    (body : Runnable σ α) (initial : σ) (list : List (Move σ)) :
    ((create life body initial).moves list).Reliable body := by
  obtain ⟨fresh, _, resting⟩ := Lifecycle.build_new built
  exact ((create_stage body initial).moves fresh resting creatable list).reliable fresh

/-- A thread that is started twice, whose body panics before its owner counts it as running. -/
theorem panicking_thread_is_reliable :
    ∃ life, Lifecycle.build ⟨1⟩ Config.library (some "panicking") none none = .ok life ∧ life.Creatable ∧
      let owned : Owned Unit Nat := create life (Runnable.ofBody (Body.panic (.text "fault"))) ()
      let list : List (Move Unit) := [.start false, .native .zero, .native .zero, .commit, .start true,
        .native .zero, .native .zero, .join]
      (owned.moves list).Reliable (Runnable.ofBody (Body.panic (.text "fault"))) ∧
        (owned.moves list).parting = some (.joined (.outcome (.failed "fault"))) ∧
        (owned.moves list).starts.length = 2 ∧ (owned.moves list).thread.disposals = 1 := by
  have built : Lifecycle.build ⟨1⟩ Config.library (some "panicking") none none = .ok _ := rfl
  exact ⟨_, built, ⟨by decide +kernel, by decide +kernel⟩,
    every_owned_thread_is_reliable built ⟨by decide +kernel, by decide +kernel⟩ _ _ _, by decide +kernel,
    by decide +kernel, by decide +kernel⟩

end Owned

end Thread

end TaskKernel
