import TaskKernel.Thread.Call

/-!
The life of a thread as its owner changes it, and the calls of its code that are not answered at once.
-/
namespace TaskKernel

namespace Lifecycle

theorem build_new {handle : ThreadHandle} {config : Config} {name : Option String}
    {stackSize : Option UInt64} {priority : Option Priority} {life : Lifecycle}
    (built : Lifecycle.build handle config name stackSize priority = .ok life) :
    life.state = .new ∧ life.hasNative = false ∧ life.starting = false := by
  unfold Lifecycle.build at built
  simp only at built
  split at built
  · cases built
  · cases built
    exact ⟨rfl, rfl, rfl⟩

theorem terminate?_eq_some {life after : Lifecycle} (terminated : life.terminate? = some after) :
    life.starting = false ∧ after = { life with hasNative := false, state := .terminated } := by
  unfold terminate? at terminated
  split at terminated
  · cases terminated
  · rename_i resting
    exact ⟨Bool.eq_false_iff.mpr resting, (Option.some.inj terminated).symm⟩

/-- The native thread has ended its life, and nobody is starting it. -/
def Over (life : Lifecycle) : Prop := life.state = .terminated ∧ life.starting = false

theorem Over.of_terminate {life after : Lifecycle} (terminated : life.terminate? = some after) :
    after.Over := by
  obtain ⟨resting, rfl⟩ := terminate?_eq_some terminated
  exact ⟨rfl, resting⟩

theorem Over.setPriority {life after : Lifecycle} {priority : Priority} {effects : List Effect}
    (spent : life.Over) (changed : life.setPriority priority = .ok (after, effects)) : after.Over := by
  unfold Lifecycle.setPriority at changed
  split at changed
  · cases changed
    exact spent
  · cases changed

theorem begin_bodyless (life : Lifecycle) (detached : Bool) : ∃ refusal effects,
    life.begin detached false = ⟨some refusal, life, false, effects⟩ := by
  by_cases fresh : life.state = .new
  · exact ⟨.failed ⟨.bodyLost, startOperation detached⟩, [], by simp [begin, fresh]⟩
  · simp only [begin, if_pos fresh]
    exact ⟨_, _, rfl⟩

theorem Over.begin {life : Lifecycle} (spent : life.Over) (detached hasBody : Bool) :
    (life.begin detached hasBody).life = life := by
  simp [Lifecycle.begin, spent.1]

theorem begin_cases (life : Lifecycle) (detached hasBody : Bool) :
    (∃ refusal, (life.begin detached hasBody).refusal = some refusal ∧
      ∃ marked, (life.begin detached hasBody).life = { life with detached := marked }) ∨
    (life.state = .new ∧ hasBody = true ∧ life.begin detached hasBody =
      ⟨none, { life with detached, starting := true }, true, []⟩) := by
  by_cases fresh : life.state = .new
  · cases hasBody with
    | false =>
      obtain ⟨refusal, effects, bodyless⟩ := life.begin_bodyless detached
      exact .inl ⟨refusal, by rw [bodyless], life.detached, by rw [bodyless]⟩
    | true =>
      simp only [begin, fresh, ne_eq, not_true_eq_false, if_false, Bool.not_true, Bool.false_eq_true]
      split
      · exact .inl ⟨_, rfl, detached, rfl⟩
      · exact .inl ⟨_, rfl, detached, rfl⟩
      · exact .inr ⟨trivial, trivial, rfl⟩
  · refine .inl ⟨.failed ⟨.notNew life.handle life.state, startOperation detached⟩, ?_, life.detached, ?_⟩ <;>
      simp [begin, fresh]

/-- The system can make the native thread. -/
structure Creatable (life : Lifecycle) : Prop where
  name : Creation.nameFault? life.name = none
  stack : Creation.stackFault? life.stackSize = none

theorem Creatable.begin {life : Lifecycle} (creatable : life.Creatable) (fresh : life.state = .new)
    (detached : Bool) :
    life.begin detached true = ⟨none, { life with detached, starting := true }, true, []⟩ := by
  simp [Lifecycle.begin, fresh, creatable.name, creatable.stack]

theorem begin_again {life : Lifecycle} (used : life.state ≠ .new) (detached hasBody : Bool) :
    ∃ failure effects, failure.kind = .invalidState ∧
      life.begin detached hasBody = ⟨some (.failed failure), life, false, effects⟩ := by
  simp only [begin, if_pos used]
  exact ⟨_, _, rfl, rfl⟩

/-- The thread has been started, and can be joined. -/
structure Committed (life : Lifecycle) : Prop where
  resting : life.starting = false
  used : life.state ≠ .new
  joinable : life.detached = false

namespace Committed

variable {life after : Lifecycle}

theorem of_commit (joinable : life.detached = false) : life.commit.Committed := ⟨rfl, nofun, joinable⟩

theorem terminated (committed : life.Committed) (terminated : life.terminate? = some after) : after.Committed := by
  obtain ⟨resting, rfl⟩ := terminate?_eq_some terminated
  exact ⟨resting, nofun, committed.joinable⟩

theorem awaited (committed : life.Committed) : life.joining = .awaited := by
  simp [joining, committed.used, committed.joinable]

end Committed

end Lifecycle

namespace Surface

variable {σ : Type} {life : Lifecycle} {now : Instant} {surface after : Surface σ} {call : Call σ}

/-- Only a sleep begins before it is answered. -/
theorem serve_begun (served : surface.serve life now call = .begun after) :
    ∃ delay, call = .sleep delay ∧ surface.wake = none ∧
      after = { surface with wake := some (now.addClamped delay) } := by
  cases call with
  | sleep delay =>
    simp only [serve] at served
    split at served
    · rename_i awake
      cases served
      exact ⟨delay, rfl, awake, rfl⟩
    · split at served <;> cases served
  | pause =>
    simp only [serve] at served
    split at served <;> cases served
  | state | setState | record | identity | name | now | panic => cases served

theorem serve_panicked {cause : Panic} (served : surface.serve life now call = .panicked cause) :
    call = .panic cause := by
  cases call with
  | panic reason =>
    cases served
    rfl
  | sleep delay =>
    simp only [serve] at served
    split at served
    · cases served
    · split at served <;> cases served
  | pause =>
    simp only [serve] at served
    split at served <;> cases served
  | state | setState | record | identity | name | now => cases served

end Surface

end TaskKernel
