import TaskKernel.Proofs.Kernel
import TaskKernel.Task.Host

/-!
What the operations of a thread make of the identities in a program. A thread that has none is given the
next one when it first needs it, and nothing else changes. Only the first step of a native thread binds an
identity that was given out before.
-/
namespace TaskKernel

/-- The first handles that are given out. -/
def ThreadHandle.firsts (count : Nat) : List ThreadHandle := (List.range count).map fun place => ⟨place + 1⟩

namespace ThreadHandle

theorem firsts_succ (count : Nat) : firsts (count + 1) = firsts count ++ [⟨count + 1⟩] := by
  simp [firsts, List.range_succ]

@[simp] theorem length_firsts (count : Nat) : (firsts count).length = count := by simp [firsts]

theorem mem_firsts {handle : ThreadHandle} {count : Nat} :
    handle ∈ firsts count ↔ handle.isSome = true ∧ handle.number ≤ count := by
  obtain ⟨number⟩ := handle
  simp only [firsts, List.mem_map, List.mem_range, isSome, bne_iff_ne, ThreadHandle.mk.injEq]
  constructor
  · rintro ⟨place, below, rfl⟩
    omega
  · intro ⟨proper, below⟩
    exact ⟨number - 1, by omega, by omega⟩

theorem firsts_nodup (count : Nat) : (firsts count).Nodup := by
  refine List.Pairwise.map _ (fun one two different same => different ?_) List.nodup_range
  simpa using same

end ThreadHandle

namespace Kernel

/-- What an operation of a thread makes of the identities: it gets the next one if it has none, and keeps
what it has. -/
inductive Named (kernel : Kernel) (thread : ThreadKey) (after : Kernel) : Prop
  | kept (handles : after.handles = kernel.handles) (bound : after.bound = kernel.bound)
      (threads : after.threads = kernel.threads)
  | given (unbound : (kernel.bound thread).isSome = false) (handles : after.handles = kernel.handles + 1)
      (bound : after.bound = fun key => if key = thread then ⟨kernel.handles + 1⟩ else kernel.bound key)
      (threads : after.threads = kernel.threads)

/-- The identity that a thread has got between two moments, if any. -/
def newName (kernel : Kernel) (thread : ThreadKey) (after : Kernel) : List ThreadHandle :=
  if (kernel.bound thread).isSome || !(after.bound thread).isSome then [] else [after.bound thread]

/-- A thread that has an identity keeps it. -/
def Lasts (kernel after : Kernel) : Prop :=
  ∀ key, (kernel.bound key).isSome = true → after.bound key = kernel.bound key

theorem Lasts.of_same {kernel after : Kernel} (same : after.bound = kernel.bound) : kernel.Lasts after :=
  fun key _ => congrFun same key

theorem Lasts.trans {first second third : Kernel} (one : first.Lasts second) (two : second.Lasts third) :
    first.Lasts third := by
  intro key some
  have same := one key some
  exact (two key (same ▸ some)).trans same

namespace Named

variable {kernel after later : Kernel} {thread : ThreadKey}

theorem refl (kernel : Kernel) (thread : ThreadKey) : kernel.Named thread kernel := .kept rfl rfl rfl

theorem trans (one : kernel.Named thread after) (two : after.Named thread later) : kernel.Named thread later := by
  cases one with
  | kept handles bound threads =>
    cases two with
    | kept handles' bound' threads' =>
      exact .kept (handles'.trans handles) (bound'.trans bound) (threads'.trans threads)
    | given unbound handles' bound' threads' =>
      rw [bound] at unbound
      refine .given unbound (by rw [handles', handles]) (by rw [bound', bound, handles]) (threads'.trans threads)
  | given unbound handles bound threads =>
    cases two with
    | kept handles' bound' threads' =>
      exact .given unbound (handles'.trans handles) (bound'.trans bound) (threads'.trans threads)
    | given unbound' => simp [bound, ThreadHandle.isSome] at unbound'

theorem threads (named : kernel.Named thread after) : after.threads = kernel.threads := by
  cases named with
  | kept _ _ threads | given _ _ _ threads => exact threads

theorem of_bound (named : kernel.Named thread after) (some : (kernel.bound thread).isSome = true) :
    after.handles = kernel.handles ∧ after.bound = kernel.bound := by
  cases named with
  | kept handles bound => exact ⟨handles, bound⟩
  | given unbound =>
    rw [some] at unbound
    cases unbound

theorem lasts (named : kernel.Named thread after) : kernel.Lasts after := by
  cases named with
  | kept _ bound => exact .of_same bound
  | given unbound _ bound =>
    intro key some
    have other : key ≠ thread := fun same => by
      rw [same, unbound] at some
      cases some
    simp only [bound, if_neg other]

theorem firsts (named : kernel.Named thread after) :
    ThreadHandle.firsts after.handles = ThreadHandle.firsts kernel.handles ++ kernel.newName thread after := by
  cases named with
  | kept handles bound => cases some : (kernel.bound thread).isSome <;> simp [newName, handles, bound, some]
  | given unbound handles bound =>
    rw [handles, ThreadHandle.firsts_succ]
    have unnamed : (kernel.bound thread).number = 0 := by simpa [ThreadHandle.isSome] using unbound
    simp [newName, bound, ThreadHandle.isSome, unnamed]

end Named

variable (kernel : Kernel) (thread : ThreadKey)

theorem identify_named : kernel.Named thread (kernel.identify thread).2 := by
  cases some : (kernel.bound thread).isSome with
  | true =>
    simp only [identify, some, if_true]
    exact .refl kernel thread
  | false =>
    simp only [identify, some, Bool.false_eq_true, if_false, allocateHandle, bindHandle]
    exact .given some rfl rfl rfl

theorem identify_fst : (kernel.identify thread).1 = (kernel.identify thread).2.bound thread := by
  cases some : (kernel.bound thread).isSome <;> simp [identify, some, allocateHandle, bindHandle]

theorem identify_isSome : (kernel.identify thread).1.isSome = true := by
  cases some : (kernel.bound thread).isSome with
  | true => simp [identify, some]
  | false =>
    simp only [identify, some, Bool.false_eq_true, if_false, allocateHandle]
    simp [ThreadHandle.isSome]

theorem identify_of_bound {kernel : Kernel} {thread : ThreadKey} (some : (kernel.bound thread).isSome = true) :
    kernel.identify thread = (kernel.bound thread, kernel) := by
  simp [identify, some]

theorem isCurrent_named (handle : ThreadHandle) : kernel.Named thread (kernel.isCurrent thread handle).2 := by
  unfold isCurrent
  split
  · exact identify_named kernel thread
  · exact .refl kernel thread

theorem logAccess_named (access : Log.Access) : kernel.Named thread (logAccess thread access kernel).2 := by
  cases access with
  | identify => exact identify_named kernel thread
  | writeRecord level writer text =>
    simp only [logAccess]
    split <;> exact .kept rfl rfl rfl
  | claim | isClaimed | settings | putFlush | putShowTime | putThreshold | start | flush | threshold | write =>
    exact .kept rfl rfl rfl

private theorem perform_named {α : Type} (program : Log.Program α) :
    kernel.Named thread (kernel.perform thread program).2 := by
  unfold perform
  induction program generalizing kernel with
  | done value => exact .refl kernel thread
  | ask access next ih => exact (logAccess_named kernel thread access).trans (ih _ _)

theorem record_named (level : Log.Level) (text : String) :
    kernel.Named thread (kernel.record thread level text) := perform_named kernel thread _

private theorem probeTable_named : kernel.Named thread (kernel.probeTable thread) := by
  unfold probeTable
  split
  · exact .refl kernel thread
  · exact (record_named kernel thread _ _).trans (.kept rfl rfl rfl)

theorem readConfig_named : kernel.Named thread (kernel.readConfig thread).2 := by
  unfold readConfig
  split
  · exact .refl kernel thread
  · split
    · exact .kept rfl rfl rfl
    · exact (record_named kernel thread _ _).trans (.kept rfl rfl rfl)

theorem start_named : kernel.Named thread (kernel.start thread) :=
  ((perform_named kernel thread _).trans (readConfig_named _ thread)).trans (probeTable_named _ thread)

theorem setConfig_same {kernel after : Kernel} {config : Config} (installed : kernel.setConfig config = .ok after) :
    after.handles = kernel.handles ∧ after.bound = kernel.bound ∧ after.threads = kernel.threads := by
  unfold setConfig at installed
  cases result : Config.install kernel.config config with
  | error failure =>
    rw [result] at installed
    cases installed
  | ok config =>
    rw [result] at installed
    cases installed
    exact ⟨rfl, rfl, rfl⟩

end Kernel

/-- Whether an effect leaves alone the identity that is bound to the thread. -/
def Effect.isPlain : Effect → Bool
  | bindHandle _ => false
  | probeTable | record .. => true

namespace Kernel

variable (kernel : Kernel) (thread : ThreadKey)

theorem carryOutAll_named {effects : List Effect} (plain : ∀ effect ∈ effects, effect.isPlain = true) :
    kernel.Named thread (kernel.carryOutAll thread effects) := by
  unfold carryOutAll
  induction effects generalizing kernel with
  | nil => exact .refl kernel thread
  | cons effect rest ih =>
    have first : kernel.Named thread (carryOut thread kernel effect) := by
      cases effect with
      | bindHandle handle => cases plain (.bindHandle handle) List.mem_cons_self
      | probeTable => exact probeTable_named kernel thread
      | record level text => exact record_named kernel thread level text
    exact first.trans (ih _ fun effect member => plain effect (List.mem_cons_of_mem _ member))

/-- A native thread binds its identity before anything it does can need one. -/
theorem carryOutAll_binding {handle : ThreadHandle} {rest : List Effect} (some : handle.isSome = true)
    (plain : ∀ effect ∈ rest, effect.isPlain = true) :
    (kernel.carryOutAll thread (.bindHandle handle :: rest)).handles = kernel.handles ∧
    (kernel.carryOutAll thread (.bindHandle handle :: rest)).threads = kernel.threads ∧
    (kernel.carryOutAll thread (.bindHandle handle :: rest)).bound =
      fun key => if key = thread then handle else kernel.bound key := by
  have named := carryOutAll_named (kernel.bindHandle thread handle) thread plain
  obtain ⟨handles, bound⟩ := named.of_bound (by simpa [bindHandle] using some)
  exact ⟨handles, named.threads, bound⟩

end Kernel

namespace Lifecycle

theorem enterEffects_eq (life : Lifecycle) : ∃ rest, life.enterEffects = .bindHandle life.handle :: rest ∧
    ∀ effect ∈ rest, effect.isPlain = true := by
  refine ⟨_, rfl, ?_⟩
  by_cases normal : life.priority = .normal <;> simp [normal, Effect.isPlain]

theorem begin_plain (life : Lifecycle) (detached hasBody : Bool) :
    (life.begin detached hasBody).life.handle = life.handle ∧
      ∀ effect ∈ (life.begin detached hasBody).effects, effect.isPlain = true := by
  unfold begin
  simp only
  split
  · simp [Effect.isPlain]
  · split
    · simp
    · split <;> simp [Effect.isPlain]

theorem setPriority_plain {life after : Lifecycle} {priority : Priority} {effects : List Effect}
    (changed : life.setPriority priority = .ok (after, effects)) :
    after.handle = life.handle ∧ ∀ effect ∈ effects, effect.isPlain = true := by
  unfold setPriority at changed
  split at changed
  · cases changed
    simp [Effect.isPlain]
  · cases changed

theorem build_handle {handle : ThreadHandle} {config : Config} {name : Option String}
    {stackSize : Option UInt64} {priority : Option Priority} {life : Lifecycle}
    (built : Lifecycle.build handle config name stackSize priority = .ok life) : life.handle = handle := by
  unfold Lifecycle.build at built
  simp only at built
  split at built
  · cases built
  · cases built
    rfl

end Lifecycle

end TaskKernel
