import TaskKernel.Proofs.Thread.Naming

/-!
How a program comes by its first task. The configuration is read when the program begins and is usable, so a
task that asks for no stack of its own is made.
-/
namespace TaskKernel

namespace Config

/-- The stack that threads get unless they ask for another one is none that building refuses. -/
def Roomy (config : Config) : Prop := config.stackSize = 0 ∨ minStackSize ≤ config.stackSize.toNat

theorem roomy_of_faultless {config : Config} (faultless : config.fault? = none) : config.Roomy := by
  unfold fault? at faultless
  split at faultless
  · cases faultless
  · rename_i fine
    rw [Decidable.not_and_iff_not_or_not, Nat.not_lt] at fine
    exact fine.imp_left Decidable.not_not.mp

theorem firstReading_roomy (environment : Environment) : (firstReading environment).1.Roomy := by
  unfold firstReading
  simp only
  split
  · rename_i faultless
    exact roomy_of_faultless faultless
  · exact .inl rfl

end Config

namespace Kernel

theorem readConfig_of_config {kernel : Kernel} {config : Config} (fixed : kernel.config = some config)
    (thread : ThreadKey) : kernel.readConfig thread = (config, kernel) := by
  simp only [readConfig, fixed]

theorem readConfig_first {kernel : Kernel} (unread : kernel.config = none) (thread : ThreadKey) :
    (kernel.readConfig thread).2.config = some (Config.firstReading kernel.environment).1 := by
  simp only [readConfig, unread]
  split <;> rename_i reading <;> simp [reading]

theorem start_config {kernel : Kernel} (unread : kernel.config = none) (thread : ThreadKey) :
    (kernel.start thread).config = some (Config.firstReading kernel.environment).1 := by
  have logging := perform_still kernel thread Log.begin
  rw [start, (probeTable_still _ thread).config, readConfig_first (logging.config.trans unread),
    logging.environment]

private theorem readConfig_times (kernel : Kernel) (thread : ThreadKey) :
    (kernel.readConfig thread).2.now = kernel.now ∧ (kernel.readConfig thread).2.timers = kernel.timers := by
  unfold readConfig
  split
  · exact ⟨rfl, rfl⟩
  · split
    · exact ⟨rfl, rfl⟩
    · exact ⟨(record_still kernel thread _ _).now, (record_still kernel thread _ _).timers⟩

theorem start_times (kernel : Kernel) (thread : ThreadKey) :
    (kernel.start thread).now = kernel.now ∧ (kernel.start thread).timers = kernel.timers := by
  have logging := perform_still kernel thread Log.begin
  have reading := readConfig_times (kernel.perform thread Log.begin).2 thread
  have probing := probeTable_still ((kernel.perform thread Log.begin).2.readConfig thread).2 thread
  exact ⟨probing.now.trans (reading.1.trans logging.now), probing.timers.trans (reading.2.trans logging.timers)⟩

end Kernel

theorem Lifecycle.build_roomy {config : Config} (roomy : config.Roomy) (handle : ThreadHandle) (name : Option String)
    (priority : Option Priority) : Lifecycle.build handle config name none priority = .ok {
      handle
      name := name.getD (config.nameStem ++ "-" ++ toString handle.number)
      stackSize := config.stackSize
      priority := priority.getD config.defaultPriority
      state := .new
      detached := false
      hasNative := false
      starting := false } := by
  have fine : ¬ (config.stackSize ≠ 0 ∧ config.stackSize.toNat < Config.minStackSize) := by
    rw [Decidable.not_and_iff_not_or_not, Nat.not_lt]
    exact roomy.imp_left Decidable.not_not.mpr
  simp only [Lifecycle.build, Option.getD_none, if_neg fine]

namespace Task.Host

variable {σ π ρ υ : Type}

/-- The host of a task that has been made, with the timer that starts with it. -/
def made (kernel : Kernel) (config : Config) (settings : Settings υ) (handler : Handler σ π ρ υ) (state : σ)
    (initial : Option (Timer σ)) : Host σ π ρ υ where
  kernel := { kernel with
    handles := kernel.handles + 1
    timers := if initial.isSome then kernel.timers + 1 else kernel.timers
    threads := kernel.threads + 1 }
  native := kernel.threads
  task := Task.create {
    handle := ⟨kernel.handles + 1⟩
    name := settings.name.getD (config.nameStem ++ "-" ++ toString (kernel.handles + 1))
    stackSize := config.stackSize
    priority := settings.priority.getD config.defaultPriority
    state := .new
    detached := false
    hasNative := false
    starting := false } handler state initial settings.tickPriority settings.userData

/-- The timer that starts with a task, when `given` timers have been made before. -/
inductive Starts (settings : Settings υ) (given : Nat) : Option (Timer σ) → Prop
  | untimed (none : settings.periodic = .none) : Starts settings given .none
  | timed (periodic : Cadence) (timer : Timer σ) (some : settings.periodic = .some periodic)
      (created : Timer.create given periodic.interval periodic.repeats .dispatch .taskNew = .ok timer) :
      Starts settings given (.some timer)

theorem create_made {kernel : Kernel} {config : Config} {settings : Settings υ} {initial : Option (Timer σ)}
    (fixed : kernel.config = some config) (roomy : config.Roomy) (usual : settings.stackSize = none)
    (starts : Starts settings kernel.timers initial) (thread : ThreadKey) (handler : Handler σ π ρ υ) (state : σ) :
    (create kernel thread settings handler state).1 = .ok (made kernel config settings handler state initial) := by
  cases starts with
  | untimed untimed =>
    simp only [create, Kernel.readConfig_of_config fixed, Kernel.allocateHandle, untimed, usual,
      Lifecycle.build_roomy roomy, Kernel.newThread]
    rfl
  | timed periodic timer timed created =>
    simp only [create, Kernel.readConfig_of_config fixed, Kernel.allocateHandle, timed, created, Except.map, usual,
      Lifecycle.build_roomy roomy, Kernel.newThread, Kernel.allocateTimer]
    rfl

end Task.Host

end TaskKernel
