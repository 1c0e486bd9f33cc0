import TaskKernel.Thread.Lifecycle

/-!
What leaves the clock of a kernel, its count of timers and its configuration alone: all that threads do. Only
time itself moves the clock, only a timer that is made moves the count, and the configuration is read once.
-/
namespace TaskKernel.Kernel

structure Still (kernel after : Kernel) : Prop where
  now : after.now = kernel.now
  timers : after.timers = kernel.timers
  config : after.config = kernel.config
  environment : after.environment = kernel.environment

theorem Still.refl (kernel : Kernel) : kernel.Still kernel := ⟨rfl, rfl, rfl, rfl⟩

theorem Still.trans {first second third : Kernel} (one : first.Still second) (two : second.Still third) :
    first.Still third where
  now := two.now.trans one.now
  timers := two.timers.trans one.timers
  config := two.config.trans one.config
  environment := two.environment.trans one.environment

variable (kernel : Kernel) (thread : ThreadKey)

theorem identify_still : kernel.Still (kernel.identify thread).2 := by
  unfold identify
  split <;> exact ⟨rfl, rfl, rfl, rfl⟩

theorem isCurrent_still (handle : ThreadHandle) : kernel.Still (kernel.isCurrent thread handle).2 := by
  unfold isCurrent
  split
  · exact identify_still kernel thread
  · exact .refl kernel

theorem logAccess_still (access : Log.Access) : kernel.Still (logAccess thread access kernel).2 := by
  cases access with
  | identify => exact identify_still kernel thread
  | writeRecord level writer text =>
    simp only [logAccess]
    split <;> exact ⟨rfl, rfl, rfl, rfl⟩
  | claim | isClaimed | settings | putFlush | putShowTime | putThreshold | start | flush | threshold | write =>
    exact ⟨rfl, rfl, rfl, rfl⟩

theorem perform_still {α : Type} (program : Log.Program α) :
    kernel.Still (kernel.perform thread program).2 := by
  unfold perform
  induction program generalizing kernel with
  | done value => exact .refl kernel
  | ask access next ih => exact (logAccess_still kernel thread access).trans (ih _ _)

theorem record_still (level : Log.Level) (text : String) : kernel.Still (kernel.record thread level text) :=
  perform_still kernel thread _

theorem probeTable_still : kernel.Still (kernel.probeTable thread) := by
  unfold probeTable
  split
  · exact .refl kernel
  · exact (record_still kernel thread _ _).trans ⟨rfl, rfl, rfl, rfl⟩

private theorem carryOut_still (effect : Effect) : kernel.Still (carryOut thread kernel effect) := by
  cases effect with
  | bindHandle handle => exact ⟨rfl, rfl, rfl, rfl⟩
  | probeTable => exact probeTable_still kernel thread
  | record level text => exact record_still kernel thread level text

theorem carryOutAll_still (effects : List Effect) : kernel.Still (kernel.carryOutAll thread effects) := by
  unfold carryOutAll
  induction effects generalizing kernel with
  | nil => exact .refl kernel
  | cons effect rest ih => exact (carryOut_still kernel thread effect).trans (ih (carryOut thread kernel effect))

@[simp] theorem identify_now : (kernel.identify thread).2.now = kernel.now := (identify_still kernel thread).now

@[simp] theorem isCurrent_now (handle : ThreadHandle) :
    (kernel.isCurrent thread handle).2.now = kernel.now := (isCurrent_still kernel thread handle).now

@[simp] theorem record_now (level : Log.Level) (text : String) :
    (kernel.record thread level text).now = kernel.now := (record_still kernel thread level text).now

@[simp] theorem carryOutAll_now (effects : List Effect) :
    (kernel.carryOutAll thread effects).now = kernel.now := (carryOutAll_still kernel thread effects).now

end TaskKernel.Kernel
