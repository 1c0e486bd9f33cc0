import TaskKernel.Proofs.Task.Making

/-!
The one configuration of a program. It is the first one that is read or installed, it is usable, and it stays
whatever becomes of the environment. So a thread that asks for no stack of its own is always built.
-/
namespace TaskKernel

namespace Config

/-- What makes a configuration usable. -/
structure Usable (config : Config) : Prop where
  roomy : config.Roomy
  stem : config.nameStem ≠ ""
  backoff : config.lockBackoff.toNanos ≤ longestBackoff.toNanos

theorem fault?_eq_none {config : Config} : config.fault? = none ↔ config.Usable := by
  have named : config.nameStem.isEmpty = true ↔ config.nameStem = "" := String.isEmpty_iff
  unfold fault?
  constructor
  · intro faultless
    refine ⟨roomy_of_faultless faultless, ?_, ?_⟩
    · intro empty
      rw [named.mpr empty] at faultless
      split at faultless <;> cases faultless
    · apply Nat.not_lt.mp
      intro long
      rw [if_pos ((Delay.lt_iff_toNanos_lt _ _).mpr long)] at faultless
      split at faultless
      · cases faultless
      · split at faultless <;> cases faultless
  · rintro ⟨roomy, stem, backoff⟩
    rw [if_neg, if_neg (mt named.mp stem), if_neg (mt (Delay.lt_iff_toNanos_lt _ _).mp (Nat.not_lt.mpr backoff))]
    rintro ⟨own, small⟩
    exact roomy.elim own (Nat.not_le.mpr small)

private theorem library_faultless : library.fault? = none := by decide

/-- What a program is configured with if nothing is installed before the first reading. -/
def chosen (environment : Environment) : Config :=
  if (ofEnvironment environment).fault? = none then ofEnvironment environment else library

private theorem firstReading_fst (environment : Environment) : (firstReading environment).1 = chosen environment := by
  unfold firstReading chosen
  simp only
  split
  · rename_i faultless
    rw [if_pos faultless]
  · rename_i fault found
    rw [found, if_neg nofun]

private theorem chosen_faultless (environment : Environment) : (chosen environment).fault? = none := by
  unfold chosen
  split
  · assumption
  · exact library_faultless

variable {slot : Option Config} {config : Config}

private theorem install_of_fault {fault : ConfigFault} (found : config.fault? = some fault) (slot : Option Config) :
    install slot config = .error ⟨.invalidConfig fault, .setConfig⟩ := by
  simp only [install, found]

private theorem install_of_present {present : Config} (faultless : config.fault? = none) :
    install (some present) config = .error ⟨.configFixed, .setConfig⟩ := by
  simp only [install, faultless]

private theorem install_of_absent (faultless : config.fault? = none) : install none config = .ok config := by
  simp only [install, faultless]

private theorem install_eq_ok {installed : Config} : install slot config = .ok installed ↔
    config.fault? = none ∧ slot = none ∧ installed = config := by
  cases found : config.fault? with
  | some fault => simp [install_of_fault found]
  | none =>
    cases slot with
    | none => simp [install_of_absent found, eq_comm]
    | some present => simp [install_of_present found]

end Config

namespace Kernel

/-- What a program does that has to do with its configuration, and what becomes of the environment. -/
inductive Preparation : Type 1
  | vary (environment : Environment)
  | start (thread : ThreadKey)
  | read (thread : ThreadKey)
  | set (config : Config)
  | build (thread : ThreadKey) (handle : ThreadHandle) (name : Option String) (stackSize : Option UInt64)
      (priority : Option Priority)
  | make {σ π ρ υ : Type} (thread : ThreadKey) (settings : Task.Settings υ) (handler : Handler σ π ρ υ)
      (state : σ)

/-- Whether a preparation needs the configuration. -/
def Preparation.reads : Preparation → Bool
  | vary _ | set _ => false
  | start _ | read _ | build .. | make .. => true

/-- Carry out a preparation. A configuration that is refused leaves all as it was. -/
def prepare (kernel : Kernel) : Preparation → Kernel
  | .vary environment => { kernel with environment }
  | .start thread => kernel.start thread
  | .read thread => (kernel.readConfig thread).2
  | .set config => (kernel.setConfig config).toOption.getD kernel
  | .build thread handle name stackSize priority =>
    (kernel.buildThread thread handle name stackSize priority).2
  | .make thread settings handler state => (Task.Host.create kernel thread settings handler state).2

def prepareAll (kernel : Kernel) (list : List Preparation) : Kernel := list.foldl prepare kernel

variable {kernel after : Kernel} {config present : Config} {thread : ThreadKey}

private theorem setConfig_of_fault {fault : ConfigFault} (found : config.fault? = some fault) :
    kernel.setConfig config = .error ⟨.invalidConfig fault, .setConfig⟩ := by
  rw [setConfig, Config.install_of_fault found]
  rfl

private theorem setConfig_of_present (faultless : config.fault? = none) (fixed : kernel.config = some present) :
    kernel.setConfig config = .error ⟨.configFixed, .setConfig⟩ := by
  rw [setConfig, fixed, Config.install_of_present faultless]
  rfl

private theorem setConfig_eq_ok : kernel.setConfig config = .ok after ↔
    config.fault? = none ∧ kernel.config = none ∧ after = { kernel with config := some config } := by
  unfold setConfig
  cases installs : Config.install kernel.config config with
  | error failure =>
    refine iff_of_false nofun ?_
    rintro ⟨faultless, absent, _⟩
    rw [absent, Config.install_of_absent faultless] at installs
    cases installs
  | ok installed =>
    obtain ⟨faultless, absent, rfl⟩ := Config.install_eq_ok.mp installs
    simp [Except.map, faultless, absent, eq_comm]

private theorem readConfig_fst_first (unread : kernel.config = none) (thread : ThreadKey) :
    (kernel.readConfig thread).1 = Config.chosen kernel.environment := by
  rw [← Config.firstReading_fst]
  simp only [readConfig, unread]
  split <;> rename_i reading <;> rw [reading]

private theorem readConfig_snd_first (unread : kernel.config = none) (thread : ThreadKey) :
    (kernel.readConfig thread).2.config = some (Config.chosen kernel.environment) := by
  rw [readConfig_first unread, Config.firstReading_fst]

private theorem readConfig_config (kernel : Kernel) (thread : ThreadKey) :
    (kernel.readConfig thread).2.config = some (kernel.readConfig thread).1 := by
  cases fixed : kernel.config with
  | none => rw [readConfig_snd_first fixed, readConfig_fst_first fixed]
  | some config => rw [readConfig_of_config fixed, fixed]

theorem start_config_eq (kernel : Kernel) (thread : ThreadKey) :
    (kernel.start thread).config = (kernel.readConfig thread).2.config := by
  have logging := perform_still kernel thread Log.begin
  cases fixed : kernel.config with
  | none => rw [start_config fixed, readConfig_first fixed]
  | some config =>
    rw [start, (probeTable_still _ thread).config, readConfig_of_config (logging.config.trans fixed),
      readConfig_of_config fixed, logging.config]

private theorem create_config {σ π ρ υ : Type} (kernel : Kernel) (thread : ThreadKey) (settings : Task.Settings υ)
    (handler : Handler σ π ρ υ) (state : σ) :
    (Task.Host.create kernel thread settings handler state).2.config = (kernel.readConfig thread).2.config := by
  simp only [Task.Host.create, allocateHandle]
  split
  · rfl
  · split <;> simp only [newThread, allocateTimer] <;> split <;> rfl

private theorem prepare_config_of_reads {step : Preparation} (reads : step.reads = true) (thread : ThreadKey) :
    (kernel.prepare step).config = (kernel.readConfig thread).2.config := by
  have told : ∀ other, (kernel.readConfig other).2.config = (kernel.readConfig thread).2.config := by
    intro other
    cases fixed : kernel.config with
    | none => rw [readConfig_snd_first fixed, readConfig_snd_first fixed]
    | some config => rw [readConfig_of_config fixed, readConfig_of_config fixed]
  cases step with
  | vary | set => cases reads
  | start other => exact (start_config_eq kernel other).trans (told other)
  | read other | build other => exact told other
  | make other settings handler state => exact (create_config kernel other settings handler state).trans (told other)

private theorem prepare_config_of_present (fixed : kernel.config = some config) (step : Preparation) :
    (kernel.prepare step).config = some config := by
  cases reads : step.reads with
  | true => rw [prepare_config_of_reads reads 0, readConfig_of_config fixed, fixed]
  | false =>
    cases step with
    | start | read | build | make => cases reads
    | vary environment => exact fixed
    | set other =>
      rw [prepare]
      cases installs : kernel.setConfig other with
      | error failure => exact fixed
      | ok after =>
        obtain ⟨_, absent, _⟩ := setConfig_eq_ok.mp installs
        cases fixed.symm.trans absent

private theorem prepareAll_config_of_present (fixed : kernel.config = some config) (list : List Preparation) :
    (kernel.prepareAll list).config = some config := by
  induction list generalizing kernel with
  | nil => exact fixed
  | cons step rest ih => exact ih (prepare_config_of_present fixed step)

/-- Whether the configuration, if there is one, is usable. -/
def Sound (kernel : Kernel) : Prop := ∀ config, kernel.config = some config → config.Usable

private theorem fresh_sound (environment : Environment) (now : Instant) : (fresh environment now).Sound := by
  intro config found
  cases found

private theorem Sound.prepare (sound : kernel.Sound) (step : Preparation) : (kernel.prepare step).Sound := by
  intro config found
  cases present : kernel.config with
  | some fixed =>
    obtain rfl := Option.some.inj ((prepare_config_of_present present step).symm.trans found)
    exact sound fixed present
  | none =>
    cases reads : step.reads with
    | true =>
      rw [prepare_config_of_reads reads 0, readConfig_snd_first present] at found
      exact Option.some.inj found ▸ Config.fault?_eq_none.mp (Config.chosen_faultless _)
    | false =>
      cases step with
      | start | read | build | make => cases reads
      | vary environment => exact sound config found
      | set other =>
        rw [Kernel.prepare] at found
        cases installs : kernel.setConfig other with
        | error failure =>
          rw [installs] at found
          exact sound config found
        | ok after =>
          obtain ⟨faultless, _, rfl⟩ := setConfig_eq_ok.mp installs
          rw [installs] at found
          exact Option.some.inj found ▸ Config.fault?_eq_none.mp faultless

private theorem Sound.prepareAll (sound : kernel.Sound) (list : List Preparation) : (kernel.prepareAll list).Sound := by
  induction list generalizing kernel with
  | nil => exact sound
  | cons step rest ih => exact ih (sound.prepare step)

private theorem Sound.readConfig_usable (sound : kernel.Sound) (thread : ThreadKey) :
    (kernel.readConfig thread).1.Usable := by
  cases fixed : kernel.config with
  | none =>
    rw [readConfig_fst_first fixed]
    exact Config.fault?_eq_none.mp (Config.chosen_faultless _)
  | some config =>
    rw [readConfig_of_config fixed]
    exact sound config fixed

private theorem Sound.buildThread (sound : kernel.Sound) (thread : ThreadKey) (handle : ThreadHandle)
    (name : Option String) (priority : Option Priority) :
    ∃ life, (kernel.buildThread thread handle name none priority).1 = .ok life :=
  ⟨_, Lifecycle.build_roomy (sound.readConfig_usable thread).roomy handle name priority⟩

private theorem Sound.create_refused {σ π ρ υ : Type} (sound : kernel.Sound) {thread : ThreadKey}
    {settings : Task.Settings υ} {handler : Handler σ π ρ υ} {state : σ} {failure : Failure}
    (usual : settings.stackSize = none)
    (refused : (Task.Host.create kernel thread settings handler state).1 = .error failure) :
    failure = ⟨.zeroInterval, .taskNew⟩ ∧
      ∃ periodic, settings.periodic = some periodic ∧ periodic.interval.isZero = true := by
  have roomy := (sound.readConfig_usable thread).roomy
  simp only [Task.Host.create, allocateHandle, usual, Lifecycle.build_roomy roomy] at refused
  cases timed : settings.periodic with
  | none =>
    rw [timed] at refused
    cases refused
  | some periodic =>
    rw [timed] at refused
    cases zero : periodic.interval.isZero with
    | false =>
      simp only [Timer.create, zero, Bool.false_eq_true, if_false, Except.map] at refused
      cases refused
    | true =>
      simp only [Timer.create, zero, if_true, Except.map] at refused
      cases refused
      exact ⟨rfl, periodic, rfl, zero⟩

/-- What holds of the configuration of a program at a moment. -/
structure Configured (kernel : Kernel) : Prop where
  usable : ∀ config, kernel.config = some config → config.fault? = none
  fixed : ∀ config list, kernel.config = some config → (kernel.prepareAll list).config = some config
  installs : ∀ config after, kernel.setConfig config = .ok after ↔
    config.fault? = none ∧ kernel.config = none ∧ after = { kernel with config := some config }
  unusable : ∀ config fault, config.fault? = some fault → ∃ failure,
    kernel.setConfig config = .error failure ∧ failure = ⟨.invalidConfig fault, .setConfig⟩ ∧
      failure.kind = .badValue
  late : ∀ config, config.fault? = none → kernel.config ≠ none → ∃ failure,
    kernel.setConfig config = .error failure ∧ failure = ⟨.configFixed, .setConfig⟩ ∧
      failure.kind = .invalidState
  refused : ∀ config failure, kernel.setConfig config = .error failure → kernel.prepare (.set config) = kernel
  -- What needs the configuration first takes that of the environment, or else the library's.
  first : ∀ step : Preparation, step.reads = true → kernel.config = none →
    (kernel.prepare step).config = some (Config.chosen kernel.environment)
  told : ∀ thread, (kernel.readConfig thread).1 = kernel.config.getD (Config.chosen kernel.environment) ∧
    (kernel.readConfig thread).2.config = some (kernel.readConfig thread).1
  builds : ∀ thread handle name priority, ∃ life,
    (kernel.buildThread thread handle name none priority).1 = .ok life
  makes : ∀ {σ π ρ υ : Type} (thread : ThreadKey) (settings : Task.Settings υ) (handler : Handler σ π ρ υ)
    (state : σ) (failure : Failure), settings.stackSize = none →
    (Task.Host.create kernel thread settings handler state).1 = .error failure →
    failure = ⟨.zeroInterval, .taskNew⟩ ∧
      ∃ periodic, settings.periodic = some periodic ∧ periodic.interval.isZero = true

/-- A program has one configuration, whatever it does and whatever its environment holds meanwhile. -/
theorem every_program_configured_once (environment : Environment) (now : Instant) (list : List Preparation) :
    ((fresh environment now).prepareAll list).Configured := by
  have sound := (fresh_sound environment now).prepareAll list
  exact {
    usable := fun config found => Config.fault?_eq_none.mpr (sound config found)
    fixed := fun _ list found => prepareAll_config_of_present found list
    installs := fun _ _ => setConfig_eq_ok
    unusable := fun _ _ found => ⟨_, setConfig_of_fault found, rfl, rfl⟩
    late := fun _ faultless taken => by
      obtain ⟨present, fixed⟩ := Option.ne_none_iff_exists'.mp taken
      exact ⟨_, setConfig_of_present faultless fixed, rfl, rfl⟩
    refused := fun config failure refused => by rw [prepare, refused]; rfl
    first := fun _ reads unread => (prepare_config_of_reads reads 0).trans (readConfig_snd_first unread 0)
    told := fun thread => by
      refine ⟨?_, readConfig_config _ thread⟩
      cases fixed : ((fresh environment now).prepareAll list).config with
      | none => exact readConfig_fst_first fixed thread
      | some config => rw [readConfig_of_config fixed, Option.getD_some]
    builds := sound.buildThread
    makes := fun _ _ _ _ _ usual refused => sound.create_refused usual refused }

end Kernel

end TaskKernel
