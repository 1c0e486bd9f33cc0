import TaskKernel.Config
import TaskKernel.Proofs.Environment
import TaskKernel.Proofs.Time.Difference

/-!
How the environment overrides the settings of the library. Each setting goes by a variable of its own and is what
the text of that variable stands for, or else the library's; no variable touches two settings.
-/
namespace TaskKernel

namespace Priority

/-- What a priority is called, in lower case. -/
def names : Priority → List String
  | low => ["low", "0"]
  | normal => ["normal", "1"]
  | high => ["high", "2"]
  | realtime => ["realtime", "rt", "3"]

/-- A name of the priority in any case. -/
def Named (core : List Char) (priority : Priority) : Prop :=
  ∃ name ∈ priority.names, core.map Char.toLower = name.toList

theorem ofText?_eq_some_iff {text : String} {priority : Priority} :
    ofText? text = some priority ↔ text.toLower ∈ priority.names := by
  unfold ofText?
  constructor
  · intro found
    split at found <;> cases found <;> simp_all [names]
  · intro member
    cases priority <;> simp only [names, List.mem_cons, List.not_mem_nil, or_false] at member
    case low | normal | high => rcases member with same | same <;> simp [same]
    case realtime => rcases member with same | same | same <;> simp [same]

theorem trim_eq_some_iff {text : String} {priority : Priority} : ofText? (Text.trim text) = some priority ↔
    ∃ core, Text.Stripped text.toList core ∧ Named core priority := by
  have lowered (core : List Char) (name : String) :
      (String.ofList core).toLower = name ↔ core.map Char.toLower = name.toList := by
    have mapped : (String.ofList core).toLower = (String.ofList core).map Char.toLower := rfl
    rw [← String.toList_inj, mapped, String.toList_map, String.toList_ofList]
  rw [ofText?_eq_some_iff, Text.trim]
  constructor
  · intro member
    exact ⟨_, Text.trimmed_stripped text.toList, _, member, (lowered _ _).mp rfl⟩
  · rintro ⟨core, stripped, name, member, same⟩
    rwa [stripped.trimmed_eq, (lowered core name).mpr same]

end Priority

open Text.Numeral (Reads)

private theorem Delay.toNanos_ofMicros (micros : UInt64) : (Delay.ofMicros micros).toNanos = micros.toNat * 1000 := by
  have below := micros.toNat_lt
  exact Delay.toNanos_ofNanos (by simp only [nanosPerSec, UInt64.size]; omega)

/-- A number of microseconds is read as the delay of that length. -/
def ReadsMicros (text : String) (delay : Delay) : Prop :=
  ∃ micros : Nat, Reads false 0 (2 ^ 64 - 1) text micros ∧ delay.toNanos = micros * 1000

theorem readsMicros_iff {text : String} {delay : Delay} :
    (Text.Numeral.word64? (Text.trim text)).map Delay.ofMicros = some delay ↔ ReadsMicros text delay := by
  have reads (word : UInt64) : Text.Numeral.word64? (Text.trim text) = some word ↔
      Reads false 0 (2 ^ 64 - 1) text word.toNat := Text.Numeral.word64?_exact.trim_eq_some_iff
  rw [Option.map_eq_some_iff]
  constructor
  · rintro ⟨word, found, rfl⟩
    exact ⟨word.toNat, (reads word).mp found, Delay.toNanos_ofMicros word⟩
  · rintro ⟨micros, spelled, length⟩
    have ⟨_, _, _, least, most⟩ := spelled
    obtain ⟨word, same⟩ := Text.Numeral.word64?_exact.onto micros least most
    refine ⟨word, (reads word).mpr (same ▸ spelled), Delay.toNanos_injective ?_⟩
    rw [Delay.toNanos_ofMicros, length, Int.ofNat_inj.mp same]

theorem Environment.micros_eq_iff {environment : Environment} {name : String} {fallback : UInt64} {delay : Delay} :
    environment.micros name fallback = delay ↔
      environment.Settles name ReadsMicros (Delay.ofMicros fallback) delay := by
  rw [micros, parse, parse?, ← Option.getD_map Delay.ofMicros, Option.map_bind]
  exact getD_bind_eq_iff fun _ _ => readsMicros_iff

namespace Config

/-- The settings that the environment is asked for. -/
inductive Setting
  | stackSize
  | nameStem
  | lockSpins
  | lockBackoff
  | defaultPriority
deriving DecidableEq

namespace Setting

/-- The variable that a setting goes by. -/
def key : Setting → String
  | stackSize => "TASKER_STACK_SIZE"
  | nameStem => "TASKER_THREAD_PREFIX"
  | lockSpins => "TASKER_LOCK_SPINS"
  | lockBackoff => "TASKER_LOCK_BACKOFF_US"
  | defaultPriority => "TASKER_DEFAULT_PRIORITY"

/-- Whether two configurations have the setting in common. -/
def Shared (left right : Config) : Setting → Prop
  | stackSize => left.stackSize = right.stackSize
  | nameStem => left.nameStem = right.nameStem
  | lockSpins => left.lockSpins = right.lockSpins
  | lockBackoff => left.lockBackoff = right.lockBackoff
  | defaultPriority => left.defaultPriority = right.defaultPriority

private theorem key_injective {one other : Setting} (same : one.key = other.key) : one = other := by
  revert same
  cases one <;> cases other <;> decide

private theorem eq_of_shared {left right : Config} (shared : ∀ setting, Shared left right setting) : left = right := by
  cases left
  cases right
  cases shared stackSize
  cases shared nameStem
  cases shared lockSpins
  cases shared lockBackoff
  cases shared defaultPriority
  rfl

end Setting

/-- How the settings follow from an environment. -/
structure Overridden (environment : Environment) : Prop where
  stackSize : ∀ value, (ofEnvironment environment).stackSize = value ↔
    environment.Settles "TASKER_STACK_SIZE" (fun text word => Reads false 0 (2 ^ 64 - 1) text word.toNat)
      library.stackSize value
  nameStem : ∀ value, (ofEnvironment environment).nameStem = value ↔
    environment.Settles "TASKER_THREAD_PREFIX" (fun text stem => text = stem) library.nameStem value
  lockSpins : ∀ value, (ofEnvironment environment).lockSpins = value ↔
    environment.Settles "TASKER_LOCK_SPINS" (fun text word => Reads false 0 (2 ^ 32 - 1) text word.toNat)
      library.lockSpins value
  lockBackoff : ∀ value, (ofEnvironment environment).lockBackoff = value ↔
    environment.Settles "TASKER_LOCK_BACKOFF_US" ReadsMicros library.lockBackoff value
  defaultPriority : ∀ value, (ofEnvironment environment).defaultPriority = value ↔
    environment.Settles "TASKER_DEFAULT_PRIORITY"
      (fun text priority => ∃ core, Text.Stripped text.toList core ∧ priority.Named core)
      library.defaultPriority value
  own : ∀ (other : Environment) (setting : Setting), environment.bytes setting.key = other.bytes setting.key →
    setting.Shared (ofEnvironment environment) (ofEnvironment other)
  single : ∀ (other : Environment) name, (∀ key, key ≠ name → environment.bytes key = other.bytes key) →
    ∃ changed : Setting, ∀ setting, setting ≠ changed →
      setting.Shared (ofEnvironment environment) (ofEnvironment other)
  untouched : (∀ setting : Setting, environment.bytes setting.key = none) → ofEnvironment environment = library

private theorem ofEnvironment_shared {environment other : Environment} {setting : Setting}
    (same : environment.bytes setting.key = other.bytes setting.key) :
    setting.Shared (ofEnvironment environment) (ofEnvironment other) := by
  have text := Environment.text?_congr same
  cases setting with
  | stackSize | lockSpins | defaultPriority => exact Environment.parse_congr text
  | nameStem => exact congrArg (Option.getD · defaultNameStem) text
  | lockBackoff => exact congrArg Delay.ofMicros (Environment.parse_congr text)

private theorem ofEnvironment_empty : ofEnvironment Environment.empty = library := rfl

/-- Every environment overrides the settings one by one. -/
theorem every_setting_read_apart (environment : Environment) : Overridden environment where
  stackSize _ := Environment.parse_eq_iff fun _ _ => Text.Numeral.word64?_exact.trim_eq_some_iff
  nameStem value := by
    have raw := @Environment.getD_bind_eq_iff String environment "TASKER_THREAD_PREFIX" value library.nameStem some
      (fun text stem => text = stem) fun text stem => Option.some_inj
    rwa [Option.bind_fun_some] at raw
  lockSpins _ := Environment.parse_eq_iff fun _ _ => Text.Numeral.word32?_exact.trim_eq_some_iff
  lockBackoff value := by
    simp only [ofEnvironment, library]
    exact Environment.micros_eq_iff
  defaultPriority _ := Environment.parse_eq_iff fun _ _ => Priority.trim_eq_some_iff
  own _ _ same := ofEnvironment_shared same
  single other name apart := by
    by_cases touched : ∃ setting : Setting, setting.key = name
    · obtain ⟨changed, rfl⟩ := touched
      refine ⟨changed, fun setting different => ofEnvironment_shared (apart _ ?_)⟩
      exact fun same => different (Setting.key_injective same)
    · exact ⟨.stackSize, fun setting _ => ofEnvironment_shared (apart _ fun same => touched ⟨setting, same⟩)⟩
  untouched unset := by
    rw [← ofEnvironment_empty]
    exact Setting.eq_of_shared fun setting => ofEnvironment_shared (unset setting)

end Config

end TaskKernel
