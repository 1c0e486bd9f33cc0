import TaskKernel.Environment
import TaskKernel.Failure

/-!
The settings of a process. Each is read from its own environment variable and falls back to its own
default; `Config.fault?` says what makes a configuration unusable.
-/
namespace TaskKernel

/-- A stack size of zero leaves the choice to the system. The first `lockSpins` polls of a bounded lock
attempt only yield, and there is a pause of `lockBackoff` between the later ones. -/
structure Config where
  stackSize : UInt64
  nameStem : String
  lockSpins : UInt32
  lockBackoff : Delay
  defaultPriority : Priority
deriving DecidableEq

namespace Config

/-- The smallest explicit stack. -/
def minStackSize : Nat := 16384

def defaultNameStem : String := "tasker"

def defaultLockSpins : UInt32 := 64

def defaultLockBackoffMicros : UInt64 := 50

def longestBackoff : Delay := Delay.ofMillis 100

def library : Config where
  stackSize := 0
  nameStem := defaultNameStem
  lockSpins := defaultLockSpins
  lockBackoff := Delay.ofMicros defaultLockBackoffMicros
  defaultPriority := .normal

instance : Inhabited Config := ⟨library⟩

def ofEnvironment (environment : Environment) : Config where
  stackSize := environment.parse Text.Numeral.word64? "TASKER_STACK_SIZE" 0
  nameStem := environment.text "TASKER_THREAD_PREFIX" defaultNameStem
  lockSpins := environment.parse Text.Numeral.word32? "TASKER_LOCK_SPINS" defaultLockSpins
  lockBackoff := environment.micros "TASKER_LOCK_BACKOFF_US" defaultLockBackoffMicros
  defaultPriority := environment.parse Priority.ofText? "TASKER_DEFAULT_PRIORITY" .normal

/-- The first thing wrong, in the order stack, name stem, backoff. -/
def fault? (config : Config) : Option ConfigFault :=
  if config.stackSize ≠ 0 ∧ config.stackSize.toNat < minStackSize then some .stackTooSmall
  else if config.nameStem.isEmpty then some .emptyNameStem
  else if longestBackoff < config.lockBackoff then some .backoffTooLong
  else none

/-- The environment's settings, or the library's with the reason for leaving the environment's. -/
def firstReading (environment : Environment) : Config × Option ConfigFault :=
  let config := ofEnvironment environment
  match config.fault? with
  | none => (config, none)
  | some fault => (library, some fault)

/-- What an attempt to install a configuration makes of the slot. -/
def install (slot : Option Config) (config : Config) : Except Failure Config :=
  match config.fault?, slot with
  | some fault, _ => .error ⟨.invalidConfig fault, .setConfig⟩
  | none, some _ => .error ⟨.configFixed, .setConfig⟩
  | none, none => .ok config

end Config

end TaskKernel
