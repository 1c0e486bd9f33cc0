/-!
Identities of threads and the states of their lives. Handles are numbered from one in the order in which
they are given out; zero stands for no thread. A thread is new, then running, then terminated, and takes
each transition at most once.
-/
namespace TaskKernel

/-- A thread as the system knows it, whether it has a handle or not. -/
abbrev ThreadKey : Type := Nat

structure ThreadHandle where
  number : Nat
deriving DecidableEq, Inhabited

namespace ThreadHandle

def none : ThreadHandle := ⟨0⟩

def isNone (handle : ThreadHandle) : Bool := handle.number == 0

def isSome (handle : ThreadHandle) : Bool := handle.number != 0

/-- The short form used in records. -/
def text (handle : ThreadHandle) : String :=
  if handle.isNone then "none" else "#" ++ toString handle.number

def describe (handle : ThreadHandle) : String :=
  "ThreadHandle(" ++ (if handle.isNone then "NONE" else toString handle.number) ++ ")"

end ThreadHandle

inductive LifeState
  | new
  | running
  | terminated
deriving DecidableEq, Inhabited

namespace LifeState

def code : LifeState → UInt8
  | new => 0
  | running => 1
  | terminated => 2

/-- Codes beyond the known ones mean a terminated thread. -/
def ofCode : UInt8 → LifeState
  | 0 => new
  | 1 => running
  | _ => terminated

def canBecome : LifeState → LifeState → Bool
  | new, running => true
  | running, terminated => true
  | _, _ => false

def text : LifeState → String
  | new => "NEW"
  | running => "RUNNING"
  | terminated => "TERMINATED"

def name : LifeState → String
  | new => "New"
  | running => "Running"
  | terminated => "Terminated"

end LifeState

end TaskKernel
