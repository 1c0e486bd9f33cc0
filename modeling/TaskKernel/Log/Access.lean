import TaskKernel.Environment
import TaskKernel.Log.Level
import TaskKernel.Script
import TaskKernel.Thread.State
import TaskKernel.Time.Clock

/-!
The shared cells of the log and the operations on them, one atomic access at a time. The cells are
filled from the environment by whoever claims them first; readers and setters do so on demand.

What goes to the error stream is written piece by piece. One piece is written as a whole, so records of
several threads do not mix.
-/
namespace TaskKernel.Log

inductive Output
  | plain (text : String)
  | record (elapsedMillis : Option Nat) (level : Level) (writer : ThreadHandle) (text : String)
deriving DecidableEq

namespace Output

/-- Milliseconds in a column of eight places, and a space. -/
def elapsedText (millis : Nat) : String :=
  let digits := toString millis
  String.ofList (List.replicate (8 - digits.length) ' ') ++ digits ++ " "

def text : Output → String
  | plain text => text
  | record millis level writer text =>
    (millis.elim "" elapsedText) ++ level.tag ++ " [" ++ writer.text ++ "] " ++ text ++ "\n"

/-- A line of the error stream with a mark in place of the elapsed time that it may begin with. -/
def maskElapsed (mark line : String) : String :=
  let (column, rest) := line.toList.splitAt 8
  let digits := column.dropWhile (· = ' ')
  if column.length = 8 && !digits.isEmpty && digits.all Char.isDigit && rest.head? = some ' ' then
    mark ++ String.ofList rest
  else line

end Output

/-- The cells as every thread sees them. -/
structure Cells where
  claimed : Bool
  flush : Bool
  showTime : Bool
  threshold : Level
  started : Option Instant
deriving DecidableEq

namespace Cells

/-- The cells of a process in which nothing has been logged. -/
def fresh : Cells := ⟨false, false, false, .warn, none⟩

end Cells

/-- What an environment asks for. -/
structure Settings where
  flush : Bool
  showTime : Bool
  threshold : Level
deriving DecidableEq

namespace Settings

def ofEnvironment (environment : Environment) : Settings where
  flush := environment.flag "TASKER_FLUSH_EPRINT" false
  showTime := environment.flag "TASKER_LOG_TIME" false
  threshold := (Level.ofText? (environment.text "TASKER_LOG_LEVEL" "warn")).getD .warn

end Settings

/-- One indivisible access to the process. -/
inductive Access
  | claim
  | isClaimed
  | settings
  | putFlush (on : Bool)
  | putShowTime (on : Bool)
  | putThreshold (level : Level)
  | start
  | flush
  | threshold
  | identify
  | write (text : String)
  | writeRecord (level : Level) (writer : ThreadHandle) (text : String)

/-- Both `claim` and `isClaimed` tell whether the cells were claimed before. -/
def Access.Answer : Access → Type
  | claim | isClaimed | flush => Bool
  | settings => Settings
  | threshold => Level
  | identify => ThreadHandle
  | putFlush _ | putShowTime _ | putThreshold _ | start | write _ | writeRecord .. => Unit

abbrev Program (α : Type) : Type := Script Access Access.Answer α

private def ask (access : Access) : Program access.Answer := Script.call access

/-- Claim the cells and fill them, unless they are claimed already. -/
def begin : Program Unit := do
  let taken : Bool ← ask .claim
  if taken then pure () else
    let settings : Settings ← ask .settings
    ask (.putFlush settings.flush)
    ask (.putShowTime settings.showTime)
    ask .start
    ask (.putThreshold settings.threshold)

private def ensure : Program Unit := do
  let claimed : Bool ← ask .isClaimed
  if claimed then pure () else begin

def flushing : Program Bool := do
  ensure
  ask .flush

def threshold : Program Level := do
  ensure
  ask .threshold

def setThreshold (level : Level) : Program Unit := do
  begin
  ask (.putThreshold level)

def setFlush (on : Bool) : Program Unit := do
  begin
  ask (.putFlush on)

def setShowTime (on : Bool) : Program Unit := do
  begin
  ask (.putShowTime on)

def enabled (level : Level) : Program Bool := do
  let limit ← threshold
  pure (decide (level ≤ limit))

/-- Text without a record around it. -/
def print (text : String) : Program Unit := do
  ask (.write text)
  let _ ← flushing

/-- A record, whose writer gets an identity only when the record is written. -/
def record (level : Level) (text : String) : Program Unit := do
  let passes ← enabled level
  if passes then
    let writer : ThreadHandle ← ask .identify
    ask (.writeRecord level writer text)
    let _ ← flushing
  else pure ()

end TaskKernel.Log
