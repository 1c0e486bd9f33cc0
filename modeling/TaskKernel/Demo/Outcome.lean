import TaskKernel.Thread.Lifecycle
import TaskKernel.Time.Delay

/-!
What a demonstration prints and how it ends. Measured times stay values until a line is rendered.
-/
namespace TaskKernel.Demo

inductive Piece
  | text (content : String)
  | time (delay : Delay)
  | timeColumn (delay : Delay)
deriving DecidableEq

abbrev Line : Type := List Piece

namespace Line

def ofText (content : String) : Line := [.text content]

/-- The text of a line, with the given writings of times. -/
def render (time timeColumn : Delay → String) (line : Line) : String :=
  String.join (line.map fun
    | .text content => content
    | .time delay => time delay
    | .timeColumn delay => timeColumn delay)

/-- Fill up with blanks on the left. -/
def alignRight (width : Nat) (text : String) : String :=
  String.ofList (List.replicate (width - text.length) ' ') ++ text

def text (line : Line) : String :=
  line.render Delay.text fun delay => alignRight 6 (delay.textTo 1)

end Line

structure Outcome where
  failure : Option Refusal
  lines : List Line
  kernel : Kernel

namespace Outcome

/-- A panic of the main thread has a code of its own. -/
def exitCode (outcome : Outcome) : Nat :=
  match outcome.failure with
  | none => 0
  | some (.failed _) => 1
  | some (.panicked _) => 101

/-- What the failure adds to the error stream. -/
def errorText (outcome : Outcome) : String :=
  match outcome.failure with
  | some (.failed failure) => "Error: " ++ failure.report.describe ++ "\n"
  | some (.panicked reason) => "thread 'main' panicked: " ++ reason ++ "\n"
  | none => ""

end Outcome

end TaskKernel.Demo
