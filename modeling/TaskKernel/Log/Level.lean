import TaskKernel.Text.Numeral

/-!
The levels of records. A record passes a threshold when its level is at most the threshold.
-/
namespace TaskKernel.Log

inductive Level
  | off
  | error
  | warn
  | info
  | debug
  | trace
deriving DecidableEq, Inhabited

namespace Level

def code : Level → UInt8
  | off => 0
  | error => 1
  | warn => 2
  | info => 3
  | debug => 4
  | trace => 5

/-- Codes beyond the known ones mean the most verbose level. -/
def ofCode : UInt8 → Level
  | 0 => off
  | 1 => error
  | 2 => warn
  | 3 => info
  | 4 => debug
  | _ => trace

instance : LE Level := ⟨fun left right => left.code ≤ right.code⟩

instance (left right : Level) : Decidable (left ≤ right) :=
  inferInstanceAs (Decidable (left.code ≤ right.code))

/-- A name or a code, in any case, with blanks around it. -/
def ofText? (text : String) : Option Level :=
  match (Text.trim text).toLower with
  | "off" | "0" => some off
  | "error" | "1" => some error
  | "warn" | "2" => some warn
  | "info" | "3" => some info
  | "debug" | "4" => some debug
  | "trace" | "5" => some trace
  | _ => none

/-- What a record of this level begins with. -/
def tag : Level → String
  | off => ""
  | error => "[ERROR]"
  | warn => "[WARN] "
  | info => "[INFO] "
  | debug => "[DEBUG]"
  | trace => "[TRACE]"

def name : Level → String
  | off => "Off"
  | error => "Error"
  | warn => "Warn"
  | info => "Info"
  | debug => "Debug"
  | trace => "Trace"

end Level

end TaskKernel.Log
