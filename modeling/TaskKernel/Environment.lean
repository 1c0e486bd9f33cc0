import TaskKernel.Priority
import TaskKernel.Text.Numeral
import TaskKernel.Text.Quoted
import TaskKernel.Time.Delay

/-!
Environment variables. A variable is unset or holds bytes; bytes that are no text count as unset.
Typed readings trim white space and fall back to a default when the text does not parse.
-/
namespace TaskKernel

/-- The bytes of every variable that is set. -/
structure Environment where
  bytes : String → Option ByteArray

namespace Environment

def empty : Environment := ⟨fun _ => none⟩

def set (environment : Environment) (name : String) (value : Option ByteArray) : Environment :=
  ⟨fun other => if other = name then value else environment.bytes other⟩

def setText (environment : Environment) (name text : String) : Environment :=
  environment.set name (some text.toUTF8)

/-- Why a variable cannot be set. The system takes a value to end at its first zero byte, so a value with
one is not passed on. -/
def fault? (name : String) (value : ByteArray) : Option String :=
  if value.toList.contains 0 then
    some ("failed to set environment variable `" ++ Text.quoted name ++ "` to `" ++
      Text.quoted ((String.fromUTF8? value).getD "") ++ "`: file name contained an unexpected NUL byte")
  else none

/-- The raw text of a variable. -/
def text? (environment : Environment) (name : String) : Option String :=
  (environment.bytes name).bind String.fromUTF8?

def isSet (environment : Environment) (name : String) : Bool := (environment.text? name).isSome

def text (environment : Environment) (name fallback : String) : String :=
  (environment.text? name).getD fallback

/-- The trimmed text, when it parses. -/
def parse? {α : Type} (environment : Environment) (parser : String → Option α) (name : String) : Option α :=
  (environment.text? name).bind fun raw => parser (Text.trim raw)

def parse {α : Type} (environment : Environment) (parser : String → Option α) (name : String)
    (fallback : α) : α :=
  (environment.parse? parser name).getD fallback

/-- Four words are true and every other text is false. The letters of these words are the lower case of
no character outside ASCII. -/
def flag (environment : Environment) (name : String) (fallback : Bool) : Bool :=
  match environment.text? name with
  | some raw => ["1", "true", "yes", "on"].contains raw.toLower
  | none => fallback

def micros (environment : Environment) (name : String) (fallback : UInt64) : Delay :=
  Delay.ofMicros (environment.parse Text.Numeral.word64? name fallback)

end Environment

end TaskKernel
