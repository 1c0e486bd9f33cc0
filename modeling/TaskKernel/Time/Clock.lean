import TaskKernel.Time.Delay

/-!
Instants of a clock: signed whole seconds and a fraction. The last instant stands for "never".
`Instant.toNanos` is the exact instant; the order of instants is the order of exact instants. A deadline is
an absolute instant and never lies before the moment at which it is set; a delay too long for the clock
gives the last instant.

Arithmetic on signed 64-bit words goes through the exact integer, so a result is either the exact one,
absent, or the nearest end of the range.
-/
namespace TaskKernel

namespace Word

/-- The word that holds a value, when the value is in range. -/
def ofInt? (value : Int) : Option Int64 :=
  if Int64.minValue.toInt ≤ value ∧ value ≤ Int64.maxValue.toInt then some (Int64.ofInt value) else none

/-- The word nearest to a value. -/
def clamp (value : Int) : Int64 :=
  if value < Int64.minValue.toInt then Int64.minValue
  else if Int64.maxValue.toInt < value then Int64.maxValue
  else Int64.ofInt value

/-- An unsigned word read as a signed one, when its sign bit is clear. -/
def ofUnsigned? (word : UInt64) : Option Int64 := ofInt? word.toNat

def add? (left right : Int64) : Option Int64 := ofInt? (left.toInt + right.toInt)

/-- Addition of two unsigned words, absent when a carry leaves the word. -/
def addUnsigned? (left right : UInt64) : Option UInt64 :=
  if left.toNat + right.toNat < UInt64.size then some (left + right) else none

theorem toInt_of_ofInt? {value : Int} {word : Int64} (found : ofInt? value = some word) :
    word.toInt = value := by
  unfold ofInt? at found
  split at found
  · rename_i inside
    cases found
    exact Int64.toInt_ofInt_of_le (by simpa using inside.1) (by
      have high := inside.2
      simp only [Int64.toInt_maxValue] at high
      omega)
  · cases found

end Word

structure Instant where
  secs : Int64
  nanos : UInt32
  nanos_lt : nanos.toNat < nanosPerSec

attribute [ext] Instant

namespace Instant

instance : DecidableEq Instant := fun left right =>
  decidable_of_iff (left.secs = right.secs ∧ left.nanos = right.nanos) Instant.ext_iff.symm

def toNanos (instant : Instant) : Int := instant.secs.toInt * nanosPerSec + instant.nanos.toNat

/-- The start of the clock. -/
def zero : Instant := ⟨0, 0, Delay.zero.nanos_lt⟩

/-- The last instant. -/
def last : Instant := ⟨Int64.maxValue, 999999999, Delay.longest.nanos_lt⟩

instance : Inhabited Instant := ⟨zero⟩

/-- Instants of the last second mean "never". -/
def isNever (instant : Instant) : Bool := instant.secs == Int64.maxValue

/-- Any amount of nanoseconds is carried into the seconds, which stay in range. -/
def ofParts (secs nanos : Int64) : Instant where
  secs := Word.clamp (secs.toInt + nanos.toInt / nanosPerSec)
  nanos := UInt32.ofNat (nanos.toInt % nanosPerSec).toNat
  nanos_lt := Delay.fraction_lt (by
    have below := Int.emod_lt_of_pos nanos.toInt (show (0 : Int) < nanosPerSec by decide)
    have start := Int.emod_nonneg nanos.toInt (show (nanosPerSec : Int) ≠ 0 by decide)
    omega)

/-- The instant a delay later, absent when a word of the seconds overflows on the way. -/
def add? (start : Instant) (delay : Delay) : Option Instant := do
  let whole ← Word.ofUnsigned? delay.secs
  let secs ← Word.add? start.secs whole
  let sum := start.nanos.toNat + delay.nanos.toNat
  if below : sum < nanosPerSec then
    some ⟨secs, UInt32.ofNat sum, Delay.fraction_lt below⟩
  else
    let carried ← Word.add? secs 1
    some ⟨carried, UInt32.ofNat (sum - nanosPerSec), Delay.fraction_lt (by
      have first := start.nanos_lt
      have second := delay.nanos_lt
      omega)⟩

/-- The instant a delay later, never after the last one. -/
def addClamped (start : Instant) (delay : Delay) : Instant := (start.add? delay).getD last

instance : LT Instant :=
  ⟨fun left right => left.secs < right.secs ∨ left.secs = right.secs ∧ left.nanos < right.nanos⟩

instance : LE Instant :=
  ⟨fun left right => left.secs < right.secs ∨ left.secs = right.secs ∧ left.nanos ≤ right.nanos⟩

instance (left right : Instant) : Decidable (left < right) :=
  inferInstanceAs (Decidable (left.secs < right.secs ∨ left.secs = right.secs ∧ left.nanos < right.nanos))

instance (left right : Instant) : Decidable (left ≤ right) :=
  inferInstanceAs (Decidable (left.secs < right.secs ∨ left.secs = right.secs ∧ left.nanos ≤ right.nanos))

instance : Ord Instant :=
  ⟨fun left right => if left < right then .lt else if left = right then .eq else .gt⟩

instance : Min Instant := ⟨fun left right => if left ≤ right then left else right⟩

/-- The delay from an earlier instant, zero when that instant is not earlier. The second counts are
subtracted as words; the difference of two words in order always fits the unsigned word. -/
def since (later earlier : Instant) : Delay :=
  if later ≤ earlier then Delay.zero
  else
    let secs := (later.secs - earlier.secs).toUInt64
    if aligned : earlier.nanos ≤ later.nanos then
      ⟨secs, UInt32.ofNat (later.nanos.toNat - earlier.nanos.toNat), Delay.fraction_lt (by
        have bound := later.nanos_lt
        omega)⟩
    else
      ⟨secs - 1, UInt32.ofNat (later.nanos.toNat + nanosPerSec - earlier.nanos.toNat),
        Delay.fraction_lt (by
          have borrow := UInt32.lt_iff_toNat_lt.mp (UInt32.not_le.mp aligned)
          simp only [nanosPerSec]
          omega)⟩

theorem lt_iff_toNanos_lt (left right : Instant) : left < right ↔ left.toNanos < right.toNanos := by
  have first := left.nanos_lt
  have second := right.nanos_lt
  show (left.secs < right.secs ∨ left.secs = right.secs ∧ left.nanos < right.nanos) ↔ _
  rw [Int64.lt_iff_toInt_lt, UInt32.lt_iff_toNat_lt, ← Int64.toInt_inj]
  unfold toNanos
  simp only [nanosPerSec] at *
  omega

theorem le_iff_toNanos_le (left right : Instant) : left ≤ right ↔ left.toNanos ≤ right.toNanos := by
  have first := left.nanos_lt
  have second := right.nanos_lt
  show (left.secs < right.secs ∨ left.secs = right.secs ∧ left.nanos ≤ right.nanos) ↔ _
  rw [Int64.lt_iff_toInt_lt, UInt32.le_iff_toNat_le, ← Int64.toInt_inj]
  unfold toNanos
  simp only [nanosPerSec] at *
  omega

theorem le_trans {first second third : Instant} (before : first ≤ second) (after : second ≤ third) :
    first ≤ third := by
  rw [le_iff_toNanos_le] at *
  exact Int.le_trans before after

/-- A nine-digit fraction. -/
def fractionText (nanos : UInt32) : String :=
  let digits := toString nanos.toNat
  String.ofList (List.replicate (9 - digits.length) '0') ++ digits

def text (instant : Instant) : String :=
  "Timespec(" ++ toString instant.secs.toInt ++ "." ++ fractionText instant.nanos ++ ")"

end Instant

namespace Clock

def deadline (now : Instant) (delay : Delay) : Instant := now.addClamped delay

/-- Seconds and any number of nanoseconds, carried into the seconds. -/
def deadlineAfter (now : Instant) (secs nanos : UInt64) : Instant :=
  match Word.addUnsigned? secs (nanos / UInt64.ofNat nanosPerSec) with
  | some whole => deadline now
      ⟨whole, UInt32.ofNat (nanos.toNat % nanosPerSec), Delay.fraction_lt (Nat.mod_lt _ (by decide))⟩
  | none => Instant.last

def deadlineAfterMillis (now : Instant) (millis : UInt64) : Instant :=
  deadline now (Delay.ofMillis millis)

/-- The time left until a deadline, zero once it has passed. -/
def remaining (now deadline : Instant) : Delay := deadline.since now

def expired (now deadline : Instant) : Bool := deadline ≤ now

end Clock

end TaskKernel
