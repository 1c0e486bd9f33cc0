/-!
Relative delays: whole seconds and a fraction of a second in nanoseconds. `Delay.toNanos` is the
exact length, and the order is the order of lengths.

The text of a delay is in its largest fitting unit. Without a number of places the fraction has no trailing
zero; with one, a half goes to the even neighbour.
-/
namespace TaskKernel

/-- Nanoseconds in one second. -/
abbrev nanosPerSec : Nat := 1000000000

structure Delay where
  secs : UInt64
  nanos : UInt32
  nanos_lt : nanos.toNat < nanosPerSec
deriving DecidableEq

namespace Delay

theorem fraction_lt {nanos : Nat} (below : nanos < nanosPerSec) :
    (UInt32.ofNat nanos).toNat < nanosPerSec := by
  rw [UInt32.toNat_ofNat']
  exact Nat.lt_of_le_of_lt (Nat.mod_le _ _) below

def toNanos (delay : Delay) : Nat := delay.secs.toNat * nanosPerSec + delay.nanos.toNat

/-- The longest delay. -/
def longest : Delay := ⟨UInt64.ofNat (UInt64.size - 1), 999999999, by decide⟩

def zero : Delay := ⟨0, 0, by decide⟩

instance : Inhabited Delay := ⟨zero⟩

/-- The delay of the given length, or the longest one. -/
def ofNanos (nanos : Nat) : Delay :=
  if nanos / nanosPerSec < UInt64.size then
    ⟨UInt64.ofNat (nanos / nanosPerSec), UInt32.ofNat (nanos % nanosPerSec),
      fraction_lt (Nat.mod_lt _ (by decide))⟩
  else longest

def ofMillis (millis : UInt64) : Delay := ofNanos (millis.toNat * 1000000)

def ofMicros (micros : UInt64) : Delay := ofNanos (micros.toNat * 1000)

def isZero (delay : Delay) : Bool := delay.secs == 0 && delay.nanos == 0

instance : LT Delay :=
  ⟨fun left right => left.secs < right.secs ∨ left.secs = right.secs ∧ left.nanos < right.nanos⟩

instance : LE Delay :=
  ⟨fun left right => left.secs < right.secs ∨ left.secs = right.secs ∧ left.nanos ≤ right.nanos⟩

instance (left right : Delay) : Decidable (left < right) :=
  inferInstanceAs (Decidable (left.secs < right.secs ∨ left.secs = right.secs ∧ left.nanos < right.nanos))

instance (left right : Delay) : Decidable (left ≤ right) :=
  inferInstanceAs (Decidable (left.secs < right.secs ∨ left.secs = right.secs ∧ left.nanos ≤ right.nanos))

instance : Min Delay := ⟨fun left right => if left ≤ right then left else right⟩

theorem lt_iff_toNanos_lt (left right : Delay) : left < right ↔ left.toNanos < right.toNanos := by
  have first := left.nanos_lt
  have second := right.nanos_lt
  show (left.secs < right.secs ∨ left.secs = right.secs ∧ left.nanos < right.nanos) ↔ _
  rw [UInt64.lt_iff_toNat_lt, UInt32.lt_iff_toNat_lt, ← UInt64.toNat_inj]
  unfold toNanos
  simp only [nanosPerSec] at *
  omega

theorem toNanos_ofNanos {nanos : Nat} (fits : nanos / nanosPerSec < UInt64.size) :
    (ofNanos nanos).toNanos = nanos := by
  unfold ofNanos toNanos
  rw [if_pos fits]
  have below : nanos % nanosPerSec < UInt32.size :=
    Nat.lt_trans (Nat.mod_lt _ (by decide)) (by decide)
  show (UInt64.ofNat (nanos / nanosPerSec)).toNat * nanosPerSec +
    (UInt32.ofNat (nanos % nanosPerSec)).toNat = nanos
  rw [UInt64.toNat_ofNat_of_lt' fits, UInt32.toNat_ofNat_of_lt' below]
  exact Nat.div_add_mod' nanos nanosPerSec

/-- A length in one unit: `fraction` counts parts of `10 ^ places` to the unit. -/
structure Scaled where
  whole : Nat
  fraction : Nat
  places : Nat
  unit : String

def scaled (delay : Delay) : Scaled :=
  let nanos := delay.nanos.toNat
  if delay.secs ≠ 0 then ⟨delay.secs.toNat, nanos, 9, "s"⟩
  else if 1000000 ≤ nanos then ⟨nanos / 1000000, nanos % 1000000, 6, "ms"⟩
  else if 1000 ≤ nanos then ⟨nanos / 1000, nanos % 1000, 3, "µs"⟩
  else ⟨nanos, 0, 0, "ns"⟩

/-- A quotient rounded to the nearest integer, a half to the even one. -/
def roundHalfEven (numerator denominator : Nat) : Nat :=
  let quotient := numerator / denominator
  let rest := numerator % denominator
  if denominator < 2 * rest ∨ (2 * rest = denominator ∧ quotient % 2 = 1) then quotient + 1 else quotient

private def padded (places number : Nat) : List Char :=
  let digits := Nat.toDigits 10 number
  List.replicate (places - digits.length) '0' ++ digits

private def withFraction (whole : Nat) (digits : List Char) (unit : String) : String :=
  toString whole ++ (if digits.isEmpty then "" else "." ++ String.ofList digits) ++ unit

def text (delay : Delay) : String :=
  let form := delay.scaled
  let digits := if form.fraction = 0 then []
    else ((padded form.places form.fraction).reverse.dropWhile (· == '0')).reverse
  withFraction form.whole digits form.unit

/-- The text with a fixed number of places, at most nine of them significant. -/
def textTo (precision : Nat) (delay : Delay) : String :=
  let form := delay.scaled
  let kept := min precision form.places
  let value := roundHalfEven (form.whole * Nat.pow 10 form.places + form.fraction) (Nat.pow 10 (form.places - kept))
  let digits := if kept = 0 then [] else padded kept (value % Nat.pow 10 kept)
  withFraction (value / Nat.pow 10 kept) (digits ++ List.replicate (precision - kept) '0') form.unit

end Delay

end TaskKernel
