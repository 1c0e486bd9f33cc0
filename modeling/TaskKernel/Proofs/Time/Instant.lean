import TaskKernel.Time.Clock

/-!
Exact instants. Adding a delay gives the exact sum, or the last instant when that is out of range, so a
delay that is not zero leads beyond every instant up to its start, as long as that is not the last one.
-/
namespace TaskKernel

theorem Delay.toNanos_pos {delay : Delay} (lasting : delay.isZero = false) : 0 < delay.toNanos := by
  have nonzero : ¬ (delay.secs = 0 ∧ delay.nanos = 0) := by
    intro both
    simp [Delay.isZero, both] at lasting
  apply Nat.pos_of_ne_zero
  intro none
  apply nonzero
  simp only [Delay.toNanos, nanosPerSec] at none
  constructor
  · apply UInt64.toNat_inj.mp
    simp only [UInt64.toNat_zero]
    omega
  · apply UInt32.toNat_inj.mp
    simp only [UInt32.toNat_zero]
    omega

theorem Delay.isZero_of_pos {delay : Delay} (positive : 0 < delay.toNanos) : delay.isZero = false := by
  cases zero : delay.isZero with
  | false => rfl
  | true =>
    obtain ⟨secs, nanos⟩ : delay.secs = 0 ∧ delay.nanos = 0 := by simpa [Delay.isZero] using zero
    simp [Delay.toNanos, secs, nanos] at positive

theorem Word.toInt_of_ofUnsigned? {word : UInt64} {whole : Int64}
    (found : Word.ofUnsigned? word = some whole) : whole.toInt = word.toNat := Word.toInt_of_ofInt? found

theorem Word.toInt_of_add? {left right sum : Int64} (found : Word.add? left right = some sum) :
    sum.toInt = left.toInt + right.toInt := Word.toInt_of_ofInt? found

namespace Instant

variable {first second start later now : Instant} {delay : Delay}

theorem toNanos_injective (same : first.toNanos = second.toNanos) : first = second := by
  have one := first.nanos_lt
  have two := second.nanos_lt
  unfold toNanos at same
  simp only [nanosPerSec] at one two same
  have secs : first.secs = second.secs := Int64.toInt_inj.mp (by omega)
  have nanos : first.nanos = second.nanos := UInt32.toNat_inj.mp (by omega)
  obtain ⟨firstSecs, firstNanos, _⟩ := first
  obtain ⟨secondSecs, secondNanos, _⟩ := second
  cases secs
  cases nanos
  rfl

theorem not_lt : ¬ first < second ↔ second ≤ first := by
  rw [lt_iff_toNanos_lt, le_iff_toNanos_le]
  exact Int.not_lt

theorem le_refl (instant : Instant) : instant ≤ instant :=
  (le_iff_toNanos_le instant instant).mpr (Int.le_refl _)

theorem lt_of_le_of_lt (before : first ≤ second) (after : second < later) : first < later := by
  rw [le_iff_toNanos_le] at before
  rw [lt_iff_toNanos_lt] at after ⊢
  exact Int.lt_of_le_of_lt before after

theorem toNanos_of_add? (found : start.add? delay = some later) :
    later.toNanos = start.toNanos + delay.toNanos := by
  have bound := start.nanos_lt
  have fraction := delay.nanos_lt
  simp only [add?, Option.bind_eq_bind, Option.bind_eq_some_iff] at found
  obtain ⟨whole, unsigned, secs, added, rest⟩ := found
  have wide := Word.toInt_of_ofUnsigned? unsigned
  have exact := Word.toInt_of_add? added
  split at rest
  · rename_i below
    cases rest
    have small : (UInt32.ofNat (start.nanos.toNat + delay.nanos.toNat)).toNat =
        start.nanos.toNat + delay.nanos.toNat := UInt32.toNat_ofNat_of_lt' (Nat.lt_trans below (by decide))
    simp only [toNanos, Delay.toNanos, small, exact, wide, nanosPerSec]
    omega
  · rename_i above
    obtain ⟨carried, one, same⟩ := Option.bind_eq_some_iff.mp rest
    cases same
    have more := Word.toInt_of_add? one
    have small : (UInt32.ofNat (start.nanos.toNat + delay.nanos.toNat - nanosPerSec)).toNat =
        start.nanos.toNat + delay.nanos.toNat - nanosPerSec := by
      apply UInt32.toNat_ofNat_of_lt'
      have size : UInt32.size = 4294967296 := rfl
      simp only [nanosPerSec] at bound fraction ⊢
      omega
    have unit : (1 : Int64).toInt = 1 := by decide
    simp only [toNanos, Delay.toNanos, small, more, exact, wide, unit, nanosPerSec] at above ⊢
    omega

theorem add_le_of_addClamped_le (reached : start.addClamped delay ≤ now) (finite : now < last) :
    start.toNanos + delay.toNanos ≤ now.toNanos := by
  unfold addClamped at reached
  cases found : start.add? delay with
  | none =>
    rw [found, Option.getD_none] at reached
    exact absurd finite (not_lt.mpr reached)
  | some later =>
    rw [found, Option.getD_some, le_iff_toNanos_le, toNanos_of_add? found] at reached
    exact reached

/-- A delay that is not zero leads beyond what has been reached, unless that is the last instant. -/
theorem lt_addClamped (passed : now ≤ start) (lasting : delay.isZero = false) (finite : now < last) :
    now < start.addClamped delay := by
  unfold addClamped
  cases found : start.add? delay with
  | none => exact finite
  | some later =>
    have exact := toNanos_of_add? found
    have positive := Delay.toNanos_pos lasting
    rw [Option.getD_some, lt_iff_toNanos_lt, exact]
    rw [le_iff_toNanos_le] at passed
    omega

end Instant

end TaskKernel
