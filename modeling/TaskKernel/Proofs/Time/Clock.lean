import TaskKernel.Proofs.Time.Difference
import TaskKernel.Time.Clock

/-!
What one reading of a clock makes of delays and deadlines. However a delay is given, only its length counts: the
deadline is the exact one as long as the whole seconds fit a signed word and the sum is in range, and the last
instant otherwise. Longer delays and later readings give no earlier deadlines, and none lies before the reading.
-/
namespace TaskKernel.Clock

/-- The ways to give a delay. -/
inductive Span
  | exact (delay : Delay)
  | parts (secs nanos : UInt64)
  | millis (count : UInt64)

namespace Span

/-- The exact length, however long. -/
def toNanos : Span → Nat
  | .exact delay => delay.toNanos
  | .parts secs nanos => secs.toNat * nanosPerSec + nanos.toNat
  | .millis count => count.toNat * 1000000

def deadline (now : Instant) : Span → Instant
  | .exact delay => Clock.deadline now delay
  | .parts secs nanos => deadlineAfter now secs nanos
  | .millis count => deadlineAfterMillis now count

end Span

/-- The deadline, as an exact instant, of a delay of so many nanoseconds. -/
def reach (now : Instant) (nanos : Nat) : Int :=
  if (nanos / nanosPerSec : Nat) ≤ Int64.maxValue.toInt then min (now.toNanos + nanos) Instant.last.toNanos
  else Instant.last.toNanos

variable {now later deadline : Instant} {delay : Delay} {nanos more : Nat}

theorem reach_mono (passed : now.toNanos ≤ later.toNanos) (longer : nanos ≤ more) :
    reach now nanos ≤ reach later more := by
  have whole : nanos / nanosPerSec ≤ more / nanosPerSec := Nat.div_le_div_right longer
  have high : reach now nanos ≤ Instant.last.toNanos := by
    unfold reach
    split <;> omega
  by_cases fits : (more / nanosPerSec : Nat) ≤ Int64.maxValue.toInt
  · have before : (nanos / nanosPerSec : Nat) ≤ Int64.maxValue.toInt := by omega
    rw [reach, reach, if_pos before, if_pos fits]
    omega
  · have final : reach later more = Instant.last.toNanos := if_neg fits
    rwa [final]

private theorem le_reach (now : Instant) (nanos : Nat) : now.toNanos ≤ reach now nanos := by
  have bound := Instant.toNanos_le_last now
  unfold reach
  split <;> omega

private theorem toNanos_div (delay : Delay) : delay.toNanos / nanosPerSec = delay.secs.toNat := by
  have fraction := delay.nanos_lt
  simp only [Delay.toNanos, nanosPerSec] at fraction ⊢
  omega

theorem toNanos_deadline (now : Instant) (delay : Delay) :
    (Clock.deadline now delay).toNanos = reach now delay.toNanos := by
  rw [reach, toNanos_div, Clock.deadline]
  split
  · rename_i addable
    exact Instant.toNanos_addClamped (.inl addable)
  · rename_i long
    exact congrArg Instant.toNanos (Instant.addClamped_of_long long)

theorem carry_eq (secs nanos : UInt64) :
    (Span.parts secs nanos).toNanos / nanosPerSec = secs.toNat + (nanos / UInt64.ofNat nanosPerSec).toNat ∧
      (Span.parts secs nanos).toNanos % nanosPerSec = nanos.toNat % nanosPerSec := by
  have second : (UInt64.ofNat nanosPerSec).toNat = nanosPerSec := by decide
  rw [Span.toNanos, UInt64.toNat_div, second]
  simp only [nanosPerSec]
  omega

private theorem deadlineAfter_of_fits {secs nanos : UInt64}
    (fits : (Span.parts secs nanos).toNanos / nanosPerSec < UInt64.size) :
    deadlineAfter now secs nanos = Clock.deadline now (Delay.ofNanos (Span.parts secs nanos).toNanos) := by
  obtain ⟨whole, fraction⟩ := carry_eq secs nanos
  have room : secs.toNat + (nanos / UInt64.ofNat nanosPerSec).toNat < UInt64.size := whole ▸ fits
  have carried : (secs + nanos / UInt64.ofNat nanosPerSec) =
      UInt64.ofNat ((Span.parts secs nanos).toNanos / nanosPerSec) := by
    apply UInt64.toNat_inj.mp
    rw [UInt64.toNat_add, UInt64.toNat_ofNat_of_lt' fits, whole]
    exact Nat.mod_eq_of_lt room
  simp only [deadlineAfter, Word.addUnsigned?, if_pos room, Delay.ofNanos, if_pos fits, carried, fraction]

private theorem deadlineAfter_of_beyond {secs nanos : UInt64}
    (beyond : UInt64.size ≤ (Span.parts secs nanos).toNanos / nanosPerSec) :
    deadlineAfter now secs nanos = Instant.last := by
  rw [(carry_eq secs nanos).1] at beyond
  rw [deadlineAfter, Word.addUnsigned?, if_neg (Nat.not_lt.mpr beyond)]

private theorem toNanos_span (now : Instant) (span : Span) : (span.deadline now).toNanos = reach now span.toNanos := by
  cases span with
  | exact delay => exact toNanos_deadline now delay
  | millis count =>
    have fits : count.toNat * 1000000 / nanosPerSec < UInt64.size := by
      have bound := count.toNat_lt_size
      simp only [nanosPerSec]
      omega
    rw [Span.deadline, deadlineAfterMillis, toNanos_deadline, Delay.ofMillis, Delay.toNanos_ofNanos fits,
      Span.toNanos]
  | parts secs nanos =>
    rw [Span.deadline]
    by_cases fits : (Span.parts secs nanos).toNanos / nanosPerSec < UInt64.size
    · rw [deadlineAfter_of_fits fits, toNanos_deadline, Delay.toNanos_ofNanos fits]
    · have beyond := Nat.not_lt.mp fits
      have long : ¬ ((Span.parts secs nanos).toNanos / nanosPerSec : Nat) ≤ Int64.maxValue.toInt := by
        have wide : Int64.maxValue.toInt < UInt64.size := by decide
        omega
      rw [deadlineAfter_of_beyond beyond, reach, if_neg long]

theorem expired_iff : expired now deadline = true ↔ deadline ≤ now := decide_eq_true_iff

theorem expired_iff_isZero : expired now deadline = true ↔ (remaining now deadline).isZero = true := by
  have exact := Instant.toNanos_since deadline now
  rw [expired_iff, Instant.le_iff_toNanos_le, remaining]
  cases zero : (deadline.since now).isZero with
  | true =>
    have none : ¬ 0 < (deadline.since now).toNanos := fun positive => by
      rw [Delay.isZero_of_pos positive] at zero
      cases zero
    exact iff_of_true (by omega) rfl
  | false =>
    have some := Delay.toNanos_pos zero
    exact iff_of_false (by omega) nofun

private theorem remaining_deadline (found : now.add? delay = some later) :
    remaining now (Clock.deadline now delay) = delay := by
  rw [remaining, Clock.deadline, Instant.addClamped, found, Option.getD_some]
  exact Instant.since_of_add? found

/-- What one reading of a clock makes of delays and deadlines. -/
structure Lawful (now : Instant) : Prop where
  expires : ∀ deadline, expired now deadline = true ↔ (remaining now deadline).isZero = true
  agrees : ∀ first second : Span, first.toNanos = second.toNanos → first.deadline now = second.deadline now
  carried : ∀ secs nanos, (Span.parts secs nanos).toNanos / nanosPerSec < UInt64.size →
    deadlineAfter now secs nanos = Clock.deadline now (Delay.ofNanos (Span.parts secs nanos).toNanos)
  beyond : ∀ secs nanos, UInt64.size ≤ (Span.parts secs nanos).toNanos / nanosPerSec →
    deadlineAfter now secs nanos = Instant.last
  millis : ∀ millis, deadlineAfterMillis now millis = deadlineAfter now (millis / 1000) (millis % 1000 * 1000000)
  exact : ∀ span : Span, (span.deadline now).toNanos = reach now span.toNanos
  monotone : ∀ (later : Instant) (first second : Span), now ≤ later → first.toNanos ≤ second.toNanos →
    first.deadline now ≤ second.deadline later
  notBefore : ∀ span : Span, now ≤ span.deadline now
  regained : ∀ delay later, now.add? delay = some later → remaining now (Clock.deadline now delay) = delay
  shrinks : ∀ later deadline, now ≤ later →
    (remaining later deadline).toNanos ≤ (remaining now deadline).toNanos

theorem deadline_eq_of_toNanos_eq {first second : Span} (same : first.toNanos = second.toNanos) :
    first.deadline now = second.deadline now := by
  apply Instant.toNanos_injective
  rw [toNanos_span, toNanos_span, same]

private theorem toNanos_millis (millis : UInt64) :
    (Span.parts (millis / 1000) (millis % 1000 * 1000000)).toNanos = (Span.millis millis).toNanos := by
  have rest : (millis % 1000 * 1000000).toNat = millis.toNat % 1000 * 1000000 := by
    rw [UInt64.toNat_mul, UInt64.toNat_mod]
    have below : millis.toNat % 1000 < 1000 := Nat.mod_lt _ (by decide)
    show millis.toNat % 1000 * 1000000 % 2 ^ 64 = _
    omega
  have whole : (millis / 1000).toNat = millis.toNat / 1000 := UInt64.toNat_div millis 1000
  rw [Span.toNanos, Span.toNanos, rest, whole]
  simp only [nanosPerSec]
  omega

/-- Every reading of a clock keeps to its laws, however early and however far from a deadline. -/
theorem every_reading_lawful (now : Instant) : Lawful now where
  expires _ := expired_iff_isZero
  agrees _ _ := deadline_eq_of_toNanos_eq
  carried _ _ := deadlineAfter_of_fits
  beyond _ _ := deadlineAfter_of_beyond
  millis millis := (deadline_eq_of_toNanos_eq (toNanos_millis millis)).symm
  exact := toNanos_span now
  monotone later first second passed longer := by
    rw [Instant.le_iff_toNanos_le] at passed ⊢
    rw [toNanos_span, toNanos_span]
    exact reach_mono passed longer
  notBefore span := by
    rw [Instant.le_iff_toNanos_le, toNanos_span]
    exact le_reach now span.toNanos
  regained _ _ := remaining_deadline
  shrinks later deadline passed := by
    have first := Instant.toNanos_since deadline now
    have second := Instant.toNanos_since deadline later
    rw [Instant.le_iff_toNanos_le] at passed
    rw [remaining, remaining]
    omega

end TaskKernel.Clock
