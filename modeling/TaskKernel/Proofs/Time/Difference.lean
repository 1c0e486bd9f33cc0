import TaskKernel.Proofs.Time.Range

/-!
The difference of two instants. It is exact over the whole range, also where it is longer than a signed word of
seconds. `since?` takes every step of it with a check, and the check never fails.
-/
namespace TaskKernel

namespace Word

/-- Subtraction of unsigned words, absent when it underflows. -/
def subUnsigned? (left right : UInt64) : Option UInt64 := if right ≤ left then some (left - right) else none

/-- Addition of two fractions, absent when it leaves the word. -/
def addNanos? (left right : UInt32) : Option UInt32 :=
  if left.toNat + right.toNat < UInt32.size then some (left + right) else none

/-- Subtraction of fractions, absent when it underflows. -/
def subNanos? (left right : UInt32) : Option UInt32 := if right ≤ left then some (left - right) else none

end Word

/-- Seconds and any number of nanoseconds, absent when the carry leaves the word of the seconds. -/
def Delay.ofWords? (secs : UInt64) (nanos : UInt32) : Option Delay :=
  if below : nanos.toNat < nanosPerSec then some ⟨secs, nanos, below⟩
  else do
    let whole ← Word.addUnsigned? secs (nanos / UInt32.ofNat nanosPerSec).toUInt64
    some ⟨whole, UInt32.ofNat (nanos.toNat % nanosPerSec), fraction_lt (Nat.mod_lt _ (by decide))⟩

private theorem Delay.ofWords?_of_lt {secs : UInt64} {nanos fraction : UInt32} (below : fraction.toNat < nanosPerSec)
    (same : nanos.toNat = fraction.toNat) : ofWords? secs nanos = some ⟨secs, fraction, below⟩ := by
  obtain rfl := UInt32.toNat_inj.mp same
  rw [ofWords?, dif_pos below]

theorem Delay.toNanos_injective {first second : Delay} (same : first.toNanos = second.toNanos) : first = second := by
  have one := first.nanos_lt
  have two := second.nanos_lt
  unfold toNanos at same
  simp only [nanosPerSec] at one two same
  obtain ⟨firstSecs, firstNanos, _⟩ := first
  obtain ⟨secondSecs, secondNanos, _⟩ := second
  obtain rfl : firstSecs = secondSecs := UInt64.toNat_inj.mp (by dsimp only at *; omega)
  obtain rfl : firstNanos = secondNanos := UInt32.toNat_inj.mp (by dsimp only at *; omega)
  rfl

namespace Instant

variable {later earlier : Instant} {delay : Delay}

/-- The difference, absent when a word leaves its range on the way. The second counts are subtracted as words. -/
def since? (later earlier : Instant) : Option Delay :=
  if later ≤ earlier then some Delay.zero
  else
    let secs := (later.secs - earlier.secs).toUInt64
    if earlier.nanos ≤ later.nanos then do
      let nanos ← Word.subNanos? later.nanos earlier.nanos
      Delay.ofWords? secs nanos
    else do
      let borrowed ← Word.subUnsigned? secs 1
      let raised ← Word.addNanos? later.nanos (UInt32.ofNat nanosPerSec)
      let nanos ← Word.subNanos? raised earlier.nanos
      Delay.ofWords? borrowed nanos

private theorem toInt_eq_cond (word : Int64) : word.toInt =
    if 2 * word.toUInt64.toNat < UInt64.size then (word.toUInt64.toNat : Int)
    else word.toUInt64.toNat - UInt64.size :=
  BitVec.toInt_eq_toNat_cond word.toBitVec

private theorem toNat_sub_secs {first second : Int64} (ordered : first ≤ second) :
    ((second - first).toUInt64.toNat : Int) = second.toInt - first.toInt := by
  have size : UInt64.size = 2 ^ 64 := rfl
  have one := first.toUInt64.toNat_lt
  have two := second.toUInt64.toNat_lt
  have left := toInt_eq_cond first
  have right := toInt_eq_cond second
  rw [Int64.le_iff_toInt_le] at ordered
  rw [Int64.toUInt64_sub, UInt64.toNat_sub]
  split at left <;> split at right <;> omega

private theorem not_le : ¬ later ≤ earlier ↔ earlier < later := by rw [← not_lt, Classical.not_not]

private theorem since_of_le (reached : later ≤ earlier) : later.since earlier = Delay.zero := by
  rw [since, if_pos reached]

private theorem secs_le_of_lt (before : earlier < later) : earlier.secs ≤ later.secs := by
  rcases before with less | ⟨same, _⟩
  · exact Int64.le_of_lt less
  · exact Int64.le_of_eq same

private theorem one_le_sub_secs (before : earlier < later) (borrows : ¬ earlier.nanos ≤ later.nanos) :
    1 ≤ (later.secs - earlier.secs).toUInt64 := by
  have exact := toNat_sub_secs (secs_le_of_lt before)
  rcases before with less | ⟨_, fraction⟩
  · rw [Int64.lt_iff_toInt_lt] at less
    rw [UInt64.le_iff_toNat_le, UInt64.toNat_one]
    omega
  · exact absurd (UInt32.le_of_lt fraction) borrows

private theorem exists_raised (instant : Instant) : ∃ raised : UInt32,
    Word.addNanos? instant.nanos (UInt32.ofNat nanosPerSec) = some raised ∧
      raised.toNat = instant.nanos.toNat + nanosPerSec := by
  have top := instant.nanos_lt
  have second : (UInt32.ofNat nanosPerSec).toNat = nanosPerSec := by decide
  have wide : 2 * nanosPerSec < UInt32.size := by decide
  have fits : instant.nanos.toNat + nanosPerSec < UInt32.size := by omega
  refine ⟨_, if_pos (second.symm ▸ fits), ?_⟩
  rw [UInt32.toNat_add, second]
  exact Nat.mod_eq_of_lt fits

theorem since?_eq (later earlier : Instant) : later.since? earlier = some (later.since earlier) := by
  unfold since? since
  split
  · rfl
  · rename_i reached
    have before := not_le.mp reached
    split
    · rename_i aligned
      rw [Word.subNanos?, if_pos aligned]
      apply Delay.ofWords?_of_lt
      rw [UInt32.toNat_sub_of_le _ _ aligned, UInt32.toNat_ofNat_of_lt']
      exact Nat.lt_of_le_of_lt (Nat.sub_le _ _) later.nanos.toNat_lt_size
    · rename_i borrows
      have less := UInt32.lt_iff_toNat_lt.mp (UInt32.not_le.mp borrows)
      have borrowed : Word.subUnsigned? (later.secs - earlier.secs).toUInt64 1 = _ :=
        if_pos (one_le_sub_secs before borrows)
      obtain ⟨raised, fits, value⟩ := exists_raised later
      have enough : earlier.nanos ≤ raised := by
        have bound := earlier.nanos_lt
        rw [UInt32.le_iff_toNat_le, value]
        omega
      have taken : Word.subNanos? raised earlier.nanos = _ := if_pos enough
      simp only [borrowed, fits, taken, Option.bind_eq_bind, Option.bind_some]
      apply Delay.ofWords?_of_lt
      have bound := raised.toNat_lt_size
      rw [UInt32.toNat_sub_of_le _ _ enough, ← value, UInt32.toNat_ofNat_of_lt']
      exact Nat.lt_of_le_of_lt (Nat.sub_le _ _) bound

private theorem toNanos_since_of_aligned (before : earlier < later) (aligned : earlier.nanos ≤ later.nanos) :
    ((later.since earlier).toNanos : Int) = later.toNanos - earlier.toNanos := by
  have seconds := toNat_sub_secs (secs_le_of_lt before)
  have small := UInt32.le_iff_toNat_le.mp aligned
  have narrow : later.nanos.toNat - earlier.nanos.toNat < UInt32.size :=
    Nat.lt_of_le_of_lt (Nat.sub_le _ _) later.nanos.toNat_lt_size
  have fraction := UInt32.toNat_ofNat_of_lt' narrow
  rw [since, if_neg (not_le.mpr before)]
  simp only [dif_pos aligned, Delay.toNanos, fraction, toNanos, nanosPerSec]
  omega

private theorem toNanos_since_of_borrow (before : earlier < later) (borrows : ¬ earlier.nanos ≤ later.nanos) :
    ((later.since earlier).toNanos : Int) = later.toNanos - earlier.toNanos := by
  have seconds := toNat_sub_secs (secs_le_of_lt before)
  have room := one_le_sub_secs before borrows
  have borrowed := UInt64.toNat_sub_of_le _ _ room
  have less := UInt32.lt_iff_toNat_lt.mp (UInt32.not_le.mp borrows)
  have bound := earlier.nanos_lt
  have narrow : later.nanos.toNat + nanosPerSec - earlier.nanos.toNat < UInt32.size := by
    have size : nanosPerSec < UInt32.size := by decide
    omega
  have fraction := UInt32.toNat_ofNat_of_lt' narrow
  rw [UInt64.le_iff_toNat_le, UInt64.toNat_one] at room
  rw [since, if_neg (not_le.mpr before)]
  simp only [dif_neg borrows, Delay.toNanos, fraction, borrowed, UInt64.toNat_one, toNanos]
  simp only [nanosPerSec] at bound ⊢
  omega

/-- The difference is as long as the later instant is later. -/
theorem toNanos_since (later earlier : Instant) :
    ((later.since earlier).toNanos : Int) = max 0 (later.toNanos - earlier.toNanos) := by
  by_cases reached : later ≤ earlier
  · have ordered := (le_iff_toNanos_le later earlier).mp reached
    rw [since_of_le reached]
    show (0 : Int) = _
    omega
  · have before := not_le.mp reached
    have ordered := (lt_iff_toNanos_lt earlier later).mp before
    have exact : ((later.since earlier).toNanos : Int) = later.toNanos - earlier.toNanos := by
      by_cases aligned : earlier.nanos ≤ later.nanos
      · exact toNanos_since_of_aligned before aligned
      · exact toNanos_since_of_borrow before aligned
    omega

theorem since_of_add? (found : earlier.add? delay = some later) : later.since earlier = delay := by
  have exact := toNanos_of_add? found
  have length := toNanos_since later earlier
  exact Delay.toNanos_injective (by omega)

theorem compare_eq (first second : Instant) : compare first second = compare first.toNanos second.toNanos := by
  have same : first = second ↔ first.toNanos = second.toNanos := ⟨congrArg toNanos, toNanos_injective⟩
  show (if first < second then Ordering.lt else if first = second then .eq else .gt) =
    (if first.toNanos < second.toNanos then Ordering.lt else if first.toNanos = second.toNanos then .eq else .gt)
  simp only [lt_iff_toNanos_lt, same]

/-- What the difference of two instants and their order come to. -/
structure Differs (later earlier : Instant) : Prop where
  exact : ((later.since earlier).toNanos : Int) = max 0 (later.toNanos - earlier.toNanos)
  checked : later.since? earlier = some (later.since earlier)
  ordered : compare later earlier = compare later.toNanos earlier.toNanos
  before : earlier < later ↔ earlier.toNanos < later.toNanos
  notAfter : earlier ≤ later ↔ earlier.toNanos ≤ later.toNanos
  same : earlier = later ↔ earlier.toNanos = later.toNanos
  regained : ∀ delay, earlier.add? delay = some later → later.since earlier = delay

/-- The difference of any two instants is exact, and so is their order. -/
theorem every_difference_exact (later earlier : Instant) : later.Differs earlier where
  exact := toNanos_since later earlier
  checked := since?_eq later earlier
  ordered := compare_eq later earlier
  before := lt_iff_toNanos_lt earlier later
  notAfter := le_iff_toNanos_le earlier later
  same := ⟨congrArg toNanos, toNanos_injective⟩
  regained _ := since_of_add?

end Instant

end TaskKernel
