import TaskKernel.Proofs.Time.Instant

/-!
The ends of the range of instants. A delay whose seconds fit a signed word is added exactly as long as the sum
is in range, and otherwise there is no sum; a longer delay is refused, even where a start before zero leaves
room for it. Nanoseconds are carried exactly as long as the instant is in range; beyond an end the seconds stop
there and the fraction is kept.
-/
namespace TaskKernel

namespace Word

theorem ofInt?_eq_none {value : Int} :
    ofInt? value = none ↔ value < Int64.minValue.toInt ∨ Int64.maxValue.toInt < value := by
  unfold ofInt?
  split
  · rename_i inside
    constructor
    · nofun
    · intro outside
      omega
  · rename_i outside
    constructor
    · intro
      omega
    · intro
      rfl

private theorem toInt_clamp (value : Int) :
    (clamp value).toInt = max Int64.minValue.toInt (min value Int64.maxValue.toInt) := by
  have ordered : Int64.minValue.toInt ≤ Int64.maxValue.toInt := by decide
  unfold clamp
  split
  · omega
  · split
    · omega
    · rw [Int64.toInt_ofInt_of_le] <;> simp only [Int64.toInt_minValue, Int64.toInt_maxValue] at * <;> omega

end Word

/-- The seconds of the delay fit a signed word. -/
def Delay.Addable (delay : Delay) : Prop := (delay.secs.toNat : Int) ≤ Int64.maxValue.toInt

namespace Instant

/-- The first instant. -/
def earliest : Instant := ⟨Int64.minValue, 0, Delay.zero.nanos_lt⟩

variable {start later : Instant} {delay : Delay}

theorem toNanos_le_last (instant : Instant) : instant.toNanos ≤ last.toNanos := by
  have high := Int64.toInt_le instant.secs
  have fraction := instant.nanos_lt
  have final : last.toNanos = Int64.maxValue.toInt * nanosPerSec + 999999999 := rfl
  rw [final, toNanos]
  simp only [nanosPerSec] at fraction ⊢
  omega

private theorem addable_of_add? (found : start.add? delay = some later) : delay.Addable := by
  simp only [add?, Option.bind_eq_bind, Option.bind_eq_some_iff] at found
  obtain ⟨whole, unsigned, _⟩ := found
  rw [Delay.Addable, ← Word.toInt_of_ofUnsigned? unsigned]
  exact Int64.toInt_le whole

private theorem exists_add? (addable : delay.Addable) (inside : start.toNanos + delay.toNanos ≤ last.toNanos) :
    ∃ later, start.add? delay = some later := by
  have low := Int64.minValue_le_toInt start.secs
  have first := start.nanos_lt
  have second := delay.nanos_lt
  have final : last.toNanos = Int64.maxValue.toInt * nanosPerSec + 999999999 := rfl
  have least : Int64.minValue.toInt ≤ 0 := by decide
  rw [final] at inside
  simp only [Delay.Addable, toNanos, Delay.toNanos, nanosPerSec] at addable inside first second
  cases unsigned : Word.ofUnsigned? delay.secs with
  | none =>
    rcases Word.ofInt?_eq_none.mp unsigned with under | beyond <;> omega
  | some whole =>
    have exact := Word.toInt_of_ofUnsigned? unsigned
    cases added : Word.add? start.secs whole with
    | none =>
      rcases Word.ofInt?_eq_none.mp added with under | beyond <;> omega
    | some secs =>
      have sum := Word.toInt_of_add? added
      by_cases below : start.nanos.toNat + delay.nanos.toNat < nanosPerSec
      · simp [add?, unsigned, added, below]
      · cases one : Word.add? secs 1 with
        | none =>
          have unit : (1 : Int64).toInt = 1 := rfl
          rcases Word.ofInt?_eq_none.mp one with under | beyond <;> simp only [nanosPerSec] at below <;> omega
        | some carried => simp [add?, unsigned, added, below, one]

theorem add?_eq_some : start.add? delay = some later ↔
    delay.Addable ∧ later.toNanos = start.toNanos + delay.toNanos := by
  constructor
  · intro found
    exact ⟨addable_of_add? found, toNanos_of_add? found⟩
  · rintro ⟨addable, exact⟩
    obtain ⟨sum, found⟩ := exists_add? addable (exact ▸ toNanos_le_last later)
    rw [found, toNanos_injective (exact.trans (toNanos_of_add? found).symm)]

theorem add?_eq_none : start.add? delay = none ↔
    ¬ delay.Addable ∨ last.toNanos < start.toNanos + delay.toNanos := by
  constructor
  · intro absent
    by_cases addable : delay.Addable
    · right
      apply Int.not_le.mp
      intro inside
      obtain ⟨later, found⟩ := exists_add? addable inside
      rw [found] at absent
      cases absent
    · exact .inl addable
  · intro outside
    cases found : start.add? delay with
    | none => rfl
    | some later =>
      obtain ⟨addable, exact⟩ := add?_eq_some.mp found
      have bound := toNanos_le_last later
      rcases outside with long | beyond
      · exact absurd addable long
      · omega

theorem toNanos_addClamped (kept : delay.Addable ∨ last.toNanos < start.toNanos + delay.toNanos) :
    (start.addClamped delay).toNanos = min (start.toNanos + delay.toNanos) last.toNanos := by
  unfold addClamped
  cases found : start.add? delay with
  | none =>
    have beyond : last.toNanos < start.toNanos + delay.toNanos :=
      kept.elim (fun addable => (add?_eq_none.mp found).resolve_left (not_not_intro addable)) id
    rw [Option.getD_none]
    omega
  | some later =>
    have exact := toNanos_of_add? found
    have bound := toNanos_le_last later
    rw [Option.getD_some]
    omega

theorem addClamped_of_long (long : ¬ delay.Addable) : start.addClamped delay = last := by
  rw [addClamped, add?_eq_none.mpr (.inl long), Option.getD_none]

theorem le_addClamped (start : Instant) (delay : Delay) : start ≤ start.addClamped delay := by
  rw [le_iff_toNanos_le]
  have bound := toNanos_le_last start
  by_cases addable : delay.Addable
  · rw [toNanos_addClamped (.inl addable)]
    omega
  · rwa [addClamped_of_long addable]

private theorem lt_zero_of_long (long : ¬ delay.Addable) (inside : start.toNanos + delay.toNanos ≤ last.toNanos) :
    start < zero := by
  have final : last.toNanos = Int64.maxValue.toInt * nanosPerSec + 999999999 := rfl
  have origin : zero.toNanos = 0 := rfl
  rw [lt_iff_toNanos_lt, origin]
  simp only [Delay.Addable, Delay.toNanos, nanosPerSec] at long inside final
  omega

theorem toNanos_addClamped_of_nonneg (fromZero : 0 ≤ start.toNanos) (delay : Delay) :
    (start.addClamped delay).toNanos = min (start.toNanos + delay.toNanos) last.toNanos := by
  apply toNanos_addClamped
  by_cases addable : delay.Addable
  · exact .inl addable
  · right
    apply Int.not_le.mp
    intro inside
    have early := (lt_iff_toNanos_lt start zero).mp (lt_zero_of_long addable inside)
    exact absurd early (Int.not_lt.mpr fromZero)

/-- What adding a delay comes to. -/
structure Adds (start : Instant) (delay : Delay) : Prop where
  found : ∀ later, start.add? delay = some later ↔
    delay.Addable ∧ later.toNanos = start.toNanos + delay.toNanos
  absent : start.add? delay = none ↔ ¬ delay.Addable ∨ last.toNanos < start.toNanos + delay.toNanos
  clamped : delay.Addable ∨ last.toNanos < start.toNanos + delay.toNanos →
    (start.addClamped delay).toNanos = min (start.toNanos + delay.toNanos) last.toNanos
  refused : ¬ delay.Addable → start.addClamped delay = last
  -- A delay that does not fit has a sum in range from a start before zero only.
  room : ¬ delay.Addable → start.toNanos + delay.toNanos ≤ last.toNanos → start < zero
  normalized : (start.addClamped delay).nanos.toNat < nanosPerSec
  later : start ≤ start.addClamped delay

/-- Adding a delay whose seconds fit a signed word is exact, and nothing but overflow fails. -/
theorem every_delay_added (start : Instant) (delay : Delay) : start.Adds delay where
  found _ := add?_eq_some
  absent := add?_eq_none
  clamped := toNanos_addClamped
  refused := addClamped_of_long
  room := lt_zero_of_long
  normalized := (start.addClamped delay).nanos_lt
  later := le_addClamped start delay

/-- One second before zero, half the range of delays is refused though the sum is the start of the last second. -/
theorem long_delay_refused :
    let start : Instant := ⟨-1, 0, by decide⟩
    let delay : Delay := ⟨9223372036854775808, 0, by decide⟩
    start.toNanos + delay.toNanos ≤ last.toNanos ∧ start.add? delay = none ∧
      (start.addClamped delay).toNanos ≠ min (start.toNanos + delay.toNanos) last.toNanos := by
  decide

/-- The exact instant of so many seconds and nanoseconds. -/
def partsNanos (secs nanos : Int64) : Int := secs.toInt * nanosPerSec + nanos.toInt

variable {secs nanos otherSecs otherNanos : Int64}

private theorem nanos_ofParts (secs nanos : Int64) :
    ((ofParts secs nanos).nanos.toNat : Int) = nanos.toInt % nanosPerSec := by
  have start := Int.emod_nonneg nanos.toInt (show (nanosPerSec : Int) ≠ 0 by decide)
  have below := Int.emod_lt_of_pos nanos.toInt (show (0 : Int) < nanosPerSec by decide)
  have small : (nanos.toInt % nanosPerSec).toNat < UInt32.size := by
    have size : nanosPerSec < UInt32.size := by decide
    omega
  rw [ofParts, UInt32.toNat_ofNat_of_lt' small, Int.toNat_of_nonneg start]

private theorem secs_ofParts (secs nanos : Int64) : (ofParts secs nanos).secs.toInt =
    max Int64.minValue.toInt (min (partsNanos secs nanos / nanosPerSec) Int64.maxValue.toInt) := by
  have carried : partsNanos secs nanos / nanosPerSec = secs.toInt + nanos.toInt / nanosPerSec := by
    simp only [partsNanos, nanosPerSec]
    omega
  rw [carried, ofParts, Word.toInt_clamp]

private theorem toNanos_ofParts (low : earliest.toNanos ≤ partsNanos secs nanos)
    (high : partsNanos secs nanos ≤ last.toNanos) :
    (ofParts secs nanos).toNanos = partsNanos secs nanos := by
  have first : earliest.toNanos = Int64.minValue.toInt * nanosPerSec := rfl
  have final : last.toNanos = Int64.maxValue.toInt * nanosPerSec + 999999999 := rfl
  have whole := secs_ofParts secs nanos
  have fraction := nanos_ofParts secs nanos
  rw [first] at low
  rw [final] at high
  rw [toNanos]
  simp only [partsNanos, nanosPerSec] at *
  omega

private theorem secs_ofParts_of_above (above : last.toNanos < partsNanos secs nanos) :
    (ofParts secs nanos).secs = Int64.maxValue := by
  have final : last.toNanos = Int64.maxValue.toInt * nanosPerSec + 999999999 := rfl
  have ordered : Int64.minValue.toInt ≤ Int64.maxValue.toInt := by decide
  rw [final] at above
  apply Int64.toInt_inj.mp
  rw [secs_ofParts]
  simp only [nanosPerSec] at above ⊢
  omega

private theorem secs_ofParts_of_below (below : partsNanos secs nanos < earliest.toNanos) :
    (ofParts secs nanos).secs = Int64.minValue := by
  have first : earliest.toNanos = Int64.minValue.toInt * nanosPerSec := rfl
  have ordered : Int64.minValue.toInt ≤ Int64.maxValue.toInt := by decide
  rw [first] at below
  apply Int64.toInt_inj.mp
  rw [secs_ofParts]
  simp only [nanosPerSec] at below ⊢
  omega

private theorem secs_ofParts_le (ordered : partsNanos secs nanos ≤ partsNanos otherSecs otherNanos) :
    (ofParts secs nanos).secs ≤ (ofParts otherSecs otherNanos).secs := by
  have carried : partsNanos secs nanos / nanosPerSec ≤ partsNanos otherSecs otherNanos / nanosPerSec :=
    Int.ediv_le_ediv (by decide) ordered
  rw [Int64.le_iff_toInt_le, secs_ofParts, secs_ofParts]
  omega

/-- What carrying nanoseconds into the seconds comes to. -/
structure Carries (secs nanos : Int64) : Prop where
  normalized : (ofParts secs nanos).nanos.toNat < nanosPerSec
  exact : earliest.toNanos ≤ partsNanos secs nanos → partsNanos secs nanos ≤ last.toNanos →
    (ofParts secs nanos).toNanos = partsNanos secs nanos
  above : last.toNanos < partsNanos secs nanos → (ofParts secs nanos).secs = Int64.maxValue
  below : partsNanos secs nanos < earliest.toNanos → (ofParts secs nanos).secs = Int64.minValue
  fraction : ((ofParts secs nanos).nanos.toNat : Int) = partsNanos secs nanos % nanosPerSec
  monotone : ∀ otherSecs otherNanos, partsNanos secs nanos ≤ partsNanos otherSecs otherNanos →
    earliest.toNanos ≤ partsNanos secs nanos → partsNanos otherSecs otherNanos ≤ last.toNanos →
      ofParts secs nanos ≤ ofParts otherSecs otherNanos
  monotoneSecs : ∀ otherSecs otherNanos, partsNanos secs nanos ≤ partsNanos otherSecs otherNanos →
    (ofParts secs nanos).secs ≤ (ofParts otherSecs otherNanos).secs

/-- An instant in range is carried to exactly, and beyond the range the seconds stop at its end. -/
theorem every_carry_in_range_exact (secs nanos : Int64) : Carries secs nanos where
  normalized := (ofParts secs nanos).nanos_lt
  exact := toNanos_ofParts
  above := secs_ofParts_of_above
  below := secs_ofParts_of_below
  fraction := by
    rw [nanos_ofParts]
    simp only [partsNanos, nanosPerSec]
    omega
  monotone otherSecs otherNanos ordered low high := by
    rw [le_iff_toNanos_le, toNanos_ofParts low (Int.le_trans ordered high),
      toNanos_ofParts (Int.le_trans low ordered) high]
    exact ordered
  monotoneSecs _ _ := secs_ofParts_le

/-- A carry beyond the last second ends before the last instant, and before what less nanoseconds give. -/
theorem carry_beyond_last_falls_back :
    last.toNanos < partsNanos Int64.maxValue 1000000000 ∧
      ofParts Int64.maxValue 1000000000 ≠ last ∧
      partsNanos Int64.maxValue 1 ≤ partsNanos Int64.maxValue 1000000000 ∧
      ¬ ofParts Int64.maxValue 1 ≤ ofParts Int64.maxValue 1000000000 := by
  decide

end Instant

end TaskKernel
