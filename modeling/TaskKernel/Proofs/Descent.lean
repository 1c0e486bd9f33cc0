/-!
Runs that come to an end. What a state still weighs never grows along the run, and cannot stay the same for
ever unless the end is reached.
-/
namespace TaskKernel.Descent

variable {State : Type} {run : Nat → State} {weighs : State → Nat → Prop} {number weight : Nat}

/-- From some moment on the state weighs what it weighs then, and never less. -/
structure Stuck (run : Nat → State) (weighs : State → Nat → Prop) (number weight : Nat) : Prop where
  level : ∀ later, number ≤ later → weighs (run later) weight
  least : ∀ later less, number ≤ later → less < weight → ¬ weighs (run later) less

theorem Stuck.later (stuck : Stuck run weighs number weight) {later : Nat} (after : number ≤ later) :
    Stuck run weighs later weight where
  level next order := stuck.level next (Nat.le_trans after order)
  least next less order := stuck.least next less (Nat.le_trans after order)

private theorem stuck_or_falls
    (keeps : ∀ moment weight, weighs (run moment) weight → ∃ next ≤ weight, weighs (run (moment + 1)) next)
    (start : weighs (run number) weight) : Stuck run weighs number weight ∨
      ∃ later less, number ≤ later ∧ less < weight ∧ weighs (run later) less := by
  by_cases falls : ∃ later less, number ≤ later ∧ less < weight ∧ weighs (run later) less
  · exact .inr falls
  · refine .inl ⟨fun later order => ?_, fun later less order below found => falls ⟨later, less, order, below, found⟩⟩
    induction later with
    | zero =>
      obtain rfl : number = 0 := by omega
      exact start
    | succ later ih =>
      by_cases first : number = later + 1
      · exact first ▸ start
      · obtain ⟨next, most, found⟩ := keeps later weight (ih (by omega))
        obtain rfl : next = weight := by
          by_cases less : next < weight
          · exact absurd ⟨later + 1, next, order, less, found⟩ falls
          · omega
        exact found

/-- A run whose weight is only ever stuck where it is done comes to be done. -/
theorem done_of_stuck {done : State → Prop}
    (keeps : ∀ moment weight, weighs (run moment) weight → ∃ next ≤ weight, weighs (run (moment + 1)) next)
    (stuck : ∀ moment weight, Stuck run weighs moment weight → ∃ later, moment ≤ later ∧ done (run later))
    (start : weighs (run number) weight) : ∃ later, number ≤ later ∧ done (run later) := by
  induction weight using Nat.strongRecOn generalizing number with
  | ind weight ih =>
    rcases stuck_or_falls keeps start with rests | ⟨later, less, order, below, found⟩
    · exact stuck number weight rests
    · obtain ⟨last, beyond, done⟩ := ih less below found
      exact ⟨last, Nat.le_trans order beyond, done⟩

end TaskKernel.Descent
