import TaskKernel.Proofs.Selection
import TaskKernel.Proofs.Time.Instant
import TaskKernel.Timer.Set

/-!
The order in which timers fire: by deadline, and by number where deadlines are equal. `due` is what is
due at an instant, in that order; each operation on a set does to it what one would expect.
-/
namespace TaskKernel.TimerSet

variable {σ : Type} {set after : TimerSet σ} {now : Instant} {armed other : Armed σ} {firing : Firing σ}
  {id : TimerId}

theorem Armed.precedes_iff (left right : Armed σ) : left.precedes right = true ↔
    left.deadline.toNanos < right.deadline.toNanos ∨
      left.deadline.toNanos = right.deadline.toNanos ∧ left.timer.id.number < right.timer.id.number := by
  have equal : left.deadline = right.deadline ↔ left.deadline.toNanos = right.deadline.toNanos := by
    constructor
    · exact congrArg Instant.toNanos
    · exact Instant.toNanos_injective
  simp [Armed.precedes, Instant.lt_iff_toNanos_lt, equal]

private theorem Armed.precedes_strictWeak : StrictWeak (Armed.precedes (σ := σ)) where
  asymmetric first second wins := by
    rw [Armed.precedes_iff] at wins
    rw [← Bool.not_eq_true, Armed.precedes_iff]
    omega
  split first second third wins := by
    simp only [Armed.precedes_iff] at wins ⊢
    omega

theorem contains_eq_true : set.contains id = true ↔ ∃ entry ∈ set.armed, entry.timer.id = id := by
  simp [contains]

theorem first?_eq_none : set.first? = none ↔ set.armed = [] := by
  unfold first?
  cases set.armed <;> simp

theorem first?_eq_some (found : set.first? = some armed) :
    armed ∈ set.armed ∧ ∀ other ∈ set.armed, other.precedes armed = false := by
  unfold first? at found
  split at found
  · cases found
  · rename_i head rest entries
    cases found
    rw [entries]
    constructor
    · exact Selection.chosen_mem Armed.precedes rest head
    · exact Selection.not_precedes_chosen Armed.precedes_strictWeak rest head

private theorem deadline_le_of_not_precedes (behind : other.precedes armed = false) :
    armed.deadline ≤ other.deadline := by
  rw [← Bool.not_eq_true, Armed.precedes_iff] at behind
  rw [Instant.le_iff_toNanos_le]
  omega

/-- The set while one of its timers is out. -/
def without (set : TimerSet σ) (id : TimerId) : TimerSet σ :=
  { set.remove id with firing := some id, firingCancelled := false }

theorem nextDeadline?_eq_some {deadline : Instant} : set.nextDeadline? = some deadline ↔
    (∃ armed ∈ set.armed, armed.deadline = deadline) ∧ ∀ armed ∈ set.armed, deadline ≤ armed.deadline := by
  unfold nextDeadline?
  cases found : set.first? with
  | none => simp [first?_eq_none.mp found]
  | some first =>
    obtain ⟨member, least⟩ := first?_eq_some found
    have lower (armed : Armed σ) (present : armed ∈ set.armed) : first.deadline ≤ armed.deadline :=
      deadline_le_of_not_precedes (least armed present)
    rw [Option.map_some, Option.some.injEq]
    constructor
    · rintro rfl
      exact ⟨⟨first, member, rfl⟩, lower⟩
    · rintro ⟨⟨armed, present, rfl⟩, below⟩
      have one := lower armed present
      have two := below first member
      rw [Instant.le_iff_toNanos_le] at one two
      exact Instant.toNanos_injective (Int.le_antisymm one two)

theorem nextDeadline?_eq_none : set.nextDeadline? = none ↔ set.armed = [] := by
  rw [nextDeadline?, Option.map_eq_none_iff, first?_eq_none]

theorem popDue?_eq_none : set.popDue? now = none ↔ ∀ armed ∈ set.armed, now < armed.deadline := by
  unfold popDue?
  cases found : set.first? with
  | none => simp [first?_eq_none.mp found]
  | some first =>
    obtain ⟨member, least⟩ := first?_eq_some found
    simp only
    constructor
    · intro early armed present
      split at early
      · rename_i before
        have behind := deadline_le_of_not_precedes (least armed present)
        rw [Instant.le_iff_toNanos_le] at behind
        rw [Instant.lt_iff_toNanos_lt] at before ⊢
        omega
      · cases early
    · intro early
      rw [if_pos (early first member)]

theorem popDue?_eq_some {timer : Timer σ} (popped : set.popDue? now = some (timer, after)) :
    ∃ armed ∈ set.armed, armed.deadline ≤ now ∧ (∀ other ∈ set.armed, other.precedes armed = false) ∧
      armed.timer = timer ∧ after = set.without armed.timer.id := by
  unfold popDue? at popped
  cases found : set.first? with
  | none =>
    rw [found] at popped
    cases popped
  | some armed =>
    obtain ⟨member, least⟩ := first?_eq_some found
    simp only [found] at popped
    split at popped
    · cases popped
    · rename_i reached
      cases popped
      exact ⟨armed, member, Instant.not_lt.mp reached, least, rfl, rfl⟩

theorem fire?_eq_none : set.fire? now = none ↔ ∀ armed ∈ set.armed, now < armed.deadline := by
  rw [fire?, Option.map_eq_none_iff, popDue?_eq_none]

theorem fire?_eq_some (fired : set.fire? now = some (firing, after)) : ∃ armed ∈ set.armed,
    armed.deadline ≤ now ∧ (∀ other ∈ set.armed, other.precedes armed = false) ∧
    firing = ⟨armed.timer.tick.2, armed.timer.tick.1⟩ ∧ after = set.without armed.timer.id := by
  obtain ⟨⟨timer, rest⟩, popped, same⟩ := Option.map_eq_some_iff.mp fired
  cases same
  obtain ⟨armed, member, reached, least, rfl, rfl⟩ := popDue?_eq_some popped
  exact ⟨armed, member, reached, least, rfl, rfl⟩

/-- What is due at `now`, in the order in which it fires. -/
def due (set : TimerSet σ) (now : Instant) : List (Armed σ) :=
  (set.armed.filter (·.deadline ≤ now)).mergeSort fun left right => !right.precedes left

/-- The numbers of what is due, in the order in which it fires. -/
def dueIds (set : TimerSet σ) (now : Instant) : List TimerId := (set.due now).map (·.timer.id)

/-- No two timers of a set have the same number. -/
def Distinct (set : TimerSet σ) : Prop :=
  set.armed.Pairwise fun left right => ¬ left.timer.id = right.timer.id

private theorem due_perm (set : TimerSet σ) (now : Instant) :
    (set.due now).Perm (set.armed.filter (·.deadline ≤ now)) := List.mergeSort_perm _ _

theorem mem_due : armed ∈ set.due now ↔ armed ∈ set.armed ∧ armed.deadline ≤ now := by
  rw [(due_perm set now).mem_iff, List.mem_filter, decide_eq_true_eq]

theorem Distinct.eq_of_id (distinct : set.Distinct) (one : armed ∈ set.armed) (two : other ∈ set.armed)
    (same : armed.timer.id = other.timer.id) : armed = other := eq_of_alike distinct Eq.symm one two same

theorem Distinct.due_eq (distinct : set.Distinct) {list : List (Armed σ)}
    (sorted : list.Pairwise fun left right => right.precedes left = false)
    (same : list.Perm (set.armed.filter (·.deadline ≤ now))) : set.due now = list := by
  have order : (set.due now).Pairwise fun left right => right.precedes left = false :=
    Armed.precedes_strictWeak.sorted _
  refine List.Perm.eq_of_pairwise ?_ order sorted ((due_perm set now).trans same.symm)
  intro left right one two before behind
  have first := (mem_due.mp one).1
  have second := (List.mem_filter.mp (same.mem_iff.mp two)).1
  apply distinct.eq_of_id first second
  rw [← Bool.not_eq_true, Armed.precedes_iff] at before behind
  have number : left.timer.id.number = right.timer.id.number := by omega
  exact congrArg TimerId.mk number

theorem Distinct.due_apart (distinct : set.Distinct) (now : Instant) :
    (set.due now).Pairwise fun left right => ¬ left.timer.id = right.timer.id := by
  have symmetric {left right : Armed σ} (different : ¬ left.timer.id = right.timer.id) :
      ¬ right.timer.id = left.timer.id := fun same => different same.symm
  exact ((due_perm set now).pairwise_iff symmetric).mpr (List.Pairwise.filter _ distinct)

theorem Distinct.due_ascending (distinct : set.Distinct) (now : Instant) :
    (set.due now).Pairwise fun left right => left.precedes right = true := by
  have order : (set.due now).Pairwise fun left right => right.precedes left = false :=
    Armed.precedes_strictWeak.sorted _
  refine (order.and (distinct.due_apart now)).imp ?_
  rintro left right ⟨behind, different⟩
  rw [← Bool.not_eq_true, Armed.precedes_iff] at behind
  rw [Armed.precedes_iff]
  have numbers : left.timer.id.number ≠ right.timer.id.number := fun same => different (congrArg TimerId.mk same)
  omega

theorem due_eq_nil (early : set.fire? now = none) : set.due now = [] := by
  apply List.eq_nil_iff_forall_not_mem.mpr
  intro armed member
  obtain ⟨present, reached⟩ := mem_due.mp member
  exact Instant.not_lt.mpr reached (fire?_eq_none.mp early armed present)

private theorem Distinct.filter (distinct : set.Distinct) (kept : Armed σ → Bool) :
    ({ set with armed := set.armed.filter kept } : TimerSet σ).Distinct := List.Pairwise.filter kept distinct

theorem Distinct.due_remove (distinct : set.Distinct) (id : TimerId) (now : Instant) :
    (set.remove id).due now = (set.due now).filter (·.timer.id ≠ id) := by
  apply (distinct.filter fun armed => armed.timer.id ≠ id).due_eq
  · exact List.Pairwise.filter _ (Armed.precedes_strictWeak.sorted _)
  · have kept := (due_perm set now).filter fun armed => decide (armed.timer.id ≠ id)
    refine kept.trans (List.Perm.of_eq ?_)
    rw [List.filter_filter, List.filter_filter]
    congr 1
    funext armed
    exact Bool.and_comm _ _

theorem Distinct.perm_remove (distinct : set.Distinct) (member : armed ∈ set.armed) :
    set.armed.Perm (armed :: (set.remove armed.timer.id).armed) := by
  obtain ⟨earlier, later, entries⟩ := List.append_of_mem member
  have apart := distinct
  rw [Distinct, entries] at apart
  obtain ⟨_, rest, across⟩ := List.pairwise_append.mp apart
  have left : earlier.filter (fun other => decide (other.timer.id ≠ armed.timer.id)) = earlier := by
    apply List.filter_eq_self.mpr
    intro other first
    exact decide_eq_true (across other first armed List.mem_cons_self)
  have right : later.filter (fun other => decide (other.timer.id ≠ armed.timer.id)) = later := by
    apply List.filter_eq_self.mpr
    intro other last
    exact decide_eq_true fun same => (List.pairwise_cons.mp rest).1 other last same.symm
  rw [remove, entries, List.filter_append, List.filter_cons_of_neg (by simp), left, right]
  exact List.perm_middle

/-- What fires is the first of what is due, and the rest stays due. -/
theorem Distinct.due_fire (distinct : set.Distinct) (fired : set.fire? now = some (firing, after)) :
    ∃ armed ∈ set.armed, firing.tick.timer = armed.timer.id ∧ set.due now = armed :: after.due now := by
  obtain ⟨armed, member, reached, least, rfl, rfl⟩ := fire?_eq_some fired
  refine ⟨armed, member, rfl, distinct.due_eq ?_ ?_⟩
  · apply List.pairwise_cons.mpr
    constructor
    · intro other present
      have kept := (mem_due.mp present).1
      exact least other (List.mem_filter.mp kept).1
    · exact Armed.precedes_strictWeak.sorted _
  · have rest := due_perm (set.without armed.timer.id) now
    have whole := (distinct.perm_remove member).filter fun armed => decide (armed.deadline ≤ now)
    simp only [List.filter_cons, decide_eq_true reached, if_true] at whole
    exact (rest.cons armed).trans whole.symm

theorem Distinct.fire?_eq (distinct : set.Distinct) (now : Instant) :
    set.fire? now = (set.due now).head?.map fun armed =>
      (⟨armed.timer.tick.2, armed.timer.tick.1⟩, set.without armed.timer.id) := by
  cases fired : set.fire? now with
  | none =>
    rw [due_eq_nil fired]
    rfl
  | some result =>
    obtain ⟨firing, after⟩ := result
    obtain ⟨armed, member, same, first⟩ := distinct.due_fire fired
    obtain ⟨other, present, _, _, rfl, rfl⟩ := fire?_eq_some fired
    obtain rfl := distinct.eq_of_id present member same
    rw [first]
    rfl

theorem due_congr (same : after.armed = set.armed) (now : Instant) : after.due now = set.due now := by
  rw [due, due, same]

theorem due_append (later : now < armed.deadline) :
    ({ set with armed := set.armed ++ [armed] } : TimerSet σ).due now = set.due now := by
  have early : ¬ armed.deadline ≤ now := fun reached => Instant.not_lt.mpr reached later
  unfold due
  rw [List.filter_append, List.filter_cons_of_neg (by simpa using early), List.filter_nil, List.append_nil]

theorem due_arm {timer : Timer σ} {clock : Instant} (lasting : timer.interval.isZero = false)
    (passed : now ≤ clock) (finite : now < Instant.last) :
    (set.arm timer clock).due now = set.due now := by
  unfold arm
  split
  · rfl
  · exact due_append (Instant.lt_addClamped passed lasting finite)

end TaskKernel.TimerSet
