import TaskKernel.Proofs.Queue.Order

/-!
A queue against a sort. Without further arrivals the entries leave in one order, which is known in advance: it
is that of a stable sort by descending priority.
-/
namespace TaskKernel.Queue

variable {α : Type} {queue after : Queue α} {entry : Entry α} {entries list : List (Entry α)}

/-- In stable order by descending priority. -/
def sorted (entries : List (Entry α)) : List (Entry α) :=
  entries.mergeSort fun left right => decide (right.priority ≤ left.priority)

theorem sorted_perm (entries : List (Entry α)) : (sorted entries).Perm entries := List.mergeSort_perm entries _

private theorem sorted_precedes (ascending : entries.Pairwise fun left right => left.arrival < right.arrival) :
    (sorted entries).Pairwise fun left right => left.precedes right = true := by
  have transitive (first second third : Entry α) (one : decide (second.priority ≤ first.priority) = true)
      (two : decide (third.priority ≤ second.priority) = true) : decide (third.priority ≤ first.priority) = true := by
    rw [decide_eq_true_eq] at one two ⊢
    exact Nat.le_trans two one
  have total (first second : Entry α) :
      (decide (second.priority ≤ first.priority) || decide (first.priority ≤ second.priority)) = true := by
    rw [Bool.or_eq_true, decide_eq_true_eq, decide_eq_true_eq]
    exact Nat.le_total _ _
  induction entries with
  | nil => simp [sorted]
  | cons entry rest ih =>
    obtain ⟨early, later⟩ := List.pairwise_cons.mp ascending
    obtain ⟨before, behind, whole, others, above⟩ := List.mergeSort_cons transitive total entry rest
    have sound := ih later
    have falling := List.pairwise_mergeSort transitive total (entry :: rest)
    rw [sorted, others] at sound
    rw [whole] at falling
    rw [sorted, whole]
    obtain ⟨first, second, across⟩ := List.pairwise_append.mp sound
    obtain ⟨_, descends, _⟩ := List.pairwise_append.mp falling
    refine List.pairwise_append.mpr ⟨first, List.pairwise_cons.mpr ⟨?_, second⟩, ?_⟩
    · intro other member
      have present : other ∈ rest := by
        rw [← (sorted_perm rest).mem_iff, sorted, others]
        exact List.mem_append_right _ member
      have under := (List.pairwise_cons.mp descends).1 other member
      rw [decide_eq_true_eq] at under
      rcases Priority.lt_or_eq_or_gt other.priority entry.priority with less | same | more
      · exact (Entry.precedes_iff _ _).mpr (.inl less)
      · exact (Entry.precedes_iff _ _).mpr (.inr ⟨same.symm, early other present⟩)
      · exact absurd under (Nat.not_le.mpr more)
    · intro other member next present
      rcases List.mem_cons.mp present with rfl | last
      · have higher := above other member
        rw [Bool.not_eq_true', decide_eq_false_iff_not] at higher
        exact (Entry.precedes_iff _ _).mpr (.inl (Nat.not_le.mp higher))
      · exact across other member next last

private theorem eq_sorted (ascending : entries.Pairwise fun left right => left.arrival < right.arrival)
    (perm : list.Perm entries) (precedes : list.Pairwise fun left right => left.precedes right = true) :
    list = sorted entries := by
  refine List.Perm.eq_of_pairwise ?_ precedes (sorted_precedes ascending) (perm.trans (sorted_perm entries).symm)
  intro left right _ _ one two
  rw [Entry.precedes_strictWeak.asymmetric _ _ one] at two
  cases two

/-- The entry that leaves is the first one in that order, and the others stay in it. -/
theorem Numbered.sorted_pop (numbered : queue.Numbered) (popped : queue.pop? = some (entry, after)) :
    sorted queue.entries = entry :: sorted after.entries := by
  have remains := numbered.pop popped
  obtain ⟨found, _⟩ := pop?_eq_some popped
  obtain ⟨earlier, later, entries, rfl, _, _⟩ := numbered.pop_divided popped
  refine (eq_sorted numbered.ascending ?_ (List.pairwise_cons.mpr ⟨?_, sorted_precedes remains.ascending⟩)).symm
  · rw [entries]
    exact ((sorted_perm _).cons entry).trans List.perm_middle.symm
  · intro other member
    rw [(sorted_perm _).mem_iff] at member
    have ascending := numbered.ascending
    rw [entries] at ascending
    have different : other ≠ entry := by
      rintro rfl
      obtain ⟨_, rest, across⟩ := List.pairwise_append.mp ascending
      rcases List.mem_append.mp member with first | last
      · exact Nat.lt_irrefl _ (across other first other List.mem_cons_self)
      · exact Nat.lt_irrefl _ ((List.pairwise_cons.mp rest).1 other last)
    have present : other ∈ queue.entries := by
      rw [entries]
      exact List.perm_middle.mem_iff.mpr (List.mem_cons_of_mem _ member)
    rw [Entry.precedes_iff]
    exact (numbered.front_precedes found present different).imp id fun ⟨same, behind⟩ => ⟨same.symm, behind⟩

end TaskKernel.Queue
