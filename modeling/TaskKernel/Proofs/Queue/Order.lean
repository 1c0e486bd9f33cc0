import TaskKernel.Queue
import TaskKernel.Proofs.Selection

/-!
The order of a queue. The numbers of its entries ascend and have all been given out, so an entry is
found by its number, and the entry that leaves is the earliest of the most urgent ones.
-/
namespace TaskKernel

theorem Priority.lt_or_eq_or_gt (left right : Priority) : left < right ∨ left = right ∨ right < left := by
  rcases Nat.lt_trichotomy left.rank right.rank with below | same | above
  · exact .inl below
  · exact .inr (.inl (Priority.rank_injective same))
  · exact .inr (.inr above)

theorem Priority.lt_irrefl (priority : Priority) : ¬ priority < priority := Nat.lt_irrefl priority.rank

namespace Queue

variable {α : Type} {queue after : Queue α} {entry other : Entry α}

theorem Entry.precedes_iff (left right : Entry α) : left.precedes right = true ↔
    right.priority < left.priority ∨ left.priority = right.priority ∧ left.arrival < right.arrival := by
  simp [Entry.precedes]

theorem Entry.precedes_strictWeak : StrictWeak (Entry.precedes (α := α)) where
  asymmetric first second wins := by
    rw [Entry.precedes_iff] at wins
    rw [← Bool.not_eq_true, Entry.precedes_iff]
    rintro (urgent | ⟨same, earlier⟩)
    · rcases wins with more | ⟨alike, _⟩
      · exact absurd (Nat.lt_trans urgent more) (Nat.lt_irrefl _)
      · exact Priority.lt_irrefl _ (alike ▸ urgent)
    · rcases wins with more | ⟨_, sooner⟩
      · exact Priority.lt_irrefl _ (same ▸ more)
      · omega
  split first second third wins := by
    simp only [Entry.precedes_iff] at wins ⊢
    rcases Priority.lt_or_eq_or_gt first.priority second.priority with less | same | more
    · rcases wins with urgent | ⟨alike, _⟩
      · exact .inr (.inl (Nat.lt_trans urgent less))
      · exact .inr (.inl (alike ▸ less))
    · rcases wins with urgent | ⟨alike, earlier⟩
      · exact .inr (.inl (same ▸ urgent))
      · rcases Nat.lt_or_ge first.arrival second.arrival with before | behind
        · exact .inl (.inr ⟨same, before⟩)
        · exact .inr (.inr ⟨same.symm.trans alike, by omega⟩)
    · exact .inl (.inl more)

/-- The entries lie in the order of their arrival, under numbers that have been given out. -/
structure Numbered (queue : Queue α) : Prop where
  ascending : queue.entries.Pairwise fun left right => left.arrival < right.arrival
  given : ∀ entry ∈ queue.entries, entry.arrival < queue.arrivals

private theorem Numbered.divided (numbered : queue.Numbered) (member : entry ∈ queue.entries) :
    ∃ earlier later, queue.entries = earlier ++ entry :: later ∧
      (∀ other ∈ earlier, other.arrival < entry.arrival) ∧
      ∀ other ∈ later, entry.arrival < other.arrival := by
  obtain ⟨earlier, later, entries⟩ := List.append_of_mem member
  have ascending := numbered.ascending
  rw [entries] at ascending
  obtain ⟨_, rest, across⟩ := List.pairwise_append.mp ascending
  exact ⟨earlier, later, entries, fun other first => across other first entry List.mem_cons_self,
    (List.pairwise_cons.mp rest).1⟩

private theorem Numbered.eq_of_arrival (numbered : queue.Numbered) (member : entry ∈ queue.entries)
    (present : other ∈ queue.entries) (same : entry.arrival = other.arrival) : entry = other := by
  obtain ⟨earlier, later, entries, before, behind⟩ := numbered.divided member
  rw [entries] at present
  rcases List.mem_append.mp present with first | rest
  · have := before other first
    omega
  · rcases List.mem_cons.mp rest with equal | last
    · exact equal.symm
    · have := behind other last
      omega

private theorem without_entry {earlier later : List (Entry α)}
    (before : ∀ other ∈ earlier, other.arrival < entry.arrival)
    (behind : ∀ other ∈ later, entry.arrival < other.arrival) :
    (earlier ++ entry :: later).filter (fun other => other.arrival ≠ entry.arrival) =
      earlier ++ later := by
  rw [List.filter_append, List.filter_cons_of_neg (by simp)]
  congr 1
  · apply List.filter_eq_self.mpr
    intro other first
    have := before other first
    simp only [decide_eq_true_eq]
    omega
  · apply List.filter_eq_self.mpr
    intro other last
    have := behind other last
    simp only [decide_eq_true_eq]
    omega

theorem empty_numbered : (empty : Queue α).Numbered := ⟨.nil, by simp [empty]⟩

/-- The queue with one more entry at the end. -/
def appended (queue : Queue α) (priority : Priority) (item : α) : Queue α :=
  { queue with
    entries := queue.entries ++ [⟨priority, queue.arrivals, item⟩]
    arrivals := queue.arrivals + 1 }

theorem push?_of_closed {priority : Priority} {item : α} (closed : queue.closed = true) :
    queue.push? priority item = none := by simp [push?, closed]

theorem push?_of_open {priority : Priority} {item : α} (unclosed : queue.closed = false) :
    queue.push? priority item = some (queue.appended priority item) := by simp [push?, unclosed, appended]

theorem Numbered.appended (numbered : queue.Numbered) (priority : Priority) (item : α) :
    (queue.appended priority item).Numbered := by
  constructor
  · refine List.pairwise_append.mpr ⟨numbered.ascending, List.pairwise_singleton _ _, ?_⟩
    intro entry member last present
    rw [List.mem_singleton.mp present]
    exact numbered.given entry member
  · intro entry member
    rcases List.mem_append.mp member with old | new
    · exact Nat.lt_succ_of_lt (numbered.given entry old)
    · rw [List.mem_singleton.mp new]
      exact Nat.lt_succ_self _

private theorem Numbered.filter (numbered : queue.Numbered) (kept : Entry α → Bool) :
    ({ queue with entries := queue.entries.filter kept } : Queue α).Numbered :=
  ⟨numbered.ascending.filter kept, fun entry member => numbered.given entry (List.mem_filter.mp member).1⟩

theorem close_numbered (queue : Queue α) : queue.close.2.Numbered := ⟨.nil, by simp [Queue.close]⟩

theorem front?_eq_none : queue.front? = none ↔ queue.entries = [] := by
  unfold front?
  split <;> simp_all

theorem front?_mem (found : queue.front? = some entry) : entry ∈ queue.entries := by
  unfold front? at found
  split at found
  · cases found
  · rename_i first rest entries
    rw [entries, ← Option.some.inj found]
    exact Selection.chosen_mem Entry.precedes rest first

private theorem not_precedes_front (found : queue.front? = some entry) (member : other ∈ queue.entries) :
    other.precedes entry = false := by
  unfold front? at found
  split at found
  · cases found
  · rename_i first rest entries
    rw [entries] at member
    rw [← Option.some.inj found]
    exact Selection.not_precedes_chosen Entry.precedes_strictWeak rest first other member

/-- Every other entry is less urgent than the first one, or as urgent and later. -/
theorem Numbered.front_precedes (numbered : queue.Numbered) (found : queue.front? = some entry)
    (member : other ∈ queue.entries) (different : other ≠ entry) :
    other.priority < entry.priority ∨
      other.priority = entry.priority ∧ entry.arrival < other.arrival := by
  have behind := not_precedes_front found member
  rw [← Bool.not_eq_true, Entry.precedes_iff] at behind
  have apart : other.arrival ≠ entry.arrival := fun same =>
    different (numbered.eq_of_arrival member (front?_mem found) same)
  rcases Priority.lt_or_eq_or_gt other.priority entry.priority with less | same | more
  · exact .inl less
  · refine .inr ⟨same, ?_⟩
    have later : ¬ other.arrival < entry.arrival := fun earlier => behind (.inr ⟨same, earlier⟩)
    omega
  · exact absurd (.inl more) behind

theorem pop?_eq_none : queue.pop? = none ↔ queue.entries = [] := by
  rw [pop?, Option.map_eq_none_iff, front?_eq_none]

theorem pop?_eq_some (popped : queue.pop? = some (entry, after)) :
    queue.front? = some entry ∧ after = { queue with
      entries := queue.entries.filter fun other => other.arrival ≠ entry.arrival } := by
  obtain ⟨front, found, same⟩ := Option.map_eq_some_iff.mp popped
  cases same
  exact ⟨found, rfl⟩

theorem pop?_subset (popped : queue.pop? = some (entry, after)) : after.entries ⊆ queue.entries := by
  obtain ⟨_, rfl⟩ := pop?_eq_some popped
  exact List.filter_sublist.subset

theorem size_pop (popped : queue.pop? = some (entry, after)) : after.size < queue.size := by
  obtain ⟨found, rfl⟩ := pop?_eq_some popped
  exact List.length_filter_lt_length_iff_exists.mpr ⟨entry, front?_mem found, by simp⟩

theorem closed_pop (popped : queue.pop? = some (entry, after)) : after.closed = queue.closed := by
  obtain ⟨_, rfl⟩ := pop?_eq_some popped
  rfl

theorem Numbered.pop (numbered : queue.Numbered) (popped : queue.pop? = some (entry, after)) :
    after.Numbered := by
  obtain ⟨_, rfl⟩ := pop?_eq_some popped
  exact numbered.filter _

/-- The entry that is taken out is the earliest of its priority, and none is more urgent. The others
stay in their order. -/
theorem Numbered.pop_divided (numbered : queue.Numbered) (popped : queue.pop? = some (entry, after)) :
    ∃ earlier later, queue.entries = earlier ++ entry :: later ∧
      after = { queue with entries := earlier ++ later } ∧
      (∀ other ∈ earlier, other.priority < entry.priority) ∧
      ∀ other ∈ later, other.priority < entry.priority ∨ other.priority = entry.priority := by
  obtain ⟨found, rfl⟩ := pop?_eq_some popped
  obtain ⟨earlier, later, entries, before, behind⟩ := numbered.divided (front?_mem found)
  refine ⟨earlier, later, entries, by rw [entries, without_entry before behind], ?_, ?_⟩
  · intro other first
    have sooner := before other first
    have present : other ∈ queue.entries := by rw [entries]; exact List.mem_append_left _ first
    rcases numbered.front_precedes found present (by rintro rfl; omega) with less | ⟨_, later⟩
    · exact less
    · omega
  · intro other last
    have later := behind other last
    have present : other ∈ queue.entries := by rw [entries]; simp [last]
    rcases numbered.front_precedes found present (by rintro rfl; omega) with less | ⟨same, _⟩
    · exact .inl less
    · exact .inr same

end Queue

end TaskKernel
