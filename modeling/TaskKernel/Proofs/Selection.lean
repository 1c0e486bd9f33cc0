/-!
The choice of the first of some items by a scan that keeps the best one seen so far. Whatever the
order, the choice is one of the items; under a strict weak order nothing precedes it, and sorting puts
the items in that order.
-/
namespace TaskKernel

theorem eq_of_alike {γ : Type} {list : List γ} {alike : γ → γ → Prop}
    (apart : list.Pairwise fun left right => ¬ alike left right)
    (symmetric : ∀ {left right}, alike left right → alike right left) {first second : γ}
    (one : first ∈ list) (two : second ∈ list) (same : alike first second) : first = second := by
  let equal (left right : γ) : Prop := alike left right → left = right
  refine List.Pairwise.forall_of_forall_of_flip (R := equal) (fun _ _ _ => rfl) ?_ ?_ one two same
  · exact apart.imp fun different like => absurd like different
  · exact apart.imp fun different like => absurd (symmetric like) different

/-- A strict order in which incomparable items may be put in one class. -/
structure StrictWeak {α : Type} (precedes : α → α → Bool) : Prop where
  asymmetric : ∀ first second, precedes first second = true → precedes second first = false
  split : ∀ first second third, precedes first third = true →
    precedes first second = true ∨ precedes second third = true

/-- In a sorted list nothing precedes what lies before it. -/
theorem StrictWeak.sorted {α : Type} {precedes : α → α → Bool} (order : StrictWeak precedes)
    (list : List α) : (list.mergeSort fun left right => !precedes right left).Pairwise
      fun left right => precedes right left = false := by
  have transitive (first second third : α) (one : (!precedes second first) = true)
      (two : (!precedes third second) = true) : (!precedes third first) = true := by
    simp only [Bool.not_eq_true'] at one two ⊢
    cases wins : precedes third first with
    | false => rfl
    | true =>
      rcases order.split third second first wins with sooner | later
      · rw [two] at sooner
        cases sooner
      · rw [one] at later
        cases later
  have total (first second : α) :
      ((!precedes second first) || (!precedes first second)) = true := by
    cases wins : precedes second first with
    | false => rfl
    | true => simp [order.asymmetric second first wins]
  have sorted := List.pairwise_mergeSort transitive total list
  exact sorted.imp fun behind => by simpa using behind

namespace Selection

variable {α : Type} {precedes : α → α → Bool}

theorem chosen_mem (precedes : α → α → Bool) (rest : List α) (first : α) :
    rest.foldl (fun best next => if precedes next best then next else best) first ∈ first :: rest := by
  induction rest generalizing first with
  | nil => simp
  | cons next rest ih =>
    rw [List.foldl_cons]
    rcases List.mem_cons.mp (ih (if precedes next first then next else first)) with same | later
    · rw [same]
      split <;> simp
    · exact List.mem_cons_of_mem first (List.mem_cons_of_mem next later)

theorem not_precedes_chosen (order : StrictWeak precedes) (rest : List α) (first : α) :
    ∀ item ∈ first :: rest, precedes item
      (rest.foldl (fun best next => if precedes next best then next else best) first) = false := by
  have irreflexive (item : α) : precedes item item = false := by
    cases looped : precedes item item with
    | false => rfl
    | true => exact looped.symm.trans (order.asymmetric item item looped)
  induction rest generalizing first with
  | nil =>
    intro item member
    rw [List.mem_singleton.mp member]
    exact irreflexive first
  | cons next rest ih =>
    intro item member
    rw [List.foldl_cons]
    have kept := ih (if precedes next first then next else first)
    have best := kept _ List.mem_cons_self
    -- An item that lost against the running best cannot precede the final choice either.
    have loses (loser : α)
        (lost : precedes loser (if precedes next first then next else first) = false) :
        precedes loser (rest.foldl (fun best next => if precedes next best then next else best)
          (if precedes next first then next else first)) = false := by
      cases won : precedes loser _ with
      | false => rfl
      | true =>
        rcases order.split loser (if precedes next first then next else first) _ won with sooner | later
        · rw [lost] at sooner
          cases sooner
        · rw [best] at later
          cases later
    rcases List.mem_cons.mp member with same | elsewhere
    · subst item
      apply loses
      split
      · rename_i overtaken
        exact order.asymmetric next first overtaken
      · exact irreflexive first
    · rcases List.mem_cons.mp elsewhere with same | later
      · subst item
        apply loses
        split
        · exact irreflexive next
        · rename_i behind
          exact Bool.eq_false_iff.mpr behind
      · exact kept item (List.mem_cons_of_mem _ later)

end Selection

end TaskKernel
