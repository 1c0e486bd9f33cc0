import TaskKernel.Proofs.Queue.Order

/-!
A plain queue: one list of items for each priority, first come first, and a mark when it is closed.
Seen through its lanes, the numbered queue answers every request as the plain one does.
-/
namespace TaskKernel

/-- What is queued under each priority, first come first. -/
structure Lanes (α : Type) where
  lane : Priority → List α
  closed : Bool

namespace Lanes

variable {α : Type} {lanes : Lanes α}

def empty : Lanes α := ⟨fun _ => [], false⟩

def withLane (lanes : Lanes α) (priority : Priority) (items : List α) : Lanes α :=
  { lanes with lane := fun other => if other = priority then items else lanes.lane other }

/-- Put an item at the end of its lane. Absent when the queue is closed. -/
def push? (lanes : Lanes α) (priority : Priority) (item : α) : Option (Lanes α) :=
  if lanes.closed then none
  else some (lanes.withLane priority (lanes.lane priority ++ [item]))

/-- Take the head of the most urgent lane that is not empty. -/
def pop? (lanes : Lanes α) : Option ((Priority × α) × Lanes α) :=
  Priority.all.reverse.findSome? fun priority =>
    match lanes.lane priority with
    | [] => none
    | item :: rest => some ((priority, item), lanes.withLane priority rest)

def size (lanes : Lanes α) : Nat :=
  (Priority.all.map fun priority => (lanes.lane priority).length).foldr Nat.add 0

/-- Give up what is left and take nothing more in. The answer is how much was left. -/
def close (lanes : Lanes α) : Nat × Lanes α := (lanes.size, ⟨fun _ => [], true⟩)

theorem pop?_eq_none (vacant : ∀ priority, lanes.lane priority = []) : lanes.pop? = none := by
  simp [pop?, vacant]

theorem pop?_eq_some {priority : Priority} {item : α} {rest : List α}
    (head : lanes.lane priority = item :: rest)
    (vacant : ∀ other, priority < other → lanes.lane other = []) :
    lanes.pop? = some ((priority, item), lanes.withLane priority rest) := by
  cases priority with
  | low => simp [pop?, Priority.all, head, vacant .normal (by decide), vacant .high (by decide),
      vacant .realtime (by decide)]
  | normal => simp [pop?, Priority.all, head, vacant .high (by decide), vacant .realtime (by decide)]
  | high => simp [pop?, Priority.all, head, vacant .realtime (by decide)]
  | realtime => simp [pop?, Priority.all, head]

end Lanes

namespace Queue

variable {α : Type} {queue after : Queue α}

/-- The items under each priority, without their numbers. -/
def lanes (queue : Queue α) : Lanes α :=
  ⟨fun priority => (queue.entries.filter (·.priority = priority)).map (·.item), queue.closed⟩

theorem lanes_push (queue : Queue α) (priority : Priority) (item : α) :
    (queue.push? priority item).map lanes = queue.lanes.push? priority item := by
  unfold push? Lanes.push?
  show _ = if queue.closed = true then none else _
  split
  · rfl
  · simp only [Option.map_some, lanes, Lanes.withLane, Option.some.injEq, Lanes.mk.injEq, and_true]
    funext other
    by_cases same : other = priority
    · subst other
      simp
    · simp [same, Ne.symm same]

theorem lanes_pop (numbered : queue.Numbered) :
    queue.pop?.map (fun taken => ((taken.1.priority, taken.1.item), taken.2.lanes)) =
      queue.lanes.pop? := by
  cases popped : queue.pop? with
  | none =>
    have entries := pop?_eq_none.mp popped
    rw [Lanes.pop?_eq_none (by simp [lanes, entries])]
    rfl
  | some taken =>
    obtain ⟨entry, after⟩ := taken
    obtain ⟨earlier, later, entries, rfl, urgent, rest⟩ := numbered.pop_divided popped
    have skipped : earlier.filter (·.priority = entry.priority) = [] := by
      apply List.filter_eq_nil_iff.mpr
      intro other member same
      exact Priority.lt_irrefl _ (of_decide_eq_true same ▸ urgent other member)
    have head : queue.lanes.lane entry.priority =
        entry.item :: (later.filter (·.priority = entry.priority)).map (·.item) := by
      simp [lanes, entries, skipped]
    have vacant : ∀ other, entry.priority < other → queue.lanes.lane other = [] := by
      intro priority above
      have absent : queue.entries.filter (·.priority = priority) = [] := by
        apply List.filter_eq_nil_iff.mpr
        intro other member same
        have equal := of_decide_eq_true same
        subst equal
        rw [entries] at member
        rcases List.mem_append.mp member with first | tail
        · exact Nat.lt_asymm above (urgent other first)
        · rcases List.mem_cons.mp tail with rfl | last
          · exact Priority.lt_irrefl _ above
          · rcases rest other last with less | alike
            · exact Nat.lt_asymm above less
            · exact Priority.lt_irrefl _ (alike ▸ above)
      simp [lanes, absent]
    rw [Lanes.pop?_eq_some head vacant]
    simp only [Option.map_some, lanes, Lanes.withLane, Option.some.injEq, Prod.mk.injEq, true_and,
      Lanes.mk.injEq, and_true]
    funext other
    by_cases same : other = entry.priority
    · subst other
      simp [skipped]
    · simp [entries, same, Ne.symm same]

theorem lanes_size (queue : Queue α) : queue.lanes.size = queue.size := by
  show _ = queue.entries.length
  unfold Lanes.size lanes
  induction queue.entries with
  | nil => rfl
  | cons entry rest ih =>
    simp only [Priority.all, List.map_cons, List.map_nil, List.foldr_cons, List.foldr_nil, Nat.add_eq,
      List.length_map] at ih ⊢
    rw [List.length_cons, ← ih]
    cases same : entry.priority <;> simp [same] <;> omega

theorem lanes_close (queue : Queue α) :
    (queue.close.1.length, queue.close.2.lanes) = queue.lanes.close := by
  rw [Lanes.close, lanes_size]
  rfl

end Queue

end TaskKernel
