import TaskKernel.Priority

/-!
Entries by priority and, within one priority, by arrival. A closed queue takes no entry.
-/
namespace TaskKernel

/-- An entry with the number of its arrival. -/
structure Queue.Entry (α : Type) where
  priority : Priority
  arrival : Nat
  item : α
deriving DecidableEq

structure Queue (α : Type) where
  entries : List (Queue.Entry α)
  arrivals : Nat
  closed : Bool

namespace Queue

variable {α : Type}

namespace Entry

/-- A more urgent entry goes first, and of two equally urgent ones the earlier. -/
def precedes (left right : Entry α) : Bool :=
  decide (right.priority < left.priority) ||
    (decide (left.priority = right.priority) && decide (left.arrival < right.arrival))

end Entry

def empty : Queue α := ⟨[], 0, false⟩

def size (queue : Queue α) : Nat := queue.entries.length

def isEmpty (queue : Queue α) : Bool := queue.entries.isEmpty

/-- Absent when the queue is closed. -/
def push? (queue : Queue α) (priority : Priority) (item : α) : Option (Queue α) :=
  if queue.closed then none
  else some { queue with
    entries := queue.entries ++ [⟨priority, queue.arrivals, item⟩]
    arrivals := queue.arrivals + 1 }

/-- The entry that goes first. -/
def front? (queue : Queue α) : Option (Entry α) :=
  match queue.entries with
  | [] => none
  | entry :: rest => some (rest.foldl (fun best next => if next.precedes best then next else best) entry)

def pop? (queue : Queue α) : Option (Entry α × Queue α) :=
  queue.front?.map fun entry =>
    (entry, { queue with entries := queue.entries.filter fun other => other.arrival ≠ entry.arrival })

/-- Take nothing more in and give up what is left. -/
def close (queue : Queue α) : List (Entry α) × Queue α :=
  (queue.entries, { queue with entries := [], closed := true })

end Queue

end TaskKernel
