import TaskKernel.Demo.Echo
import TaskKernel.Proofs.Queue.Sections
import TaskKernel.Proofs.Task.Settling

/-!
What the echoing task is sent: requests, notes, and in the end the order to exit. Everything in its queue is one of
these, and it takes the order to exit last of all.
-/
namespace TaskKernel.Demo.Echo

abbrev Order : Type := Parcel (Command Counts String)

inductive Errand
  | request (text : String) (slot : Nat)
  | note (text : String)
  | exit

namespace Errand

def message : Errand → Message String
  | request text _ => Message.user echoCode (some text)
  | note text => (Message.user noteCode (some text)).withPriority .low
  | exit => Message.quit

def slot : Errand → Option Nat
  | request _ slot => some slot
  | note _ | exit => none

def order (errand : Errand) : Order := ⟨.deliver errand.message, errand.slot⟩

/-- What comes back. -/
def reply : Errand → Option String
  | request text _ => some text
  | note _ | exit => none

/-- The counts afterwards. -/
def count (counts : Counts) : Errand → Counts
  | request .. => { counts with echoed := counts.echoed + 1 }
  | note _ => { counts with notes := counts.notes + 1 }
  | exit => counts

theorem settles (errand : Errand) (counts : Counts) (quitting : Bool) :
    (handler.handle errand.message).Settles (fun answer after quits =>
      answer = errand.reply ∧ after = errand.count counts ∧ quits = quitting) 3 counts quitting := by
  cases errand with
  | request text slot => exact ⟨rfl, rfl, rfl⟩
  | note text => exact ⟨rfl, rfl, rfl⟩
  | exit => exact ⟨rfl, rfl, rfl⟩

theorem isQuit_eq (errand : Errand) : errand.message.kind.isQuit = true ↔ errand = exit := by
  cases errand <;> simp [message, Message.user, Message.withPriority, Message.quit, MessageKind.isQuit]

end Errand

variable {entries : List (Queue.Entry Order)} {entry : Queue.Entry Order} {queue after : Queue Order}

/-- An entry of a kind of message. -/
def isOf (kind : MessageKind) (order : Order) : Bool :=
  match order.item with
  | .deliver message => message.kind = kind
  | _ => false

def queued (kind : MessageKind) (entries : List (Queue.Entry Order)) : Nat :=
  entries.countP fun entry => isOf kind entry.item

/-- What the counts will come to when the queue has been served. -/
def served (counts : Counts) (entries : List (Queue.Entry Order)) : Counts :=
  ⟨counts.echoed + queued (.user echoCode) entries, counts.notes + queued (.user noteCode) entries⟩

/-- Whether the order to exit has been given and whether it has been taken. -/
inductive Notice
  | none
  | given
  | taken

/-- The order to exit lies behind everything else. -/
def Notice.Fits (entries : List (Queue.Entry Order)) : Notice → Prop
  | .none => ∀ entry ∈ entries, ∃ errand, entry.item = Errand.order errand ∧ errand ≠ .exit
  | .given => ∃ earlier last, entries = earlier ++ [last] ∧ last.item = Errand.exit.order ∧ last.priority = .low ∧
      ∀ entry ∈ earlier, ∃ errand, entry.item = Errand.order errand ∧ errand ≠ .exit
  | .taken => entries = []

/-- The notice after an errand has been taken. -/
def Notice.next (notice : Notice) : Errand → Notice
  | .exit => .taken
  | _ => notice

private theorem Notice.Fits.errand {notice : Notice} (fits : notice.Fits entries) (member : entry ∈ entries) :
    ∃ errand, entry.item = Errand.order errand := by
  cases notice with
  | none =>
    obtain ⟨errand, item, _⟩ := fits entry member
    exact ⟨errand, item⟩
  | given =>
    obtain ⟨earlier, last, rfl, item, _, others⟩ := fits
    rcases List.mem_append.mp member with first | behind
    · obtain ⟨errand, item, _⟩ := others entry first
      exact ⟨errand, item⟩
    · rw [List.mem_singleton.mp behind]
      exact ⟨.exit, item⟩
  | taken =>
    rw [Notice.Fits] at fits
    rw [fits] at member
    cases member

theorem Errand.order_injective {one other : Errand} (same : one.order = other.order) : one = other := by
  cases one <;> cases other <;>
    simp_all [order, message, slot, Message.user, Message.withPriority, Message.quit, echoCode, noteCode]

private theorem first_of_low (numbered : queue.Numbered) {earlier : List (Queue.Entry Order)}
    (entries : queue.entries = earlier ++ [entry]) (low : entry.priority = .low)
    (popped : queue.pop? = some (entry, after)) : earlier = [] := by
  refine List.eq_nil_iff_forall_not_mem.mpr fun other member => ?_
  have ascending := numbered.ascending
  rw [entries] at ascending
  have sooner := (List.pairwise_append.mp ascending).2.2 other member entry (List.mem_singleton.mpr rfl)
  have present : other ∈ queue.entries := by simp [entries, member]
  rcases numbered.front_precedes (Queue.pop?_eq_some popped).1 present (by rintro rfl; omega) with less | ⟨_, later⟩
  · rw [low] at less
    exact absurd less (Nat.not_lt_zero _)
  · omega

/-- The task takes one errand after the other, and the order to exit last. -/
theorem Notice.Fits.pop {notice : Notice} (fits : notice.Fits queue.entries) (numbered : queue.Numbered)
    (popped : queue.pop? = some (entry, after)) :
    ∃ errand, entry.item = Errand.order errand ∧ (notice.next errand).Fits after.entries := by
  have member := Queue.front?_mem (Queue.pop?_eq_some popped).1
  obtain ⟨errand, item⟩ := fits.errand member
  refine ⟨errand, item, ?_⟩
  cases notice with
  | none =>
    obtain ⟨other, same, working⟩ := fits entry member
    obtain rfl := Errand.order_injective (item.symm.trans same)
    have kept : Notice.none.Fits after.entries := fun other left => fits other (Queue.pop?_subset popped left)
    cases errand with
    | request | note => exact kept
    | exit => contradiction
  | given =>
    obtain ⟨earlier, last, entries, goodbye, low, others⟩ := fits
    obtain ⟨_, rfl⟩ := Queue.pop?_eq_some popped
    have ascending := numbered.ascending
    rw [entries] at ascending member ⊢
    rcases List.mem_append.mp member with first | behind
    · obtain ⟨other, same, working⟩ := others entry first
      obtain rfl := Errand.order_injective (item.symm.trans same)
      have sooner := (List.pairwise_append.mp ascending).2.2 entry first last (List.mem_singleton.mpr rfl)
      have kept : Notice.given.Fits ((earlier ++ [last]).filter fun other => other.arrival ≠ entry.arrival) := by
        refine ⟨earlier.filter fun other => other.arrival ≠ entry.arrival, last, ?_, goodbye, low, ?_⟩
        · have stays : last.arrival ≠ entry.arrival := by omega
          simp [stays]
        · exact fun other left => others other (List.mem_filter.mp left).1
      cases errand with
      | request | note => exact kept
      | exit => contradiction
    · obtain rfl := List.mem_singleton.mp behind
      obtain rfl := Errand.order_injective (item.symm.trans goodbye)
      obtain rfl := first_of_low numbered entries low popped
      simp [Notice.next, Notice.Fits]
  | taken =>
    rw [Notice.Fits] at fits
    rw [fits] at member
    cases member

theorem Notice.Fits.next {notice : Notice} (fits : notice.Fits entries) (member : entry ∈ entries) {errand : Errand}
    (item : entry.item = errand.order) : notice.next errand = .none ↔ notice = .none := by
  cases errand with
  | request | note => exact Iff.rfl
  | exit =>
    refine iff_of_false nofun ?_
    rintro rfl
    obtain ⟨other, same, working⟩ := fits entry member
    exact working (Errand.order_injective (same.symm.trans item))

theorem served_pop (numbered : queue.Numbered) (popped : queue.pop? = some (entry, after)) {errand : Errand}
    (item : entry.item = errand.order) (counts : Counts) :
    served (errand.count counts) after.entries = served counts queue.entries := by
  obtain ⟨earlier, later, entries, rfl, _, _⟩ := numbered.pop_divided popped
  rw [entries]
  cases errand <;>
    simp only [served, queued, item, Errand.count, Errand.order, Errand.message, isOf, Message.user,
      Message.withPriority, Message.quit, echoCode, noteCode, List.countP_append, List.countP_cons, Counts.mk.injEq] <;>
    simp <;> omega

theorem served_appended (queue : Queue Order) (priority : Priority) (errand : Errand) (counts : Counts) :
    served counts (queue.appended priority errand.order).entries = errand.count (served counts queue.entries) := by
  cases errand <;>
    simp [served, queued, Queue.appended, Errand.count, Errand.order, Errand.message, isOf, Message.user,
      Message.withPriority, Message.quit, echoCode, noteCode, Nat.add_assoc]

theorem Notice.Fits.appended (fits : Notice.none.Fits queue.entries) (priority : Priority) {errand : Errand}
    (working : errand ≠ .exit) : Notice.none.Fits (queue.appended priority errand.order).entries := by
  intro entry member
  rcases List.mem_append.mp member with old | new
  · exact fits entry old
  · rw [List.mem_singleton.mp new]
    exact ⟨errand, rfl, working⟩

theorem Notice.Fits.give (fits : Notice.none.Fits queue.entries) :
    Notice.given.Fits (queue.appended .low Errand.exit.order).entries :=
  ⟨queue.entries, _, rfl, rfl, rfl, fits⟩

end TaskKernel.Demo.Echo
