import TaskKernel.Proofs.Queue.Accounting
import TaskKernel.Proofs.Sync.WaitSet

/-!
What callers are answered. A slot holds what its own responder said first, and its caller goes away
with that, or with nothing once its deadline has passed.
-/
namespace TaskKernel.Exchange

variable {α β : Type}

/-- The response a slot has been filled with. -/
def answer? (exchange : Exchange α β) (number : Nat) : Option (Response β) :=
  (exchange.slots[number]?).bind (·.answer)

section

/-- Where a caller stands agrees with what its slot holds while the clock shows `now`. -/
structure SlotSound (now : Instant) (slot : Slot β) : Prop where
  parked : slot.caller = .parked → slot.answer = none
  expired : slot.caller = .expired → slot.deadline.any (· ≤ now) = true
  gone : ∀ response, slot.caller = .gone response →
    slot.answer = some response ∨ response = .timedOut ∧ slot.deadline.any (· ≤ now) = true

variable {now next : Instant} {slot after : Slot β}

private theorem SlotSound.later (sound : SlotSound now slot) (passed : now ≤ next) : SlotSound next slot where
  parked := sound.parked
  expired late := Sync.overdue_later passed (sound.expired late)
  gone response away := (sound.gone response away).imp id fun ⟨timedOut, overdue⟩ =>
    ⟨timedOut, Sync.overdue_later passed overdue⟩

private theorem CallerStep.frame (step : CallerStep now slot after) :
    after.deadline = slot.deadline ∧ after.answer = slot.answer := by
  cases step <;> exact ⟨rfl, rfl⟩

private theorem CallerStep.sound (step : CallerStep now slot after) (sound : SlotSound now slot) :
    SlotSound now after := by
  cases step with
  | leave response _ filled _ => exact ⟨nofun, nofun, fun _ away => .inl (by cases away; exact filled)⟩
  | giveUp _ empty late =>
    exact ⟨nofun, nofun, fun _ away => .inr (by cases away; exact ⟨rfl, sound.expired late⟩)⟩
  | park _ empty => exact ⟨fun _ => empty, nofun, nofun⟩
  | wake _ _ => exact ⟨nofun, nofun, nofun⟩
  | expire _ _ overdue => exact ⟨nofun, fun _ => overdue, nofun⟩
  | stay => exact sound

private theorem filled_sound (response : Response β) (sound : SlotSound now slot) :
    SlotSound now (filled response slot) := by
  obtain ⟨deadline, answer, caller⟩ := slot
  cases caller with
  | looking => exact ⟨nofun, nofun, nofun⟩
  | parked => exact ⟨nofun, nofun, nofun⟩
  | expired => exact ⟨nofun, sound.expired, nofun⟩
  | gone found =>
    refine ⟨nofun, nofun, ?_⟩
    intro _ away
    cases away
    rcases sound.gone found rfl with held | timedOut
    · exact .inl (by simp_all [filled])
    · exact .inr timedOut

end

namespace Session

theorem mem_fills {history : List (Event α β)} {number : Nat} {response : Response β} :
    (number, response) ∈ fills history ↔
      (∃ ruling, .settled number ruling ∈ history ∧ ruling.response = response) ∨
      (∃ discarded, .dropped ⟨number, discarded, false⟩ ∈ history ∧ .abandoned = response) := by
  simp only [fills, List.mem_filterMap]
  constructor
  · rintro ⟨event, past, fill⟩
    cases event with
    | settled slot ruling =>
      obtain ⟨rfl, rfl⟩ := Prod.mk.inj (Option.some.inj fill)
      exact .inl ⟨ruling, past, rfl⟩
    | dropped responder =>
      obtain ⟨slot, discarded, done⟩ := responder
      cases done with
      | true => cases fill
      | false =>
        obtain ⟨rfl, rfl⟩ := Prod.mk.inj (Option.some.inj fill)
        exact .inr ⟨discarded, past, rfl⟩
    | admitted | taken | closed => cases fill
  · rintro (⟨ruling, past, rfl⟩ | ⟨discarded, past, rfl⟩)
    · exact ⟨_, past, rfl⟩
    · exact ⟨_, past, rfl⟩

/-- A responder for the slot goes out with an entry that has been taken, or discarded. -/
def Issued (history : List (Event α β)) (number : Nat) (discarded : Bool) : Prop :=
  ∃ entry : Queue.Entry (Parcel α), entry.item.slot = some number ∧
    if discarded then entry ∈ Session.discarded history else entry ∈ taken history

private theorem Issued.append {history : List (Event α β)} {number : Nat} {discarded : Bool}
    (issued : Issued history number discarded) (event : Event α β) :
    Issued (history ++ [event]) number discarded := by
  obtain ⟨entry, slot, past⟩ := issued
  refine ⟨entry, slot, ?_⟩
  cases discarded <;> simp at past ⊢ <;> exact .inl past

structure Origins (session : Session α β) : Prop where
  issued : ∀ responder ∈ session.responders,
    Issued session.history responder.slot responder.discarded
  settled : ∀ number ruling, .settled number ruling ∈ session.history →
    Issued session.history number false
  dropped : ∀ responder, .dropped responder ∈ session.history →
    Issued session.history responder.slot responder.discarded

variable {session after : Session α β}

private theorem Origins.append (origins : session.Origins) (event : Event α β)
    (history : after.history = session.history ++ [event])
    (issued : ∀ responder ∈ after.responders, responder ∈ session.responders ∨
      Issued after.history responder.slot responder.discarded)
    (settled : ∀ number ruling, event = .settled number ruling → Issued session.history number false)
    (dropped : ∀ responder, event = .dropped responder → responder ∈ session.responders) :
    after.Origins := by
  refine ⟨?_, ?_, ?_⟩
  · intro responder member
    rcases issued responder member with old | new
    · exact history ▸ (origins.issued responder old).append event
    · exact new
  · intro number ruling past
    rw [history] at past ⊢
    rcases List.mem_append.mp past with old | new
    · exact (origins.settled number ruling old).append event
    · exact (settled number ruling (List.mem_singleton.mp new).symm).append event
  · intro responder past
    rw [history] at past ⊢
    rcases List.mem_append.mp past with old | new
    · exact (origins.dropped responder old).append event
    · exact (origins.issued responder (dropped responder (List.mem_singleton.mp new).symm)).append event

theorem Origins.step (origins : session.Origins) (step : session.Step after) : after.Origins := by
  cases step with
  | waited waiting => exact ⟨origins.issued, origins.settled, origins.dropped⟩
  | posted priority item pick unclosed =>
    exact origins.append _ rfl (fun _ member => .inl member) (by simp) (by simp)
  | called priority item deadline pick unclosed =>
    exact origins.append _ rfl (fun _ member => .inl member) (by simp) (by simp)
  | handed thread entry queue waiting popped =>
    refine origins.append _ rfl ?_ (by simp) (by simp)
    intro responder member
    refine (List.mem_append.mp member).imp id fun new => ?_
    obtain ⟨number, slot, rfl⟩ := List.mem_map.mp new
    exact ⟨entry, Option.mem_toList.mp slot, by simp [hand]⟩
  | closed =>
    refine origins.append _ rfl ?_ (by simp) (by simp)
    intro responder member
    refine (List.mem_append.mp member).imp id fun new => ?_
    obtain ⟨number, slot, rfl⟩ := List.mem_map.mp new
    obtain ⟨entry, present, owner⟩ := List.mem_filterMap.mp slot
    exact ⟨entry, owner, by simp [Session.move, present]⟩
  | settled slot ruling held =>
    refine origins.append _ rfl ?_ ?_ (by simp)
    · intro responder member
      rcases List.mem_cons.mp member with rfl | old
      · exact .inr ((origins.issued _ held).append _)
      · exact .inl (List.mem_of_mem_erase old)
    · intro number other same
      cases same
      exact origins.issued _ held
  | dropped responder held =>
    refine origins.append _ rfl (fun _ member => .inl (List.mem_of_mem_erase member)) (by simp) ?_
    intro other same
    cases same
    exact held
  | caller number change allowed => exact ⟨origins.issued, origins.settled, origins.dropped⟩
  | passed now later => exact ⟨origins.issued, origins.settled, origins.dropped⟩

/-- A slot holds what its responder has filled it with, and its caller knows no more than the slot and
the clock tell. -/
structure Truthful (session : Session α β) : Prop where
  sound : ∀ (number : Nat) (slot : Slot β), session.exchange.slots[number]? = some slot →
    SlotSound session.now slot
  answers : ∀ number response,
    session.exchange.answer? number = some response ↔ (number, response) ∈ fills session.history
  deadlines : ∀ entry deadline, (entry, deadline) ∈ admissions session.history →
    ∀ number, entry.item.slot = some number →
      (session.exchange.slots[number]?).map (·.deadline) = some (Sync.limit deadline)

private theorem Truthful.of_same (truthful : session.Truthful)
    (slots : after.exchange.slots = session.exchange.slots) (now : session.now = after.now)
    (filled : fills after.history = fills session.history)
    (admitted : ∀ entry deadline, (entry, deadline) ∈ admissions after.history →
      (entry, deadline) ∈ admissions session.history ∨ entry.item.slot = none) : after.Truthful := by
  refine ⟨?_, ?_, ?_⟩
  · rw [slots, ← now]
    exact truthful.sound
  · intro number response
    rw [answer?, slots, filled]
    exact truthful.answers number response
  · intro entry deadline member number slot
    rw [slots]
    rcases admitted entry deadline member with old | unanswered
    · exact truthful.deadlines entry deadline old number slot
    · rw [slot] at unanswered
      cases unanswered

private theorem Books.unfilled (books : session.Books) {number : Nat}
    (waits : number ∈ openSlots session.responders) (response : Response β) :
    (number, response) ∉ fills session.history := by
  intro filled
  obtain ⟨_, acted, _⟩ := List.nodup_append.mp (books.once.nodup_iff.mpr List.nodup_range)
  obtain ⟨_, _, apart⟩ := List.nodup_append.mp acted
  exact apart number waits number (List.mem_map_of_mem (f := Prod.fst) filled) rfl

private theorem Books.unfilled_of_size_le (books : session.Books) {number : Nat}
    (new : session.exchange.slots.size ≤ number) (response : Response β) :
    (number, response) ∉ fills session.history := by
  intro filled
  have given := books.once.mem_iff.mp (List.mem_append_right _ (List.mem_append_right _
    (List.mem_map_of_mem (f := Prod.fst) filled)))
  have below := List.mem_range.mp given
  omega

private theorem Truthful.called (truthful : session.Truthful) (books : session.Books) (priority : Priority)
    (item : α) (deadline : Option Instant) (pick : Nat) :
    Truthful ({ session with
      exchange := session.exchange.admittedCaller priority item deadline pick }.note
        (.admitted ⟨priority, session.exchange.queue.arrivals, ⟨item, some session.exchange.slots.size⟩⟩
          deadline)) := by
  refine ⟨?_, ?_, ?_⟩
  · intro number slot found
    simp only [note, admittedCaller_slots, Array.getElem?_push] at found
    split at found
    · cases found
      exact ⟨by simp, by simp, by simp⟩
    · exact truthful.sound number slot found
  · intro number response
    simp only [note, answer?, admittedCaller_slots, Array.getElem?_push, fills_append, Event.fill?,
      Option.toList_none, List.append_nil]
    split
    · rename_i same
      simpa using books.unfilled_of_size_le (Nat.le_of_eq same.symm) response
    · exact truthful.answers number response
  · intro entry limit member number slot
    simp only [note, admittedCaller_slots, Array.getElem?_push, admissions_append, Event.admission?,
      Option.toList_some, List.mem_append, List.mem_singleton] at member ⊢
    rcases member with old | new
    · have before := truthful.deadlines entry limit old number slot
      rw [if_neg]
      · exact before
      · rintro rfl
        simp at before
    · cases new
      rw [if_pos (Option.some.inj slot).symm]
      rfl

private theorem Truthful.filled (truthful : session.Truthful) (books : session.Books) (number : Nat)
    (waits : number ∈ openSlots session.responders) (response : Response β)
    (slots : after.exchange.slots = session.exchange.slots.modify number (filled response))
    (now : session.now = after.now)
    (noted : fills after.history = fills session.history ++ [(number, response)])
    (admitted : admissions after.history = admissions session.history) : after.Truthful := by
  refine ⟨?_, ?_, ?_⟩
  · intro other slot found
    rw [slots, Array.getElem?_modify] at found
    split at found
    · obtain ⟨before, present, rfl⟩ := Option.map_eq_some_iff.mp found
      exact now ▸ filled_sound response (truthful.sound other before present)
    · exact now ▸ truthful.sound other slot found
  · intro other found
    rw [answer?, slots, Array.getElem?_modify, noted, List.mem_append, List.mem_singleton]
    by_cases same : number = other
    · subst same
      have empty : ∀ found, session.exchange.answer? number ≠ some found := fun found answer =>
        books.unfilled waits found ((truthful.answers number found).mp answer)
      have present : number < session.exchange.slots.size := List.mem_range.mp
        (books.once.mem_iff.mp (List.mem_append_right _ (List.mem_append_left _ waits)))
      have unanswered : session.exchange.slots[number].answer = none := by
        simpa [answer?, present, Option.eq_none_iff_forall_ne_some] using empty
      simp [present, Exchange.filled, unanswered, books.unfilled waits found, eq_comm]
    · rw [if_neg same]
      simpa [answer?, Ne.symm same] using truthful.answers other found
  · intro entry deadline member other slot
    rw [admitted] at member
    have before := truthful.deadlines entry deadline member other slot
    rw [slots, Array.getElem?_modify]
    split
    · simpa [Exchange.filled, Function.comp_def] using before
    · exact before

private theorem Truthful.caller (truthful : session.Truthful) (number : Nat) {change : Slot β → Slot β}
    (allowed : ∀ slot, CallerStep session.now slot (change slot)) :
    Truthful { session with
      exchange := { session.exchange with slots := session.exchange.slots.modify number change } } := by
  refine ⟨?_, ?_, ?_⟩
  · intro other slot found
    rw [Array.getElem?_modify] at found
    split at found
    · obtain ⟨before, present, rfl⟩ := Option.map_eq_some_iff.mp found
      exact (allowed before).sound (truthful.sound other before present)
    · exact truthful.sound other slot found
  · intro other response
    rw [← truthful.answers other response]
    simp only [answer?, Array.getElem?_modify]
    split
    · cases session.exchange.slots[other]? with
      | none => rfl
      | some slot => simp [(allowed slot).frame.2]
    · rfl
  · intro entry deadline member other owner
    rw [← truthful.deadlines entry deadline member other owner, Array.getElem?_modify]
    split
    · cases session.exchange.slots[other]? with
      | none => rfl
      | some slot => simp [(allowed slot).frame.1]
    · rfl

theorem Truthful.step (truthful : session.Truthful) (books : session.Books)
    (step : session.Step after) : after.Truthful := by
  cases step with
  | waited waiting => exact truthful.of_same rfl rfl rfl fun _ _ member => .inl member
  | posted priority item pick unclosed =>
    refine truthful.of_same rfl rfl (by simp [note]) ?_
    intro entry deadline member
    simp only [note, admissions_append, Event.admission?, Option.toList_some, List.mem_append,
      List.mem_singleton] at member
    rcases member with old | new
    · exact .inl old
    · cases new
      exact .inr rfl
  | called priority item deadline pick unclosed => exact truthful.called books priority item deadline pick
  | handed thread entry queue waiting popped =>
    exact truthful.of_same rfl rfl (by simp [hand]) fun _ _ member => .inl (by simpa [hand] using member)
  | closed =>
    refine truthful.of_same rfl rfl (by simp [Session.move]) fun _ _ member => .inl ?_
    simpa [Session.move] using member
  | settled slot ruling held =>
    refine truthful.filled books slot ?_ ruling.response rfl rfl (by simp [settle]) (by simp [settle])
    exact List.mem_map.mpr ⟨_, List.mem_filter.mpr ⟨held, rfl⟩, rfl⟩
  | dropped responder held =>
    obtain ⟨slot, discarded, done⟩ := responder
    cases done with
    | true =>
      exact truthful.of_same rfl rfl (by simp [drop]) fun _ _ member => .inl (by simpa [drop] using member)
    | false =>
      refine truthful.filled books slot ?_ .abandoned rfl rfl (by simp [drop]) (by simp [drop])
      exact List.mem_map.mpr ⟨_, List.mem_filter.mpr ⟨held, rfl⟩, rfl⟩
  | caller number change allowed => exact truthful.caller number allowed
  | passed now later =>
    exact ⟨fun number slot found => (truthful.sound number slot found).later later, truthful.answers,
      truthful.deadlines⟩

private theorem start_truthful (now : Instant) : (start now : Session α β).Truthful where
  sound _ _ found := by simp [start, empty] at found
  answers _ _ := by simp [start, empty, answer?, fills]
  deadlines := by simp [start, admissions]

private theorem start_origins (now : Instant) : (start now : Session α β).Origins where
  issued := by simp [start]
  settled := by simp [start]
  dropped := by simp [start]

theorem moves_origins (now : Instant) (list : List (Move α β)) : ((start now).moves list).Origins :=
  moves_keep (fun _ _ => Origins.step) (start_origins now) list

theorem moves_truthful (now : Instant) (list : List (Move α β)) : ((start now).moves list).Truthful := by
  let kept (session : Session α β) : Prop := session.Books ∧ session.Truthful
  have step (session after : Session α β) (before : kept session) (step : session.Step after) : kept after :=
    ⟨before.1.step step, before.2.step before.1 step⟩
  exact (moves_keep step ⟨start_books now, start_truthful now⟩ list).2

end Session

end TaskKernel.Exchange
