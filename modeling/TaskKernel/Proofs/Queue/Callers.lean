import TaskKernel.Proofs.Queue.Answers

/-!
What callers go away with. A caller leaves only when it looks at its slot, with the answer it finds
there or, past its deadline, without one; what is filled in later reaches nobody else.
-/
namespace TaskKernel.Exchange

variable {α β : Type} {exchange : Exchange α β} {number other : Nat} {response : Response β}

theorem outcome?_eq_some : exchange.outcome? number = some response ↔
    ∃ slot : Slot β, exchange.slots[number]? = some slot ∧ slot.caller = .gone response := by
  rw [outcome?, Option.bind_eq_some_iff]
  refine exists_congr fun slot => and_congr_right fun _ => ?_
  cases slot.caller <;> simp

theorem answer?_eq_some : exchange.answer? number = some response ↔
    ∃ slot : Slot β, exchange.slots[number]? = some slot ∧ slot.answer = some response := by
  rw [answer?, Option.bind_eq_some_iff]

private theorem outcome?_congr {after : Exchange α β} (slots : after.slots = exchange.slots) :
    after.outcome? number = exchange.outcome? number := by rw [outcome?, outcome?, slots]

theorem outcome?_push {after : Exchange α β} {slot : Slot β} (waits : slot.caller = .looking)
    (slots : after.slots = exchange.slots.push slot) :
    after.outcome? number = exchange.outcome? number := by
  rw [outcome?, outcome?, slots, Array.getElem?_push]
  split
  · simp_all
  · rfl

/-- A change of a slot that makes no caller go away, and brings none back. -/
def Silent (change : Slot β → Slot β) : Prop :=
  ∀ slot response, (change slot).caller = .gone response ↔ slot.caller = .gone response

private theorem outcome?_modify {change : Slot β → Slot β} (silent : Silent change) :
    ({ exchange with slots := exchange.slots.modify other change } : Exchange α β).outcome? number =
      exchange.outcome? number := by
  ext response
  simp only [outcome?_eq_some, Array.getElem?_modify]
  split
  · cases exchange.slots[number]? <;> simp [silent _ response]
  · rfl

private theorem filled_silent (response : Response β) : Silent (filled response) := by
  rintro ⟨deadline, answer, caller⟩ found
  cases caller <;> simp [filled]

theorem outcome?_fill : (exchange.fill other response).outcome? number = exchange.outcome? number :=
  outcome?_modify (filled_silent response)

theorem outcome?_rouseCaller :
    (exchange.rouseCaller other).outcome? number = exchange.outcome? number := by
  refine outcome?_modify ?_
  rintro ⟨deadline, answer, caller⟩ found
  cases caller <;> simp

theorem outcome?_expireCaller (now : Instant) :
    (exchange.expireCaller now other).outcome? number = exchange.outcome? number := by
  refine outcome?_modify ?_
  rintro ⟨deadline, answer, caller⟩ found
  cases caller with
  | parked =>
    simp only
    split <;> simp
  | looking => exact .rfl
  | expired => exact .rfl
  | gone => exact .rfl

theorem outcome?_look_of_ne (apart : other ≠ number) :
    (exchange.look other).outcome? number = exchange.outcome? number := by
  rw [outcome?, outcome?, look, Array.getElem?_modify, if_neg apart]

private theorem outcome?_look (gone : (exchange.look number).outcome? number = some response) :
    exchange.outcome? number = some response ∨ exchange.answer? number = some response ∨
      ∃ slot : Slot β, exchange.slots[number]? = some slot ∧ slot.answer = none ∧
        slot.caller = .expired ∧ response = .timedOut := by
  obtain ⟨after, found, away⟩ := outcome?_eq_some.mp gone
  rw [look, Array.getElem?_modify, if_pos rfl] at found
  obtain ⟨slot, present, rfl⟩ := Option.map_eq_some_iff.mp found
  simp only [looked] at away
  split at away
  · cases away
    exact .inr (.inl (answer?_eq_some.mpr ⟨slot, present, ‹_›⟩))
  · cases away
  · cases away
    exact .inr (.inl (answer?_eq_some.mpr ⟨slot, present, ‹_›⟩))
  · cases away
    exact .inr (.inr ⟨slot, present, ‹_›, ‹_›, rfl⟩)
  · exact .inl (outcome?_eq_some.mpr ⟨slot, present, away⟩)

theorem outcome?_look_of_gone (gone : exchange.outcome? number = some response) :
    (exchange.look number).outcome? number = some response := by
  obtain ⟨slot, present, away⟩ := outcome?_eq_some.mp gone
  refine outcome?_eq_some.mpr ⟨{ slot with caller := looked slot }, ?_, by simp [looked, away]⟩
  simp [look, Array.getElem?_modify, present]

theorem outcome?_look_of_answer {now : Instant}
    (sound : ∀ slot : Slot β, exchange.slots[number]? = some slot → SlotSound now slot)
    (answered : exchange.answer? number = some response) (unreturned : exchange.outcome? number = none) :
    (exchange.look number).outcome? number = some response := by
  obtain ⟨slot, present, held⟩ := answer?_eq_some.mp answered
  refine outcome?_eq_some.mpr ⟨{ slot with caller := looked slot }, ?_, ?_⟩
  · simp [look, Array.getElem?_modify, present]
  · cases caller : slot.caller with
    | looking => simp [looked, caller, held]
    | expired => simp [looked, caller, held]
    | parked => simp [(sound slot present).parked caller] at held
    | gone found =>
      rw [outcome?_eq_some.mpr ⟨slot, present, caller⟩] at unreturned
      cases unreturned

/-- Nobody stays at a filled slot for longer than its next look. -/
theorem SlotSound.looked_filled {now : Instant} {slot : Slot β} (sound : SlotSound now slot)
    (filled : slot.answer ≠ none) : ∃ response, looked slot = .gone response := by
  obtain ⟨response, held⟩ := Option.ne_none_iff_exists'.mp filled
  cases caller : slot.caller with
  | looking => exact ⟨response, by simp [looked, caller, held]⟩
  | expired => exact ⟨response, by simp [looked, caller, held]⟩
  | parked => exact absurd (sound.parked caller) filled
  | gone found => exact ⟨found, by simp [looked, caller]⟩

/-- Nobody leaves an empty slot before its deadline. -/
theorem SlotSound.looked_empty {now : Instant} {slot : Slot β} (sound : SlotSound now slot)
    (empty : slot.answer = none) (gone : looked slot = .gone response) :
    response = .timedOut ∧ slot.deadline.any (· ≤ now) = true := by
  cases caller : slot.caller with
  | looking => simp [looked, caller, empty] at gone
  | parked => simp [looked, caller] at gone
  | expired =>
    simp only [looked, caller, empty, CallerStance.gone.injEq] at gone
    exact ⟨gone.symm, sound.expired caller⟩
  | gone found =>
    simp only [looked, caller, CallerStance.gone.injEq] at gone
    rcases sound.gone found caller with held | ⟨timedOut, overdue⟩
    · rw [empty] at held
      cases held
    · exact ⟨gone.symm.trans timedOut, overdue⟩

namespace Session

variable {session : Session α β}

private theorem outcome?_move {move : Move α β} (unlooked : move ≠ .look number) :
    (session.move move).exchange.outcome? number = session.exchange.outcome? number := by
  cases move with
  | push priority item pick =>
    rcases session.exchange.push_cases priority item pick with ⟨_, pushed⟩ | ⟨_, pushed⟩
    · simp only [Session.move, pushed]
    · simp only [Session.move, pushed]
      exact outcome?_congr rfl
  | call priority item deadline pick =>
    rcases session.exchange.call_cases priority item deadline pick with ⟨_, called⟩ | ⟨_, called⟩
    · simp only [Session.move, called]
    · simp only [Session.move, called]
      exact outcome?_push rfl rfl
  | tryReceive thread =>
    rcases session.exchange.tryReceive_cases with ⟨_, taken⟩ | ⟨entry, queue, _, taken⟩
    · simp only [Session.move, taken]
    · simp only [Session.move, taken]
      exact outcome?_congr rfl
  | receive thread deadline =>
    rcases session.exchange.receive_cases thread deadline with ⟨_, result⟩ |
      ⟨_, ⟨entry, queue, _, result⟩ | ⟨_, _, result⟩ | ⟨_, _, _, result⟩⟩
    · simp only [Session.move, result]
    · simp only [Session.move, result]
      exact outcome?_congr rfl
    · simp only [Session.move, result]
      exact outcome?_congr rfl
    · simp only [Session.move, result]
      exact outcome?_congr rfl
  | close => exact outcome?_congr rfl
  | settle slot ruling =>
    simp only [Session.move]
    split
    · exact outcome?_fill
    · rfl
  | drop responder =>
    simp only [Session.move]
    split
    · simp only [drop]
      split
      · rfl
      · exact outcome?_fill
    · rfl
  | look slot => exact outcome?_look_of_ne fun same => unlooked (same ▸ rfl)
  | rouseCaller slot => exact outcome?_rouseCaller
  | expireCaller slot => exact outcome?_expireCaller session.now
  | rouse thread => exact outcome?_congr rfl
  | expire thread => exact outcome?_congr rfl
  | passTo now =>
    simp only [Session.move]
    split <;> rfl

private theorem outcome?_moves (list : List (Move α β)) (gone : session.exchange.outcome? number = some response) :
    (session.moves list).exchange.outcome? number = some response := by
  induction list generalizing session with
  | nil => exact gone
  | cons move rest ih =>
    refine ih ?_
    by_cases looks : move = .look number
    · subst looks
      exact outcome?_look_of_gone gone
    · rwa [outcome?_move looks]

theorem Books.same_owner (books : session.Books) {first second : Queue.Entry (Parcel α)}
    (one : first ∈ Session.admitted session.history) (two : second ∈ Session.admitted session.history)
    (slot : first.item.slot = some number) (same : second.item.slot = some number) : first = second := by
  have distinct : (slotsOf (Session.admitted session.history)).Nodup := books.numbers ▸ List.nodup_range
  let alike (left right : Queue.Entry (Parcel α)) : Prop :=
    left.item.slot = some number ∧ right.item.slot = some number
  have apart : (Session.admitted session.history).Pairwise fun left right => ¬ alike left right := by
    refine (List.pairwise_filterMap.mp distinct).imp ?_
    exact fun different both => different number both.1 number both.2 rfl
  exact eq_of_alike apart And.symm one two ⟨slot, same⟩

theorem Issued.owner {discarded : Bool} (issued : Issued session.history number discarded)
    (books : session.Books) {entry : Queue.Entry (Parcel α)} (member : entry ∈ admitted session.history)
    (slot : entry.item.slot = some number) :
    if discarded then entry ∈ Session.discarded session.history else entry ∈ taken session.history := by
  obtain ⟨owner, same, past⟩ := issued
  have present : owner ∈ admitted session.history := by
    refine books.shared.mem_iff.mpr (List.mem_append_right _ (List.mem_append.mpr ?_))
    cases discarded with
    | true => exact .inr past
    | false => exact .inl past
  exact books.same_owner present member same slot ▸ past

private theorem Books.filled_once (books : session.Books) :
    ((fills session.history).map Prod.fst).count number ≤ 1 := by
  obtain ⟨_, acted, _⟩ := List.nodup_append.mp (books.once.nodup_iff.mpr List.nodup_range)
  exact List.nodup_iff_count.mp (List.nodup_append.mp acted).2.1 number

theorem Truthful.answered (truthful : session.Truthful) : session.exchange.answer? number = some response ↔
    (∃ ruling, .settled number ruling ∈ session.history ∧ ruling.response = response) ∨
    ∃ discarded, .dropped ⟨number, discarded, false⟩ ∈ session.history ∧ .abandoned = response :=
  (truthful.answers number response).trans mem_fills

theorem Truthful.handled_iff (truthful : session.Truthful) (reply : Option β) :
    session.exchange.answer? number = some (.handled reply) ↔
      .settled number (.completed reply) ∈ session.history := by
  rw [truthful.answered]
  constructor
  · rintro (⟨ruling, past, same⟩ | ⟨_, _, same⟩)
    · cases ruling <;> cases same
      exact past
    · cases same
  · exact fun past => .inl ⟨_, past, rfl⟩

theorem Truthful.failed_iff (truthful : session.Truthful) (reason : String) :
    session.exchange.answer? number = some (.failed reason) ↔
      .settled number (.failed reason) ∈ session.history := by
  rw [truthful.answered]
  constructor
  · rintro (⟨ruling, past, same⟩ | ⟨_, _, same⟩)
    · cases ruling <;> cases same
      exact past
    · cases same
  · exact fun past => .inl ⟨_, past, rfl⟩

theorem Truthful.abandoned_iff (truthful : session.Truthful) :
    session.exchange.answer? number = some .abandoned ↔
      ∃ discarded, .dropped ⟨number, discarded, false⟩ ∈ session.history := by
  rw [truthful.answered]
  constructor
  · rintro (⟨ruling, _, same⟩ | ⟨discarded, past, _⟩)
    · cases ruling <;> cases same
    · exact ⟨discarded, past⟩
  · exact fun ⟨discarded, past⟩ => .inr ⟨discarded, past, rfl⟩

theorem Truthful.never_timedOut (truthful : session.Truthful) :
    session.exchange.answer? number ≠ some .timedOut := by
  rw [Ne, truthful.answered]
  rintro (⟨ruling, _, same⟩ | ⟨_, _, same⟩)
  · cases ruling <;> cases same
  · cases same

private theorem Truthful.overdue (truthful : session.Truthful) {entry : Queue.Entry (Parcel α)}
    {deadline : Option Instant} (admission : (entry, deadline) ∈ admissions session.history)
    (owns : entry.item.slot = some number) {slot : Slot β}
    (present : session.exchange.slots[number]? = some slot)
    (overdue : slot.deadline.any (· ≤ session.now) = true) :
    deadline.any (· ≤ session.now) = true := by
  have limit := truthful.deadlines entry deadline admission number owns
  rw [present, Option.map_some, Option.some_inj] at limit
  exact Sync.overdue_of_limit (limit ▸ overdue)

theorem Truthful.returned (truthful : session.Truthful) {entry : Queue.Entry (Parcel α)}
    {deadline : Option Instant} (admission : (entry, deadline) ∈ admissions session.history)
    (owns : entry.item.slot = some number) (gone : session.exchange.outcome? number = some response) :
    session.exchange.answer? number = some response ∨
      response = .timedOut ∧ deadline.any (· ≤ session.now) = true := by
  obtain ⟨slot, present, away⟩ := outcome?_eq_some.mp gone
  rcases (truthful.sound number slot present).gone response away with held | ⟨timedOut, overdue⟩
  · exact .inl (answer?_eq_some.mpr ⟨slot, present, held⟩)
  · exact .inr ⟨timedOut, truthful.overdue admission owns present overdue⟩

private theorem Truthful.leaves (truthful : session.Truthful) {entry : Queue.Entry (Parcel α)}
    {deadline : Option Instant} (admission : (entry, deadline) ∈ admissions session.history)
    (owns : entry.item.slot = some number) (move : Move α β)
    (waits : session.exchange.outcome? number = none)
    (gone : (session.move move).exchange.outcome? number = some response) :
    move = .look number ∧ (session.exchange.answer? number = some response ∨
      session.exchange.answer? number = none ∧ response = .timedOut ∧
        deadline.any (· ≤ session.now) = true) := by
  by_cases looks : move = .look number
  · refine ⟨looks, ?_⟩
    subst looks
    rcases outcome?_look gone with old | answered | ⟨slot, present, empty, late, timedOut⟩
    · rw [waits] at old
      cases old
    · exact .inl answered
    · have overdue := (truthful.sound number slot present).expired late
      exact .inr ⟨by simp [answer?, present, empty], timedOut,
        truthful.overdue admission owns present overdue⟩
  · rw [outcome?_move looks, waits] at gone
    cases gone

/-- What is done to a slot reaches no other slot, and neither the queue nor its consumers. -/
structure Apart (number : Nat) (exchange after : Exchange α β) : Prop where
  queue : after.queue = exchange.queue
  waiting : after.waiting = exchange.waiting
  slots : ∀ other, other ≠ number → after.slots[other]? = exchange.slots[other]?
  outcomes : ∀ other, after.outcome? other = exchange.outcome? other

theorem Apart.refl (number : Nat) (exchange : Exchange α β) : Apart number exchange exchange :=
  ⟨rfl, rfl, fun _ _ => rfl, fun _ => rfl⟩

private theorem fill_apart (exchange : Exchange α β) (number : Nat) (response : Response β) :
    Apart number exchange (exchange.fill number response) where
  queue := rfl
  waiting := rfl
  slots other apart := by rw [fill_slots, Array.getElem?_modify, if_neg (Ne.symm apart)]
  outcomes _ := outcome?_fill

theorem settle_apart (session : Session α β) (number : Nat) (ruling : Ruling β) :
    Apart number session.exchange (session.move (.settle number ruling)).exchange := by
  simp only [Session.move]
  split
  · exact fill_apart session.exchange number ruling.response
  · exact .refl number session.exchange

theorem drop_apart (session : Session α β) (responder : Responder) :
    Apart responder.slot session.exchange (session.move (.drop responder)).exchange := by
  simp only [Session.move, drop]
  split
  · split
    · exact .refl responder.slot session.exchange
    · exact fill_apart session.exchange responder.slot .abandoned
  · exact .refl responder.slot session.exchange

/-- What is so for the caller that waits at slot `number` for its entry, until `deadline` if there is one. -/
structure Served (session : Session α β) (entry : Queue.Entry (Parcel α)) (deadline : Option Instant)
    (number : Nat) : Prop where
  own : ∀ other ∈ admitted session.history, other.item.slot = some number → other = entry
  -- Whoever can fill the slot has this entry: it has taken it, or closed the queue around it.
  held : ∀ responder ∈ session.responders, responder.slot = number →
    if responder.discarded then entry ∈ discarded session.history else entry ∈ taken session.history
  settled : ∀ ruling, .settled number ruling ∈ session.history → entry ∈ taken session.history
  dropped : ∀ responder, .dropped responder ∈ session.history → responder.slot = number →
    if responder.discarded then entry ∈ discarded session.history else entry ∈ taken session.history
  once : ((fills session.history).map Prod.fst).count number ≤ 1
  handled : ∀ reply, session.exchange.answer? number = some (.handled reply) ↔
    .settled number (.completed reply) ∈ session.history
  failed : ∀ reason, session.exchange.answer? number = some (.failed reason) ↔
    .settled number (.failed reason) ∈ session.history
  abandoned : session.exchange.answer? number = some .abandoned ↔
    ∃ discarded, .dropped ⟨number, discarded, false⟩ ∈ session.history
  neverTimedOut : session.exchange.answer? number ≠ some .timedOut
  returned : ∀ response, session.exchange.outcome? number = some response →
    session.exchange.answer? number = some response ∨
      response = .timedOut ∧ deadline.any (· ≤ session.now) = true
  returns : ∀ response, session.exchange.answer? number = some response →
    session.exchange.outcome? number = none →
      (session.move (.look number)).exchange.outcome? number = some response
  -- It goes away only when it looks, and without an answer only when the slot is still empty then and the
  -- deadline has passed.
  leaves : ∀ move response, session.exchange.outcome? number = none →
    (session.move move).exchange.outcome? number = some response → move = .look number ∧
      (session.exchange.answer? number = some response ∨
        session.exchange.answer? number = none ∧ response = .timedOut ∧
          deadline.any (· ≤ session.now) = true)
  final : ∀ response list, session.exchange.outcome? number = some response →
    (session.moves list).exchange.outcome? number = some response
  settleApart : ∀ ruling, Apart number session.exchange (session.move (.settle number ruling)).exchange
  dropApart : ∀ responder, responder.slot = number →
    Apart number session.exchange (session.move (.drop responder)).exchange

/-- Every caller whose message is admitted gets the answer that the message gets, and nothing else. -/
theorem callers_served (now : Instant) (list : List (Move α β)) (entry : Queue.Entry (Parcel α))
    (deadline : Option Instant) (number : Nat)
    (admission : (entry, deadline) ∈ admissions ((start now).moves list).history)
    (slot : entry.item.slot = some number) : Served ((start now).moves list) entry deadline number := by
  have books := moves_books now list
  have origins := moves_origins now list
  have truthful := moves_truthful now list
  generalize (start now).moves list = session at *
  have member : entry ∈ admitted session.history := List.mem_map_of_mem (f := Prod.fst) admission
  exact {
    own := fun other present same => books.same_owner present member same slot
    held := fun responder out same => (same ▸ origins.issued responder out).owner books member slot
    settled := fun ruling past => (origins.settled number ruling past).owner books member slot
    dropped := fun responder past same =>
      (same ▸ origins.dropped responder past).owner books member slot
    once := books.filled_once
    handled := truthful.handled_iff
    failed := truthful.failed_iff
    abandoned := truthful.abandoned_iff
    neverTimedOut := truthful.never_timedOut
    returned := fun response gone => truthful.returned admission slot gone
    returns := fun response answered unreturned =>
      outcome?_look_of_answer (fun found present => truthful.sound number found present) answered unreturned
    leaves := fun move response waits gone => truthful.leaves admission slot move waits gone
    final := fun response list gone => outcome?_moves list gone
    settleApart := session.settle_apart number
    dropApart := fun responder same => same ▸ session.drop_apart responder }

/-- A caller that has timed out, and whose message is completed afterwards. -/
theorem late_caller_served :
    Served ((start .zero : Session Unit Nat).moves
      [.call .normal () (some .zero) 0, .look 0, .expireCaller 0, .look 0, .tryReceive 0,
        .settle 0 (.completed (some 7))])
      ⟨.normal, 0, ⟨(), some 0⟩⟩ (some .zero) 0 :=
  callers_served .zero _ ⟨.normal, 0, ⟨(), some 0⟩⟩ (some .zero) 0 (List.mem_singleton.mpr rfl) rfl

end Session

end TaskKernel.Exchange
