import TaskKernel.Proofs.Timer.Session

/-!
How often timers fire. The ticks of a timer are counted from one without a gap, and those of a limited
timer count down to none; a timer that is left alone fires as often as it was made to.
-/
namespace TaskKernel

variable {σ : Type}

theorem Repeat.toNat_consumed {left : UInt32} (positive : 0 < left.toNat) :
    ∃ rest, (times left).consume = times rest ∧ rest.toNat + 1 = left.toNat := by
  have nonzero : left ≠ 0 := by
    rintro rfl
    exact Nat.lt_irrefl _ positive
  have enough : (1 : UInt32) ≤ left := by
    rw [UInt32.le_iff_toNat_le, UInt32.toNat_one]
    exact positive
  refine ⟨left - 1, by rw [consume, if_neg nonzero], ?_⟩
  rw [UInt32.toNat_sub_of_le left 1 enough, UInt32.toNat_one]
  omega

/-- A timer after a number of firings. -/
def Timer.after (timer : Timer σ) : Nat → Timer σ
  | 0 => timer
  | count + 1 => (timer.after count).tick.2

namespace Timer

variable (timer : Timer σ) (count : Nat)

@[simp] theorem after_id : (timer.after count).id = timer.id := by
  induction count with
  | zero => rfl
  | succ count ih => exact ih

private theorem after_fired : (timer.after count).fired = timer.fired + count := by
  induction count with
  | zero => rfl
  | succ count ih => exact congrArg (· + 1) ih

private theorem after_forever (unlimited : timer.repeats = .forever) : (timer.after count).repeats = .forever := by
  induction count with
  | zero => exact unlimited
  | succ count ih =>
    show (timer.after count).repeats.consume = .forever
    rw [ih]
    rfl

variable {timer count}

private theorem after_times {left : UInt32} (limited : timer.repeats = .times left) (within : count ≤ left.toNat) :
    ∃ rest, (timer.after count).repeats = .times rest ∧ rest.toNat + count = left.toNat := by
  induction count with
  | zero => exact ⟨left, limited, rfl⟩
  | succ count ih =>
    obtain ⟨rest, repeats, sum⟩ := ih (Nat.le_of_succ_le within)
    obtain ⟨next, consumed, less⟩ := Repeat.toNat_consumed (show 0 < rest.toNat by omega)
    refine ⟨next, ?_, by omega⟩
    show (timer.after count).repeats.consume = _
    rw [repeats, consumed]

private theorem after_exhausted {left : UInt32} (limited : timer.repeats = .times left)
    (within : count ≤ left.toNat) :
    (timer.after count).repeats.isExhausted = true ↔ count = left.toNat := by
  obtain ⟨rest, repeats, sum⟩ := after_times limited within
  rw [repeats, Repeat.isExhausted, beq_iff_eq, ← UInt32.toNat_inj, UInt32.toNat_zero]
  omega

end Timer

namespace TimerSet.Session

/-- The tick of an event that is a firing of a timer. -/
@[simp] def Event.tickOf? (id : TimerId) : Event σ → Option Tick
  | fired firing => if firing.timer.id = id then some firing.tick else none
  | armed _ | cancelled .. | cleared _ => none

/-- The ticks of a timer, in the order of time. -/
def ticksOf (id : TimerId) (history : List (Event σ)) : List Tick := history.filterMap (Event.tickOf? id)

@[simp] theorem ticksOf_append (id : TimerId) (history : List (Event σ)) (event : Event σ) :
    ticksOf id (history ++ [event]) = ticksOf id history ++ (event.tickOf? id).toList := by
  rw [ticksOf, List.filterMap_append, List.filterMap_cons]
  cases event.tickOf? id <;> rfl

variable {session after : Session σ} {timer : Timer σ} {id : TimerId} {count : Nat}

/-- Why a timer is gone after a number of firings. -/
inductive Farewell (timer : Timer σ) (count : Nat) (history : List (Event σ)) : Prop
  | usedUp (spent : (timer.after count).repeats.isExhausted = true)
  | cancelled (known : .cancelled timer.id true ∈ history)
  | cleared (entries : List (Armed σ)) (past : .cleared entries ∈ history) (entry : Armed σ)
      (member : entry ∈ entries) (same : entry.timer.id = timer.id)

/-- Where a timer is after a number of firings. -/
inductive Whereabouts (timer : Timer σ) (count : Nat) (session : Session σ) : Prop
  | armed (entry : Armed σ) (member : entry ∈ session.set.armed) (same : entry.timer = timer.after count)
  | out (same : session.out = some (timer.after count))
      (caught : session.set.firingCancelled = true → .cancelled timer.id true ∈ session.history)
  | gone (gone : session.Gone timer.id) (why : Farewell timer count session.history)

/-- What is known of a timer that has been armed. -/
structure Traced (timer : Timer σ) (count : Nat) (session : Session σ) : Prop where
  ticks : ticksOf timer.id session.history = (List.range count).map fun before => (timer.after before).tick.1
  unspent : ∀ before < count, (timer.after before).repeats.isExhausted = false
  whereabouts : Whereabouts timer count session

private theorem Farewell.still {history later : List (Event σ)} (early : history <+: later)
    (farewell : Farewell timer count history) : Farewell timer count later := by
  cases farewell with
  | usedUp spent => exact .usedUp spent
  | cancelled known => exact .cancelled (early.subset known)
  | cleared entries past entry member same => exact .cleared entries (early.subset past) entry member same

private theorem Whereabouts.framed (whereabouts : Whereabouts timer count session) (step : session.Step after)
    (armed : ∀ entry ∈ session.set.armed, entry.timer.id = timer.id → entry ∈ after.set.armed)
    (out : ∀ current, session.out = some current → current.id = timer.id →
      after.out = some current ∧ after.set.firingCancelled = session.set.firingCancelled) :
    Whereabouts timer count after := by
  cases whereabouts with
  | armed entry member same => exact .armed entry (armed entry member (by rw [same, Timer.after_id])) same
  | out same caught =>
    obtain ⟨current, marker⟩ := out _ same (Timer.after_id timer count)
    exact .out current fun marked => step.history.subset (caught (marker ▸ marked))
  | gone gone why => exact .gone (gone.step step) (why.still step.history)

private theorem Traced.framed (traced : Traced timer count session)
    (ticks : ticksOf timer.id after.history = ticksOf timer.id session.history)
    (whereabouts : Whereabouts timer count after) : Traced timer count after :=
  ⟨ticks.trans traced.ticks, traced.unspent, whereabouts⟩

private theorem Sound.gone (sound : session.Sound) (step : session.Step after) (present : id ∈ session.ids)
    (absent : after.ids.count id = 0) : after.Gone id :=
  ⟨Nat.le_trans (sound.numbered id present) step.given, List.count_eq_zero.mp absent⟩

theorem Sound.gone_of_armed (sound : session.Sound) (step : session.Step after) {entry : Armed σ}
    (member : entry ∈ session.set.armed) (same : entry.timer.id = id) (made : after.made = session.made)
    (out : after.out = session.out) (removed : id ∉ after.set.armed.map (·.timer.id)) : after.Gone id := by
  subst same
  have once := List.nodup_iff_count.mp sound.apart entry.timer.id
  have present : entry.timer.id ∈ session.set.armed.map (·.timer.id) :=
    List.mem_map_of_mem (f := fun armed : Armed σ => armed.timer.id) member
  have some := List.count_pos_iff.mpr present
  have none := List.count_eq_zero.mpr removed
  refine sound.gone step (mem_ids_of_armed member) ?_
  rw [count_ids] at once ⊢
  rw [made, out]
  omega

theorem Sound.gone_of_out (sound : session.Sound) (step : session.Step after)
    (out : session.out = some timer) (made : after.made = session.made) (idle : after.out = none)
    (armed : after.set.armed = session.set.armed) : after.Gone timer.id := by
  have once := List.nodup_iff_count.mp sound.apart timer.id
  have one : ((session.out.map (·.id)).toList).count timer.id = 1 := by
    rw [out]
    exact List.count_singleton_self
  refine sound.gone step (mem_ids_of_out out) ?_
  rw [count_ids] at once ⊢
  rw [made, idle, armed, Option.map_none, Option.toList_none, List.count_nil]
  omega

private theorem Traced.fired (traced : Traced timer count session) (sound : session.Sound) {armed : Armed σ}
    (idle : session.out = none) (member : armed ∈ session.set.armed) (same : armed.timer.id = timer.id)
    (ticks : ticksOf timer.id after.history = ticksOf timer.id session.history ++ [armed.timer.tick.1])
    (out : after.out = some armed.timer.tick.2) (marker : after.set.firingCancelled = false) :
    Traced timer (count + 1) after := by
  cases traced.whereabouts with
  | armed entry present left =>
    obtain rfl : armed = entry := by
      apply sound.distinct.eq_of_id member present
      rw [left, same, Timer.after_id]
    have unspent := sound.unspent armed member
    rw [left] at ticks out unspent
    refine ⟨?_, ?_, .out out fun marked => ?_⟩
    · rw [ticks, traced.ticks, List.range_succ, List.map_append]
      rfl
    · intro before less
      rcases Nat.lt_succ_iff_lt_or_eq.mp less with earlier | rfl
      · exact traced.unspent before earlier
      · exact unspent
    · rw [marker] at marked
      cases marked
  | out current =>
    rw [idle] at current
    cases current
  | gone gone => exact absurd (same ▸ mem_ids_of_armed member) gone.absent

theorem mem_arm {set : TimerSet σ} {entry : Armed σ} {timer : Timer σ} {now : Instant}
    (member : entry ∈ set.armed) : entry ∈ (set.arm timer now).armed := by
  rcases arm_cases set timer now with ⟨_, same⟩ | ⟨_, same⟩ <;> rw [same]
  · exact member
  · exact List.mem_append_left _ member

private theorem Whereabouts.cancelled (whereabouts : Whereabouts timer count session) (sound : session.Sound)
    (unmarked : session.set.firing ≠ some id) :
    Whereabouts timer count
      ({ session with set := session.set.remove id }.note (.cancelled id (session.set.contains id))) := by
  have step : session.Step _ := .cancelled id unmarked
  by_cases same : id = timer.id
  · subst same
    cases whereabouts with
    | armed entry member left =>
      have known : session.set.contains timer.id = true :=
        List.any_eq_true.mpr ⟨entry, member, by simp [left]⟩
      have equal : entry.timer.id = timer.id := by rw [left, Timer.after_id]
      refine .gone (sound.gone_of_armed step member equal rfl rfl ?_) (.cancelled (by simp [note, known]))
      simp [note, remove]
    | out current =>
      have marked := sound.marked
      rw [current, Option.map_some, Timer.after_id] at marked
      exact absurd marked unmarked
    | gone gone why => exact .gone (gone.step step) (why.still step.history)
  · refine whereabouts.framed step ?_ fun _ out _ => ⟨out, rfl⟩
    intro entry member equal
    exact List.mem_filter.mpr ⟨member, decide_eq_true fun other => same (other.symm.trans equal)⟩

private theorem Whereabouts.caught (whereabouts : Whereabouts timer count session) (sound : session.Sound)
    (marked : session.set.firing = some id) :
    Whereabouts timer count
      ({ session with set := { session.set with firingCancelled := true } }.note (.cancelled id true)) := by
  have step : session.Step _ := .caught id marked
  have out := marked.symm.trans sound.marked
  cases whereabouts with
  | armed entry member same => exact .armed entry member same
  | out same _ =>
    rw [same] at out
    cases out
    exact .out same fun _ => by simp [note]
  | gone gone why => exact .gone (gone.step step) (why.still step.history)

private theorem Whereabouts.finished (whereabouts : Whereabouts timer count session) (sound : session.Sound)
    {other : Timer σ} (now : Instant) (out : session.out = some other)
    (uncaught : ¬ (session.set.firing = some other.id ∧ session.set.firingCancelled = true)) :
    Whereabouts timer count
      { session with
        set := { session.set with firing := none, firingCancelled := false }.arm other now
        out := none } := by
  have step : session.Step _ := .finished other now out uncaught
  cases whereabouts with
  | armed entry member same => exact .armed entry (mem_arm member) same
  | out current known =>
    obtain rfl := Option.some.inj (out.symm.trans current)
    rcases arm_cases { session.set with firing := none, firingCancelled := false } (timer.after count) now with
      ⟨spent, same⟩ | ⟨_, same⟩
    · have gone := sound.gone_of_out step out rfl rfl (by simp [same])
      rw [Timer.after_id] at gone
      exact .gone gone (.usedUp spent)
    · refine .armed ⟨now.addClamped (timer.after count).interval, timer.after count⟩ ?_ rfl
      simp [same]
  | gone gone why => exact .gone (gone.step step) why

private theorem Whereabouts.cleared (whereabouts : Whereabouts timer count session) (sound : session.Sound)
    (idle : session.out = none) :
    Whereabouts timer count ({ session with set := TimerSet.empty }.note (.cleared session.set.armed)) := by
  have step : session.Step _ := .cleared idle
  cases whereabouts with
  | armed entry member left =>
    have same : entry.timer.id = timer.id := by rw [left, Timer.after_id]
    refine .gone (sound.gone_of_armed step member same rfl rfl ?_)
      (.cleared session.set.armed (by simp [note]) entry member same)
    simp [note, TimerSet.empty]
  | out current =>
    rw [idle] at current
    cases current
  | gone gone why => exact .gone (gone.step step) (why.still step.history)

theorem Traced.step (traced : Traced timer count session) (sound : session.Sound)
    (step : session.Step after) : ∃ next, Traced timer next after := by
  have framed := traced.whereabouts.framed step
  have whole := step
  cases step with
  | stayed | allocated | created =>
    exact ⟨count, traced.framed rfl (framed (fun _ member _ => member) fun _ out _ => ⟨out, rfl⟩)⟩
  | armed other now member =>
    refine ⟨count, traced.framed (by simp [note]) (framed ?_ ?_)⟩
    · intro entry member _
      exact mem_arm member
    · intro current out _
      exact ⟨out, (arm_firing session.set other now).2⟩
  | fired now armed idle member reached =>
    by_cases same : armed.timer.id = timer.id
    · exact ⟨count + 1, traced.fired sound idle member same (by simp [note, Timer.tick, same]) rfl rfl⟩
    · refine ⟨count, traced.framed (by simp [note, Timer.tick, same]) (framed ?_ ?_)⟩
      · intro entry present equal
        exact List.mem_filter.mpr ⟨present, decide_eq_true fun other => same (other.symm.trans equal)⟩
      · intro current out
        rw [idle] at out
        cases out
  | caught id marked => exact ⟨count, traced.framed (by simp [note]) (traced.whereabouts.caught sound marked)⟩
  | cancelled id unmarked => exact ⟨count, traced.framed (by simp [note]) (traced.whereabouts.cancelled sound unmarked)⟩
  | finished other now out uncaught =>
    exact ⟨count, traced.framed rfl (traced.whereabouts.finished sound now out uncaught)⟩
  | cleared idle => exact ⟨count, traced.framed (by simp [note]) (traced.whereabouts.cleared sound idle)⟩
  | retired other out caught =>
    refine ⟨count, traced.framed rfl ?_⟩
    cases traced.whereabouts with
    | armed entry member same => exact .armed entry member same
    | out current known =>
      have gone := sound.gone_of_out whole current rfl rfl rfl
      rw [Timer.after_id] at gone
      exact .gone gone (.cancelled (known caught.2))
    | gone gone why => exact .gone (gone.step whole) why

theorem Step.ticksOf (step : session.Step after) (unarmed : ∀ entry ∈ session.set.armed, entry.timer.id ≠ id) :
    ticksOf id after.history = ticksOf id session.history := by
  cases step with
  | stayed | allocated | created | retired | finished => rfl
  | armed | caught | cancelled | cleared => simp [note]
  | fired now armed idle member => simp [note, Timer.tick, unarmed armed member]

theorem Traced.begin (sound : session.Sound) (unticked : ticksOf timer.id session.history = []) (now : Instant)
    (member : timer ∈ session.made) :
    Traced timer 0
      ({ session with
        set := session.set.arm timer now
        made := session.made.filter (·.id ≠ timer.id) }.note (.armed timer)) := by
  refine ⟨by simp [note, unticked], nofun, ?_⟩
  rcases arm_cases session.set timer now with ⟨spent, same⟩ | ⟨_, same⟩
  · have once := List.nodup_iff_count.mp sound.apart timer.id
    have some := List.count_pos_iff.mpr (List.mem_map_of_mem (f := fun timer : Timer σ => timer.id) member)
    have none := count_without (fun timer : Timer σ => timer.id) session.made timer.id timer.id
    rw [if_pos rfl] at none
    refine .gone (sound.gone (.armed timer now member) ?_ ?_) (.usedUp spent)
    · exact List.mem_append_left _ (List.mem_map_of_mem member)
    · rw [count_ids] at once ⊢
      simp only [note, same, none]
      omega
  · refine .armed ⟨now.addClamped timer.interval, timer⟩ ?_ rfl
    simp [note, same]

/-- What holds of the timers of a set all along. -/
structure Kept (session : Session σ) : Prop where
  sound : session.Sound
  unticked : ∀ id, session.Ahead id → ticksOf id session.history = []
  traced : ∀ timer, .armed timer ∈ session.history → timer.fired = 0 ∧ ∃ count, Traced timer count session

private theorem start_kept (given : Nat) : (start given : Session σ).Kept where
  sound := start_sound given
  unticked _ _ := rfl
  traced _ past := by cases past

theorem Kept.step (kept : session.Kept) (step : session.Step after) : after.Kept := by
  refine ⟨kept.sound.step step, ?_, ?_⟩
  · intro id ahead
    have before := ahead.before step
    rw [step.ticksOf (kept.sound.not_armed_of_ahead before)]
    exact kept.unticked id before
  · intro timer past
    have old (earlier : .armed timer ∈ session.history) :
        timer.fired = 0 ∧ ∃ count, Traced timer count after := by
      obtain ⟨unfired, count, traced⟩ := kept.traced timer earlier
      exact ⟨unfired, traced.step kept.sound step⟩
    cases step with
    | stayed | allocated | created | retired | finished => exact old past
    | fired | caught | cancelled | cleared =>
      rcases List.mem_append.mp past with earlier | new
      · exact old earlier
      · cases List.mem_singleton.mp new
    | armed other now member =>
      rcases List.mem_append.mp past with earlier | new
      · exact old earlier
      · cases List.mem_singleton.mp new
        have ahead : session.Ahead timer.id := .inl (List.mem_map_of_mem member)
        exact ⟨kept.sound.unfired timer member, 0, Traced.begin kept.sound (kept.unticked _ ahead) now member⟩

theorem Kept.moves (kept : session.Kept) (list : List (Move σ)) : (session.moves list).Kept :=
  moves_keep (fun _ _ kept step => kept.step step) kept list

/-- The ticks of a timer that has been armed, and what becomes of it. -/
structure Counted (timer : Timer σ) (session : Session σ) : Prop where
  counts : (ticksOf timer.id session.history).map (·.count) =
    List.range' 1 (ticksOf timer.id session.history).length
  limited : ∀ left, timer.repeats = .times left → ∀ tick ∈ ticksOf timer.id session.history,
    (∃ rest, tick.remaining = some rest ∧ rest.toNat + tick.count = left.toNat) ∧
      (tick.isLast = true ↔ tick.count = left.toNat)
  within : ∀ left, timer.repeats = .times left → (ticksOf timer.id session.history).length ≤ left.toNat
  unlimited : timer.repeats = .forever → ∀ tick ∈ ticksOf timer.id session.history,
    tick.remaining = none ∧ tick.isLast = false
  spent : ∀ left, timer.repeats = .times left → (ticksOf timer.id session.history).length = left.toNat →
    ∀ list, (session.moves list).set.contains timer.id = false ∧
      ticksOf timer.id (session.moves list).history = ticksOf timer.id session.history
  -- A limited timer that is neither armed nor out has fired as often as it was made to, unless it has been
  -- cancelled or cleared.
  complete : ∀ left, timer.repeats = .times left → session.set.contains timer.id = false →
    session.out.map (·.id) ≠ some timer.id → .cancelled timer.id true ∉ session.history →
    (∀ entries, .cleared entries ∈ session.history → ∀ entry ∈ entries, entry.timer.id ≠ timer.id) →
    (ticksOf timer.id session.history).length = left.toNat

private theorem Traced.length (traced : Traced timer count session) :
    (ticksOf timer.id session.history).length = count := by
  rw [traced.ticks, List.length_map, List.length_range]

private theorem Traced.within (traced : Traced timer count session) {left : UInt32}
    (limited : timer.repeats = .times left) : count ≤ left.toNat := by
  apply Nat.le_of_not_lt
  intro beyond
  have unspent := traced.unspent left.toNat beyond
  rw [(Timer.after_exhausted limited (Nat.le_refl _)).mpr rfl] at unspent
  cases unspent

private theorem Traced.mem_ticks (traced : Traced timer count session) {tick : Tick}
    (member : tick ∈ ticksOf timer.id session.history) :
    ∃ before < count, tick.count = timer.fired + before + 1 ∧
      tick.remaining = (timer.after (before + 1)).repeats.remaining := by
  rw [traced.ticks] at member
  obtain ⟨before, less, rfl⟩ := List.mem_map.mp member
  exact ⟨before, List.mem_range.mp less, congrArg (· + 1) (timer.after_fired before), rfl⟩

private theorem Traced.counts (traced : Traced timer count session) (unfired : timer.fired = 0) :
    (ticksOf timer.id session.history).map (·.count) = List.range' 1 count := by
  rw [traced.ticks, List.map_map, List.range'_eq_map_range]
  refine List.map_congr_left fun before _ => ?_
  show (timer.after before).fired + 1 = 1 + before
  rw [Timer.after_fired, unfired]
  omega

private theorem Traced.uncontained (traced : Traced timer count session) (sound : session.Sound)
    (spent : (timer.after count).repeats.isExhausted = true) : session.set.contains timer.id = false := by
  rw [← Bool.not_eq_true, contains_eq_true]
  rintro ⟨entry, member, same⟩
  cases traced.whereabouts with
  | armed other present left =>
    have equal : entry = other := by
      apply sound.distinct.eq_of_id member present
      rw [same, left, Timer.after_id]
    have unspent := sound.unspent other present
    rw [left, spent] at unspent
    cases unspent
  | out current => exact sound.not_armed_of_out current entry member (by rw [same, Timer.after_id])
  | gone gone => exact gone.absent (same ▸ mem_ids_of_armed member)

private theorem Kept.counted (kept : session.Kept) (armed : .armed timer ∈ session.history) :
    Counted timer session := by
  obtain ⟨unfired, count, traced⟩ := kept.traced timer armed
  have length := traced.length
  have exhausted {left : UInt32} (limited : timer.repeats = .times left) :
      (timer.after count).repeats.isExhausted = true ↔ count = left.toNat :=
    Timer.after_exhausted limited (traced.within limited)
  refine ⟨?_, ?_, ?_, ?_, ?_, ?_⟩
  · rw [length]
    exact traced.counts unfired
  · intro left limited tick member
    obtain ⟨before, less, number, remaining⟩ := traced.mem_ticks member
    obtain ⟨rest, repeats, sum⟩ := Timer.after_times limited
      (Nat.le_trans (Nat.succ_le_of_lt less) (traced.within limited))
    rw [repeats, Repeat.remaining] at remaining
    have total : rest.toNat + tick.count = left.toNat := by omega
    refine ⟨⟨rest, remaining, total⟩, ?_⟩
    rw [Tick.isLast, remaining, beq_iff_eq, Option.some.injEq, ← UInt32.toNat_inj, UInt32.toNat_zero]
    omega
  · intro left limited
    rw [length]
    exact traced.within limited
  · intro unlimited tick member
    obtain ⟨before, _, _, remaining⟩ := traced.mem_ticks member
    rw [Timer.after_forever timer _ unlimited, Repeat.remaining] at remaining
    exact ⟨remaining, by rw [Tick.isLast, remaining]; rfl⟩
  · intro left limited all list
    have later := kept.moves list
    obtain ⟨_, next, traced'⟩ := later.traced timer ((session.moves_history list).subset armed)
    have early : ticksOf timer.id session.history <+: ticksOf timer.id (session.moves list).history :=
      (session.moves_history list).filterMap _
    have most := traced'.within limited
    have grown := early.length_le
    rw [traced'.length] at grown
    have same : next = left.toNat := by omega
    constructor
    · exact traced'.uncontained later.sound ((Timer.after_exhausted limited most).mpr same)
    · exact (early.eq_of_length (by rw [traced'.length]; omega)).symm
  · intro left limited unarmed unfiring uncancelled uncleared
    rw [length]
    cases traced.whereabouts with
    | armed entry member same =>
      have found := contains_eq_true.mpr ⟨entry, member, by rw [same, Timer.after_id]⟩
      rw [unarmed] at found
      cases found
    | out current =>
      rw [current, Option.map_some, Timer.after_id] at unfiring
      exact absurd rfl unfiring
    | gone _ why =>
      cases why with
      | usedUp spent => exact (exhausted limited).mp spent
      | cancelled known => exact absurd known uncancelled
      | cleared entries past entry member same => exact absurd same (uncleared entries past entry member)

/-- The ticks of every timer are counted, in every interleaving of all that is done with a set. -/
theorem every_timer_counted (given : Nat) (list : List (Move σ)) (timer : Timer σ)
    (armed : .armed timer ∈ ((start given).moves list).history) :
    Counted timer ((start given).moves list) := ((start_kept given).moves list).counted armed

/-- A timer that is to fire twice does so, with another one that is cancelled while it is out. -/
theorem two_timers_counted :
    let interval : Delay := ⟨1, 0, by decide⟩
    let second (secs : Int64) : Instant := ⟨secs, 0, by decide⟩
    let timer : Timer Unit := ⟨⟨1⟩, interval, .times 2, 0, .dispatch⟩
    let arming : List (Move Unit) :=
      [.create timer.interval timer.repeats timer.action .taskAddTimer, .arm ⟨1⟩ (second 0)]
    let firing : List (Move Unit) :=
      [.create interval .forever .dispatch .contextAddTimer, .arm ⟨2⟩ (second 0), .fire (second 1),
        .finish (second 2), .fire (second 2), .cancel ⟨2⟩, .finish (second 3), .fire (second 9),
        .finish (second 9)]
    let session := (start 0).moves (arming ++ firing)
    .armed timer ∈ session.history ∧ Counted timer session ∧
      (ticksOf timer.id session.history).map (fun tick => (tick.count, tick.isLast)) = [(1, false), (2, true)] := by
  intro interval second timer arming firing session
  have first : ((start 0).moves arming).history = [.armed timer] := rfl
  have armed : .armed timer ∈ session.history := by
    have early := moves_history ((start 0).moves arming) firing
    rw [first, ← moves_append] at early
    exact early.subset (List.mem_singleton_self _)
  exact ⟨armed, every_timer_counted 0 (arming ++ firing) timer armed, by decide +kernel⟩

end TimerSet.Session

end TaskKernel
