import TaskKernel.Proofs.Sync.Waking
import TaskKernel.Sync.Monitor

/-!
Threads at a recursive lock with a condition. A thread changes the lock and its counter in separate steps,
and others act in between. The steps of one operation, taken together, are those of `Mutex` and `Monitor`;
between two operations of the owner the counter is the number of the guards that it can use.
-/
namespace TaskKernel.Sync.Monitor

variable {α : Type}

/-- Let a thread that has been woken find its deadline passed before it has the lock back. -/
def overtake (monitor : Monitor α) (now : Instant) (thread : ThreadKey) : Monitor α :=
  { monitor with waiting := monitor.waiting.overtake now thread }

/-- Where a thread stands in what it does with the lock. While it is `entering` it has a hold and has not
counted its new guard, and while it is `leaving` it has discounted a guard and still has the hold. A wait is
`accepted`, then the counter is cleared (`suspending`), then the lock is given up; a thread that is `resuming`
has the lock back, and the counter is not restored. -/
inductive Stage
  | outside
  | entering
  | leaving
  | accepted (bound : Option Instant)
  | suspending (bound : Option Instant)
  | waiting
  | resuming (woken : Bool)
deriving DecidableEq

namespace Stage

/-- Whether a wait has been accepted and has not come back. -/
def isInWait : Stage → Bool
  | accepted _ | suspending _ | waiting | resuming _ => true
  | outside | entering | leaving => false

/-- How the guards of the owner, the holds of the system's lock and the counter agree while the owner
stands at a stage. -/
def Agrees : Stage → (guards holds depth : Nat) → Prop
  | outside, guards, holds, depth => 0 < guards ∧ holds = guards ∧ depth = guards
  | entering, guards, holds, depth | leaving, guards, holds, depth => holds = guards + 1 ∧ depth = guards
  | accepted _, guards, holds, depth => guards = 1 ∧ holds = 1 ∧ depth = 1
  | suspending _, guards, holds, depth | resuming _, guards, holds, depth =>
    guards = 1 ∧ holds = 1 ∧ depth = 0
  | waiting, _, _, _ => False

/-- How many guards a thread has that is not the owner. -/
def Idles : Stage → (guards : Nat) → Prop
  | outside, guards => guards = 0
  | waiting, guards => guards = 1
  | entering, _ | leaving, _ | accepted _, _ | suspending _, _ | resuming _, _ => False

end Stage

/-- A lock and its condition in use. -/
structure Session (α : Type) where
  now : Instant
  monitor : Monitor α
  stage : ThreadKey → Stage

/-- What a thread can begin. A wait goes through a guard of this lock or of another one. -/
inductive Session.Act
  | lock
  | tryLock
  | drop
  | wait (own : Bool) (deadline : Option Instant)

/-- One step of a thread or of the system. The deadline of a thread that has been woken may overtake it before
it has the lock back. -/
inductive Session.Move
  | begin (thread : ThreadKey) (act : Session.Act)
  | goOn (thread : ThreadKey)
  | signal (pick : Nat)
  | broadcast
  | rouse (thread : ThreadKey)
  | expire (thread : ThreadKey)
  | overtake (thread : ThreadKey)
  | passTo (now : Instant)

/-- What a thread hears at the end of an operation. -/
inductive Session.Answer
  | locked
  | busy
  | dropped
  | refused (failure : Failure)
  | returned (woken : Bool)

namespace Session

def start (now : Instant) (value : α) : Session α := ⟨now, Monitor.ofValue value, fun _ => .outside⟩

def mutex (session : Session α) : Mutex α := session.monitor.mutex

/-- The guards of a thread that are not suspended in a wait. -/
def liveGuards (session : Session α) (thread : ThreadKey) : Nat :=
  if session.stage thread = .waiting then 0 else session.mutex.guards thread

/-- Let a thread change the lock or its counter, and stand at the next stage. -/
def put (session : Session α) (thread : ThreadKey) (stage : Stage) (monitor : Monitor α) : Session α :=
  { session with
    monitor
    stage := fun other => if other = thread then stage else session.stage other }

def putMutex (session : Session α) (thread : ThreadKey) (stage : Stage) (mutex : Mutex α) : Session α :=
  session.put thread stage { session.monitor with mutex }

/-- Whether a thread in no operation has the guard that an act needs. -/
def canBegin (session : Session α) (thread : ThreadKey) (act : Act) : Bool :=
  decide (session.stage thread = .outside) &&
    match act with
    | .lock | .tryLock | .wait false _ => true
    | .drop | .wait true _ => decide (0 < session.mutex.guards thread)

/-- The first step of an act. It takes no step if the thread must wait for the lock or is refused. -/
def begin (session : Session α) (thread : ThreadKey) : Act → Session α
  | .lock | .tryLock =>
    if session.mutex.isOpenTo thread then session.putMutex thread .entering (session.mutex.hold thread)
    else session
  | .drop => session.putMutex thread .leaving (session.mutex.discountGuard thread)
  | .wait own deadline =>
    match session.monitor.accept own deadline with
    | .ok bound => session.put thread (.accepted bound) session.monitor
    | .error _ => session

/-- The next step of a thread in an operation. A waiter has none until it has been woken or its deadline
has passed, and the lock is free. -/
def goOn (session : Session α) (thread : ThreadKey) : Session α :=
  match session.stage thread with
  | .outside => session
  | .entering => session.putMutex thread .outside (session.mutex.countGuard thread)
  | .leaving => session.putMutex thread .outside session.mutex.unhold
  | .accepted bound => session.put thread (.suspending bound) session.monitor.clear
  | .suspending bound => session.put thread .waiting (session.monitor.park thread bound)
  | .waiting =>
    match session.monitor.regain? thread with
    | some (woken, monitor) => session.put thread (.resuming woken) monitor
    | none => session
  | .resuming _ => session.put thread .outside session.monitor.restore

/-- Make a move. A move that cannot be made changes nothing. -/
def move (session : Session α) : Move → Session α
  | .begin thread act => if session.canBegin thread act then session.begin thread act else session
  | .goOn thread => session.goOn thread
  | .signal pick => { session with monitor := session.monitor.signal pick }
  | .broadcast => { session with monitor := session.monitor.broadcast }
  | .rouse thread => { session with monitor := session.monitor.rouse thread }
  | .expire thread => { session with monitor := session.monitor.expire session.now thread }
  | .overtake thread => { session with monitor := session.monitor.overtake session.now thread }
  | .passTo now => if session.now ≤ now then { session with now } else session

/-- What a move tells the thread that makes it. -/
def answer? (session : Session α) : Move → Option Answer
  | .begin thread act =>
    if session.canBegin thread act then
      match act with
      | .tryLock => if session.mutex.isOpenTo thread then none else some .busy
      | .wait own deadline =>
        match session.monitor.accept own deadline with
        | .ok _ => none
        | .error failure => some (.refused failure)
      | .lock | .drop => none
    else none
  | .goOn thread =>
    match session.stage thread with
    | .entering => some .locked
    | .leaving => some .dropped
    | .resuming woken => some (.returned woken)
    | .outside | .accepted _ | .suspending _ | .waiting => none
  | .signal _ | .broadcast | .rouse _ | .expire _ | .overtake _ | .passTo _ => none

def moves (session : Session α) (list : List Move) : Session α := list.foldl move session

variable {session after : Session α} {thread other : ThreadKey} {stage : Stage} {monitor : Monitor α}

@[simp] theorem stage_put_self : (session.put thread stage monitor).stage thread = stage := if_pos rfl

theorem stage_put_of_ne (different : other ≠ thread) :
    (session.put thread stage monitor).stage other = session.stage other := if_neg different

theorem isOpenTo_iff {mutex : Mutex α} :
    mutex.isOpenTo thread = true ↔ mutex.owner = none ∨ mutex.owner = some thread := by
  unfold Mutex.isOpenTo
  cases mutex.owner <;> simp

theorem accept_ok_iff {own : Bool} {deadline bound : Option Instant} :
    monitor.accept own deadline = .ok bound ↔
      own = true ∧ monitor.mutex.depth = 1 ∧ bound = limit deadline := by
  unfold accept checkGuard
  cases own with
  | false => simp [bind, Except.bind]
  | true =>
    by_cases once : monitor.mutex.depth = 1
    · simp [bind, Except.bind, once, eq_comm]
    · simp [bind, Except.bind, once]

private theorem kind_of_accept {own : Bool} {deadline : Option Instant} {failure : Failure}
    (refused : monitor.accept own deadline = .error failure) : failure.kind = .invalidState := by
  unfold accept checkGuard at refused
  cases own with
  | false =>
    cases refused
    rfl
  | true =>
    by_cases once : monitor.mutex.depth = 1
    · simp [bind, Except.bind, once] at refused
    · simp only [Bool.not_true, Bool.false_eq_true, if_false, ne_eq, once, not_false_eq_true, if_true,
        bind, Except.bind] at refused
      cases refused
      rfl

/-- A wait ends for a thread that is about to look again, when it can have the lock. -/
theorem regain?_eq_some {woken : Bool} {regained : Monitor α} :
    monitor.regain? thread = some (woken, regained) ↔
      ∃ stance, monitor.waiting.stance? thread = some stance ∧ stance ≠ .parked ∧
        monitor.mutex.isOpenTo thread = true ∧ woken = decide (stance = .woken) ∧
        regained = ⟨monitor.mutex.hold thread, monitor.waiting.leave thread⟩ := by
  unfold regain?
  cases monitor.waiting.stance? thread with
  | none => simp
  | some stance =>
    by_cases isOpen : monitor.mutex.isOpenTo thread = true
    · cases stance <;> simp [isOpen, eq_comm]
    · cases stance <;> simp [isOpen]

/-- The threads that wait. -/
def waiters (session : Session α) : List ThreadKey := session.monitor.waiting.waiters.map (·.thread)

/-- What holds of the lock, its counter and its guards all along. -/
structure Sound (session : Session α) : Prop where
  owner : ∀ thread, session.mutex.owner = some thread →
    (session.stage thread).Agrees (session.mutex.guards thread) session.mutex.holds session.mutex.depth
  others : ∀ thread, session.mutex.owner ≠ some thread →
    (session.stage thread).Idles (session.mutex.guards thread)
  free : session.mutex.owner = none → session.mutex.holds = 0 ∧ session.mutex.depth = 0
  waits : ∀ thread, session.stage thread = .waiting ↔ thread ∈ session.waiters

private theorem start_sound (now : Instant) (value : α) : (start now value).Sound where
  owner _ owns := by cases owns
  others _ _ := rfl
  free _ := ⟨rfl, rfl⟩
  waits _ := by simp [start, waiters, Monitor.ofValue, WaitSet.empty]

private theorem Sound.framed (sound : session.Sound) (mutex : after.mutex = session.mutex)
    (stage : after.stage = session.stage) (waiters : after.waiters = session.waiters) : after.Sound where
  owner := by rw [mutex, stage]; exact sound.owner
  others := by rw [mutex, stage]; exact sound.others
  free := by rw [mutex]; exact sound.free
  waits := by rw [stage, waiters]; exact sound.waits

/-- A step of the thread that has the lock, or that can have it, is judged by where it leaves that thread:
no other one has anything to do with the lock. -/
private theorem Sound.put (sound : session.Sound) (isOpen : session.mutex.isOpenTo thread = true)
    (guards : ∀ other, other ≠ thread → monitor.mutex.guards other = session.mutex.guards other)
    (stands : (monitor.mutex.owner = some thread ∧
        stage.Agrees (monitor.mutex.guards thread) monitor.mutex.holds monitor.mutex.depth) ∨
      (monitor.mutex.owner = none ∧ stage.Idles (monitor.mutex.guards thread) ∧
        monitor.mutex.holds = 0 ∧ monitor.mutex.depth = 0))
    (waits : ∀ other, (session.put thread stage monitor).stage other = .waiting ↔
      other ∈ (session.put thread stage monitor).waiters) : (session.put thread stage monitor).Sound where
  owner other owns := by
    rcases stands with ⟨owner, agrees⟩ | ⟨free, _⟩
    · obtain rfl : thread = other := Option.some.inj (owner.symm.trans owns)
      rw [stage_put_self]
      exact agrees
    · cases free.symm.trans owns
  others other lacks := by
    by_cases same : other = thread
    · subst same
      rw [stage_put_self]
      rcases stands with ⟨owner, _⟩ | ⟨_, idles, _⟩
      · exact absurd owner lacks
      · exact idles
    · have unowned : session.mutex.owner ≠ some other := by
        rcases isOpenTo_iff.mp isOpen with free | own
        · simp [free]
        · simpa [own] using Ne.symm same
      have idles := sound.others other unowned
      rw [stage_put_of_ne same]
      exact (guards other same).symm ▸ idles
  free none := by
    rcases stands with ⟨owner, _⟩ | ⟨_, _, numbers⟩
    · cases owner.symm.trans none
    · exact numbers
  waits := waits

private theorem Sound.waits_put (sound : session.Sound) (before : session.stage thread ≠ .waiting)
    (next : stage ≠ .waiting) (same : monitor.waiting = session.monitor.waiting) (other : ThreadKey) :
    (session.put thread stage monitor).stage other = .waiting ↔
      other ∈ (session.put thread stage monitor).waiters := by
  have waiters : (session.put thread stage monitor).waiters = session.waiters := by
    simp only [Session.waiters, Session.put, same]
  rw [waiters, ← sound.waits other]
  by_cases own : other = thread
  · subst own
    rw [stage_put_self]
    exact iff_of_false next before
  · rw [stage_put_of_ne own]

private theorem Sound.owner_of_amid (sound : session.Sound) (thread : ThreadKey)
    (inside : session.stage thread ≠ .outside)
    (unparked : session.stage thread ≠ .waiting) : session.mutex.owner = some thread := by
  by_contra lacks
  have idles := sound.others thread lacks
  cases place : session.stage thread <;> rw [place] at idles <;> contradiction

private theorem Sound.agrees (sound : session.Sound) (stands : session.stage thread = stage) (inside : stage ≠ .outside)
    (unparked : stage ≠ .waiting) : session.mutex.owner = some thread ∧
      stage.Agrees (session.mutex.guards thread) session.mutex.holds session.mutex.depth := by
  subst stands
  have owner := sound.owner_of_amid thread inside unparked
  exact ⟨owner, sound.owner thread owner⟩

private theorem Sound.counted (sound : session.Sound) (outside : session.stage thread = .outside)
    (isOpen : session.mutex.isOpenTo thread = true) :
    session.mutex.holds = session.mutex.guards thread ∧ session.mutex.depth = session.mutex.guards thread := by
  rcases isOpenTo_iff.mp isOpen with free | own
  · have idles := sound.others thread (by simp [free])
    rw [outside] at idles
    obtain ⟨holds, depth⟩ := sound.free free
    have none : session.mutex.guards thread = 0 := idles
    exact ⟨holds.trans none.symm, depth.trans none.symm⟩
  · have agrees := sound.owner thread own
    rw [outside] at agrees
    exact agrees.2

private theorem Sound.owner_of_guards (sound : session.Sound) (outside : session.stage thread = .outside)
    (some : 0 < session.mutex.guards thread) : session.mutex.owner = .some thread := by
  by_contra lacks
  have idles := sound.others thread lacks
  rw [outside] at idles
  exact absurd idles (Nat.ne_of_gt some)

private theorem isOpenTo_of_owner (own : session.mutex.owner = some thread) :
    session.mutex.isOpenTo thread = true := isOpenTo_iff.mpr (.inr own)

theorem canBegin_iff {act : Act} : session.canBegin thread act = true ↔
    session.stage thread = .outside ∧
      (act = .drop ∨ (∃ deadline, act = .wait true deadline) → 0 < session.mutex.guards thread) := by
  unfold canBegin
  cases act with
  | lock | tryLock => simp
  | drop => simp
  | wait own deadline => cases own <;> simp

theorem Sound.begin (sound : session.Sound) {act : Act} (can : session.canBegin thread act = true) :
    (session.begin thread act).Sound := by
  obtain ⟨outside, has⟩ := canBegin_iff.mp can
  have unparked : session.stage thread ≠ .waiting := by simp [outside]
  cases act with
  | lock | tryLock =>
    simp only [Session.begin]
    split
    · rename_i isOpen
      obtain ⟨holds, depth⟩ := sound.counted outside isOpen
      refine sound.put isOpen (fun _ _ => rfl) (.inl ⟨rfl, ?_, ?_⟩) (sound.waits_put unparked nofun rfl)
      · exact congrArg (· + 1) holds
      · exact depth
    · exact sound
  | drop =>
    have some := has (.inl rfl)
    have isOpen := isOpenTo_of_owner (sound.owner_of_guards outside some)
    obtain ⟨holds, depth⟩ := sound.counted outside isOpen
    have own := Mutex.guards_discountGuard session.mutex thread thread
    rw [if_pos rfl] at own
    refine sound.put isOpen (fun other different => ?_) (.inl ⟨?_, ?_, ?_⟩)
      (sound.waits_put unparked nofun rfl)
    · exact (Mutex.guards_discountGuard session.mutex thread other).trans (if_neg different)
    · exact sound.owner_of_guards outside some
    · show session.mutex.holds = (session.mutex.discountGuard thread).guards thread + 1
      omega
    · show session.mutex.depth - 1 = (session.mutex.discountGuard thread).guards thread
      omega
  | wait own deadline =>
    simp only [Session.begin]
    split
    · rename_i bound accepted
      obtain ⟨rfl, once, rfl⟩ := accept_ok_iff.mp accepted
      have some := has (.inr ⟨deadline, rfl⟩)
      have owner := sound.owner_of_guards outside some
      obtain ⟨holds, depth⟩ := sound.counted outside (isOpenTo_of_owner owner)
      have one : session.mutex.guards thread = 1 := depth.symm.trans once
      exact sound.put (isOpenTo_of_owner owner) (fun _ _ => rfl)
        (.inl ⟨owner, one, holds.trans one, once⟩) (sound.waits_put unparked nofun rfl)
    · exact sound

private theorem Sound.unhold (sound : session.Sound) (leaving : session.stage thread = .leaving) :
    (session.putMutex thread .outside session.mutex.unhold).Sound := by
  obtain ⟨owner, holds, depth⟩ := sound.agrees leaving nofun nofun
  refine sound.put (isOpenTo_of_owner owner) (fun _ _ => rfl) ?_
    (sound.waits_put (by simp [leaving]) nofun rfl)
  simp only [Mutex.unhold]
  by_cases last : session.mutex.guards thread = 0
  · refine .inr ⟨if_pos (by omega), last, by omega, ?_⟩
    exact depth.trans last
  · refine .inl ⟨?_, Nat.pos_of_ne_zero last, by omega, depth⟩
    rw [if_neg (by omega)]
    exact owner

private theorem Sound.park (sound : session.Sound) {bound : Option Instant}
    (suspending : session.stage thread = .suspending bound) :
    (session.put thread .waiting (session.monitor.park thread bound)).Sound := by
  obtain ⟨owner, guards, holds, depth⟩ := sound.agrees suspending nofun nofun
  refine sound.put (isOpenTo_of_owner owner) (fun _ _ => rfl) (.inr ⟨?_, guards, ?_, depth⟩) ?_
  · exact if_pos (Nat.le_of_eq holds)
  · exact congrArg (· - 1) holds
  · intro other
    refine Iff.trans ?_ WaitSet.mem_threads_park.symm
    by_cases same : other = thread
    · subst same
      rw [stage_put_self]
      simp
    · rw [stage_put_of_ne same, sound.waits other, Session.waiters]
      simp [same]

private theorem Sound.regain (sound : session.Sound) (waiting : session.stage thread = .waiting) {woken : Bool}
    {regained : Monitor α} (regains : session.monitor.regain? thread = some (woken, regained)) :
    (session.put thread (.resuming woken) regained).Sound := by
  obtain ⟨stance, _, _, isOpen, _, rfl⟩ := regain?_eq_some.mp regains
  have lacks : session.mutex.owner ≠ some thread := by
    intro own
    have agrees := sound.owner thread own
    rw [waiting] at agrees
    exact agrees
  have free : session.mutex.owner = none := (isOpenTo_iff.mp isOpen).resolve_right lacks
  obtain ⟨holds, depth⟩ := sound.free free
  have guards := sound.others thread lacks
  rw [waiting] at guards
  refine sound.put isOpen (fun _ _ => rfl) (.inl ⟨rfl, guards, congrArg (· + 1) holds, depth⟩) ?_
  intro other
  refine Iff.trans ?_ WaitSet.mem_threads_leave.symm
  by_cases same : other = thread
  · subst same
    rw [stage_put_self]
    simp
  · rw [stage_put_of_ne same, sound.waits other, Session.waiters]
    simp [same]

private theorem Sound.goOn (sound : session.Sound) (thread : ThreadKey) : (session.goOn thread).Sound := by
  unfold Session.goOn
  split
  · exact sound
  · rename_i entering
    obtain ⟨owner, holds, depth⟩ := sound.agrees entering nofun nofun
    have own := Mutex.guards_countGuard session.mutex thread thread
    rw [if_pos rfl] at own
    refine sound.put (isOpenTo_of_owner owner) (fun other different => ?_) (.inl ⟨owner, ?_, ?_, ?_⟩)
      (sound.waits_put (by simp [entering]) nofun rfl)
    · exact (Mutex.guards_countGuard session.mutex thread other).trans (if_neg different)
    · show 0 < (session.mutex.countGuard thread).guards thread
      omega
    · exact holds.trans own.symm
    · exact (congrArg (· + 1) depth).trans own.symm
  · exact sound.unhold ‹_›
  · rename_i bound accepted
    obtain ⟨owner, guards, holds, _⟩ := sound.agrees accepted nofun nofun
    exact sound.put (isOpenTo_of_owner owner) (fun _ _ => rfl) (.inl ⟨owner, guards, holds, rfl⟩)
      (sound.waits_put (by simp [accepted]) nofun rfl)
  · exact sound.park ‹_›
  · split
    · exact sound.regain ‹_› ‹_›
    · exact sound
  · rename_i woken resuming
    obtain ⟨owner, guards, holds, _⟩ := sound.agrees resuming nofun nofun
    exact sound.put (isOpenTo_of_owner owner) (fun _ _ => rfl)
      (.inl ⟨owner, Nat.lt_of_lt_of_eq Nat.one_pos guards.symm, holds.trans guards.symm, guards.symm⟩)
      (sound.waits_put (by simp [resuming]) nofun rfl)

private theorem Sound.roused (sound : session.Sound) (mutex : monitor.mutex = session.mutex)
    (rouses : session.monitor.waiting.Rouses session.now monitor.waiting) :
    Sound { session with monitor } := by
  refine sound.framed mutex rfl ?_
  simp only [waiters, WaitSet.threads_eq]
  exact congrArg _ rouses.keys

theorem Sound.move (sound : session.Sound) (move : Move) : (session.move move).Sound := by
  cases move with
  | begin thread act =>
    simp only [Session.move]
    split
    · exact sound.begin ‹_›
    · exact sound
  | goOn thread => exact sound.goOn thread
  | signal pick => exact sound.roused rfl (WaitSet.signal_rouses _ _ pick)
  | broadcast => exact sound.roused rfl (WaitSet.broadcast_rouses _ _)
  | rouse thread => exact sound.roused rfl (WaitSet.rouse_rouses _ _ thread)
  | expire thread => exact sound.roused rfl (WaitSet.expire_rouses _ _ thread)
  | overtake thread => exact sound.roused rfl (WaitSet.overtake_rouses _ _ thread)
  | passTo now =>
    simp only [Session.move]
    split
    · exact sound.framed rfl rfl rfl
    · exact sound

theorem Sound.moves (sound : session.Sound) (list : List Move) : (session.moves list).Sound := by
  induction list generalizing session with
  | nil => exact sound
  | cons move rest ih => exact ih (sound.move move)

private theorem Sound.liveGuards_eq_zero (sound : session.Sound) (lacks : session.mutex.owner ≠ some thread) :
    session.liveGuards thread = 0 := by
  have idles := sound.others thread lacks
  unfold liveGuards
  cases place : session.stage thread <;> rw [place] at idles
  case outside => exact idles
  case waiting => rfl
  all_goals contradiction

private theorem Sound.owner_of_live (sound : session.Sound) (some : 0 < session.liveGuards thread) :
    session.mutex.owner = .some thread := by
  by_contra lacks
  exact absurd (sound.liveGuards_eq_zero lacks) (Nat.ne_of_gt some)

private theorem Sound.liveGuards_of_outside (sound : session.Sound) (owner : session.mutex.owner = some thread)
    (outside : session.stage thread = .outside) :
    session.mutex.depth = session.liveGuards thread ∧ session.mutex.holds = session.liveGuards thread ∧
      0 < session.liveGuards thread := by
  have agrees := sound.owner thread owner
  rw [outside] at agrees
  obtain ⟨some, holds, depth⟩ := agrees
  have live : session.liveGuards thread = session.mutex.guards thread := if_neg (by simp [outside])
  rw [live]
  exact ⟨depth, holds, some⟩

private theorem Sound.depth_eq_zero (sound : session.Sound)
    (rests : ∀ owner, session.mutex.owner = some owner → session.stage owner = .outside) :
    session.mutex.depth = 0 ↔ session.mutex.owner = none := by
  constructor
  · intro zero
    cases owner : session.mutex.owner with
    | none => rfl
    | some thread =>
      obtain ⟨depth, _, live⟩ := sound.liveGuards_of_outside owner (rests thread owner)
      omega
  · exact fun free => (sound.free free).2

theorem tryLock_eq (mutex : Mutex α) (thread : ThreadKey) :
    mutex.tryLock thread =
      if mutex.isOpenTo thread then (true, mutex.acquire thread) else (false, mutex) := rfl

private theorem tryLock_of_open (outside : session.stage thread = .outside)
    (isOpen : session.mutex.isOpenTo thread = true) :
    (session.move (.begin thread .tryLock)).answer? (.goOn thread) = some .locked ∧
      session.mutex.tryLock thread =
        (true, ((session.move (.begin thread .tryLock)).move (.goOn thread)).mutex) := by
  have can : session.canBegin thread .tryLock = true := canBegin_iff.mpr ⟨outside, by simp⟩
  have begun : session.move (.begin thread .tryLock) =
      session.putMutex thread .entering (session.mutex.hold thread) := by
    simp only [Session.move, can, if_true, Session.begin, isOpen]
  rw [begun, tryLock_eq, if_pos isOpen]
  simp only [Session.move, Session.goOn, answer?, putMutex, stage_put_self, true_and]
  rfl

private theorem tryLock_of_busy (outside : session.stage thread = .outside)
    (busy : session.mutex.isOpenTo thread = false) :
    session.answer? (.begin thread .tryLock) = some .busy ∧
      session.move (.begin thread .tryLock) = session ∧
      session.mutex.tryLock thread = (false, session.mutex) := by
  have can : session.canBegin thread .tryLock = true := canBegin_iff.mpr ⟨outside, by simp⟩
  refine ⟨?_, ?_, ?_⟩
  · simp [answer?, can, busy]
  · simp [Session.move, can, Session.begin, busy]
  · simp [tryLock_eq, busy]

theorem wait_eq (monitor : Monitor α) (thread : ThreadKey) (own : Bool) (deadline : Option Instant) :
    monitor.wait thread own deadline =
      (monitor.accept own deadline).map fun bound => monitor.clear.park thread bound := by
  unfold Monitor.wait
  cases monitor.accept own deadline <;> rfl

private theorem wait_refused {own : Bool} {deadline : Option Instant}
    (can : session.canBegin thread (.wait own deadline) = true)
    (wrong : own = false ∨ session.mutex.depth ≠ 1) :
    ∃ failure, failure.kind = .invalidState ∧
      session.answer? (.begin thread (.wait own deadline)) = some (.refused failure) ∧
      session.move (.begin thread (.wait own deadline)) = session ∧
      session.monitor.wait thread own deadline = .error failure := by
  cases refused : session.monitor.accept own deadline with
  | ok bound =>
    obtain ⟨rfl, once, _⟩ := accept_ok_iff.mp refused
    rcases wrong with foreign | often
    · cases foreign
    · exact absurd once often
  | error failure =>
    refine ⟨failure, kind_of_accept refused, ?_, ?_, ?_⟩
    · simp [answer?, can, refused]
    · simp [Session.move, can, Session.begin, refused]
    · rw [wait_eq, refused]
      rfl

private theorem wait_accepted {deadline : Option Instant} (can : session.canBegin thread (.wait true deadline) = true)
    (once : session.mutex.depth = 1) :
    let begun := session.move (.begin thread (.wait true deadline))
    begun.stage thread = .accepted (limit deadline) ∧
      session.monitor.wait thread true deadline =
        .ok ((begun.move (.goOn thread)).move (.goOn thread)).monitor := by
  intro begun
  have accepted : session.monitor.accept true deadline = .ok (limit deadline) :=
    accept_ok_iff.mpr ⟨rfl, once, rfl⟩
  have same : begun = session.put thread (.accepted (limit deadline)) session.monitor := by
    show session.move (.begin thread (.wait true deadline)) = _
    simp [Session.move, can, Session.begin, accepted]
  refine ⟨by rw [same, stage_put_self], ?_⟩
  rw [wait_eq, accepted, same]
  simp only [Session.move, Session.goOn, stage_put_self]
  rfl

/-- A waiter that has been woken, or whose deadline has passed, comes back in two steps when the lock is
free. -/
private theorem wait_returns {stance : Stance} (waiting : session.stage thread = .waiting)
    (found : session.monitor.waiting.stance? thread = some stance) (awake : stance ≠ .parked)
    (isOpen : session.mutex.isOpenTo thread = true) :
    let last := session.move (.goOn thread)
    last.answer? (.goOn thread) = some (.returned (decide (stance = .woken))) ∧
      session.monitor.resume? thread =
        some (decide (stance = .woken), (last.move (.goOn thread)).monitor) := by
  intro last
  have regains := regain?_eq_some.mpr ⟨stance, found, awake, isOpen, rfl, rfl⟩
  have same : last = session.put thread (.resuming (decide (stance = .woken)))
      ⟨session.monitor.mutex.hold thread, session.monitor.waiting.leave thread⟩ := by
    show session.goOn thread = _
    simp only [Session.goOn, waiting, regains]
  rw [same]
  refine ⟨by simp [answer?], ?_⟩
  simp only [resume?, regains, Option.map_some, Session.move, Session.goOn, stage_put_self]
  rfl

theorem stage_begin_of_ne (different : other ≠ thread) (act : Act) :
    (session.begin thread act).stage other = session.stage other := by
  cases act with
  | lock | tryLock =>
    simp only [Session.begin]
    split
    · exact stage_put_of_ne different
    · rfl
  | drop => exact stage_put_of_ne different
  | wait own deadline =>
    simp only [Session.begin]
    split
    · exact stage_put_of_ne different
    · rfl

theorem stage_goOn_of_ne (different : other ≠ thread) :
    (session.goOn thread).stage other = session.stage other := by
  unfold Session.goOn
  split
  case h_1 => rfl
  case h_6 =>
    split
    · exact stage_put_of_ne different
    · rfl
  all_goals exact stage_put_of_ne different

private theorem resuming_of_left {move : Move} (inWait : (session.stage thread).isInWait = true)
    (left : ((session.move move).stage thread).isInWait = false) :
    move = .goOn thread ∧ ∃ woken, session.stage thread = .resuming woken := by
  have moved : (session.move move).stage thread ≠ session.stage thread := by
    intro same
    rw [same, inWait] at left
    cases left
  cases move with
  | begin actor act =>
    refine absurd ?_ moved
    simp only [Session.move]
    split
    · rename_i can
      by_cases own : thread = actor
      · subst own
        rw [(canBegin_iff.mp can).1] at inWait
        cases inWait
      · exact stage_begin_of_ne own act
    · rfl
  | goOn actor =>
    by_cases own : thread = actor
    · subst own
      simp only [Session.move, Session.goOn] at left
      cases place : session.stage thread with
      | outside | entering | leaving =>
        rw [place] at inWait
        cases inWait
      | accepted bound | suspending bound =>
        rw [place] at left
        simp [Stage.isInWait] at left
      | waiting =>
        simp only [place] at left
        split at left
        · simp [Stage.isInWait] at left
        · rw [place] at left
          cases left
      | resuming woken => exact ⟨rfl, woken, rfl⟩
    · exact absurd (stage_goOn_of_ne own) moved
  | signal | broadcast | rouse | expire | overtake => exact absurd rfl moved
  | passTo now =>
    refine absurd ?_ moved
    simp only [Session.move]
    split <;> rfl

private theorem Sound.returned (sound : session.Sound) {woken : Bool}
    (resuming : session.stage thread = .resuming woken) :
    let after := session.move (.goOn thread)
    session.answer? (.goOn thread) = some (.returned woken) ∧ after.stage thread = .outside ∧
      after.mutex.owner = some thread ∧ after.mutex.depth = 1 ∧ after.liveGuards thread = 1 := by
  intro after
  obtain ⟨owner, guards, _⟩ := sound.agrees resuming nofun nofun
  have same : after = session.put thread .outside session.monitor.restore := by
    show session.goOn thread = _
    simp only [Session.goOn, resuming]
  have outside : after.stage thread = .outside := by rw [same, stage_put_self]
  refine ⟨by simp [answer?, resuming], outside, ?_, ?_, ?_⟩
  · rw [same]
    exact owner
  · rw [same]
    rfl
  · rw [liveGuards, if_neg (by simp [outside]), same]
    exact guards

/-- A lock and its condition among their threads, at any moment. -/
structure Guarded (session : Session α) : Prop where
  alone : ∀ one other, 0 < session.liveGuards one → 0 < session.liveGuards other → one = other
  unowned : ∀ thread, session.mutex.owner ≠ some thread → session.liveGuards thread = 0
  amid : ∀ thread, session.stage thread ≠ .outside → session.stage thread ≠ .waiting →
    session.mutex.owner = some thread
  -- Between two operations of the owner the counter and the holds of the system's lock are as many as its
  -- live guards.
  counted : ∀ owner, session.mutex.owner = some owner → session.stage owner = .outside →
    session.mutex.depth = session.liveGuards owner ∧ session.mutex.holds = session.liveGuards owner ∧
      0 < session.liveGuards owner
  zero : (∀ owner, session.mutex.owner = some owner → session.stage owner = .outside) →
    (session.mutex.depth = 0 ↔ session.mutex.owner = none)
  reentrant : ∀ owner, session.mutex.owner = some owner → session.stage owner = .outside →
    (session.move (.begin owner .tryLock)).answer? (.goOn owner) = some .locked ∧
      session.mutex.tryLock owner =
        (true, ((session.move (.begin owner .tryLock)).move (.goOn owner)).mutex)
  busy : ∀ owner thread, session.mutex.owner = some owner → thread ≠ owner →
    session.stage thread = .outside →
    session.answer? (.begin thread .tryLock) = some .busy ∧
      session.move (.begin thread .tryLock) = session ∧
      session.mutex.tryLock thread = (false, session.mutex)
  refused : ∀ thread own deadline, session.canBegin thread (.wait own deadline) = true →
    own = false ∨ session.mutex.depth ≠ 1 →
    ∃ failure, failure.kind = .invalidState ∧
      session.answer? (.begin thread (.wait own deadline)) = some (.refused failure) ∧
      session.move (.begin thread (.wait own deadline)) = session ∧
      session.monitor.wait thread own deadline = .error failure
  accepted : ∀ thread deadline, session.canBegin thread (.wait true deadline) = true →
    session.mutex.depth = 1 →
    let begun := session.move (.begin thread (.wait true deadline))
    begun.stage thread = .accepted (limit deadline) ∧
      session.monitor.wait thread true deadline =
        .ok ((begun.move (.goOn thread)).move (.goOn thread)).monitor
  waits : ∀ thread, session.stage thread = .waiting ↔ session.monitor.isSuspended thread = true
  -- A waiter that has been woken, or whose deadline has passed, comes back as soon as the lock is free.
  resumes : ∀ thread stance, session.stage thread = .waiting →
    session.monitor.waiting.stance? thread = some stance → stance ≠ .parked → session.mutex.owner = none →
    let last := session.move (.goOn thread)
    last.answer? (.goOn thread) = some (.returned (decide (stance = .woken))) ∧
      session.monitor.resume? thread =
        some (decide (stance = .woken), (last.move (.goOn thread)).monitor)
  -- An accepted wait ends in no other way than that its thread comes back with the lock, which counts one
  -- guard.
  returns : ∀ thread move, (session.stage thread).isInWait = true →
    ((session.move move).stage thread).isInWait = false →
    let after := session.move move
    ∃ woken, session.answer? move = some (.returned woken) ∧ after.stage thread = .outside ∧
      after.mutex.owner = some thread ∧ after.mutex.depth = 1 ∧ after.liveGuards thread = 1

private theorem Sound.suspended (sound : session.Sound) (thread : ThreadKey) :
    session.stage thread = .waiting ↔ session.monitor.isSuspended thread = true := by
  rw [sound.waits thread, isSuspended, WaitSet.stance?, Option.isSome_map, List.find?_isSome]
  simp [waiters]

/-- A lock keeps to its owner, in every interleaving of its threads. -/
theorem every_guard_counted (now : Instant) (value : α) (list : List Move) :
    ((start now value).moves list).Guarded := by
  have sound := (start_sound now value).moves list
  exact {
    alone := fun one other first second =>
      Option.some.inj ((sound.owner_of_live first).symm.trans (sound.owner_of_live second))
    unowned := fun thread lacks => sound.liveGuards_eq_zero lacks
    amid := sound.owner_of_amid
    counted := fun owner owns outside => sound.liveGuards_of_outside owns outside
    zero := sound.depth_eq_zero
    reentrant := fun owner owns outside => tryLock_of_open outside (isOpenTo_of_owner owns)
    busy := fun owner thread owns different outside => by
      refine tryLock_of_busy outside (Bool.eq_false_iff.mpr fun isOpen => ?_)
      rcases isOpenTo_iff.mp isOpen with free | own
      · cases owns.symm.trans free
      · exact different (Option.some.inj (own.symm.trans owns))
    refused := fun thread own deadline can wrong => wait_refused can wrong
    accepted := fun thread deadline can once => wait_accepted can once
    waits := sound.suspended
    resumes := fun thread stance waiting found awake free =>
      wait_returns waiting found awake (isOpenTo_iff.mpr (.inl free))
    returns := fun thread move inWait left => by
      obtain ⟨rfl, woken, resuming⟩ := resuming_of_left inWait left
      exact ⟨woken, sound.returned resuming⟩ }

end Session

end TaskKernel.Sync.Monitor
