import Mathlib.Data.List.Induction
import TaskKernel.Proofs.Task.Draining
import TaskKernel.Proofs.Task.Receiving
import TaskKernel.Proofs.Task.Spacing
import TaskKernel.Proofs.Task.Sweeping
import TaskKernel.Proofs.Timer.Cancelling

/-!
Timers and messages take turns. Between two entries of the queue there is a whole sweep of the timers, and
between two waits for an entry each timer fires once at most. So neither can keep the other waiting.
-/
namespace TaskKernel

variable {σ π ρ υ : Type}

namespace TimerSet.Session

variable {session after : Session σ} {armed : Armed σ}

private theorem firedIds_join (first second : List (Event σ)) :
    firedIds (first ++ second) = firedIds first ++ firedIds second := by
  rw [firedIds, ticks, List.filterMap_append, List.map_append]
  rfl

/-- Why a timer is no longer armed: it has fired or has been cancelled. -/
def Spent (id : TimerId) (events : List (Event σ)) : Prop :=
  id ∈ firedIds events ∨ ∃ known, .cancelled id known ∈ events

private theorem Spent.left {id : TimerId} {first : List (Event σ)} (spent : Spent id first) (second : List (Event σ)) :
    Spent id (first ++ second) := by
  refine spent.imp ?_ (Exists.imp fun _ => List.mem_append_left second)
  intro fires
  rw [firedIds_join]
  exact List.mem_append_left _ fires

private theorem Spent.right {id : TimerId} {second : List (Event σ)} (spent : Spent id second)
    (first : List (Event σ)) : Spent id (first ++ second) := by
  refine spent.imp ?_ (Exists.imp fun _ => List.mem_append_right first)
  intro fires
  rw [firedIds_join]
  exact List.mem_append_right _ fires

private theorem move_armed (member : armed ∈ session.set.armed) {move : Move σ} (unclearing : move ≠ .clear) :
    ∃ events, (session.move move).history = session.history ++ events ∧
      (armed ∈ (session.move move).set.armed ∨ Spent armed.timer.id events) := by
  cases move with
  | clear => exact absurd rfl unclearing
  | allocate => exact ⟨[], (List.append_nil _).symm, .inl member⟩
  | create =>
    refine ⟨[], ?_⟩
    simp only [Session.move, List.append_nil]
    split <;> exact ⟨rfl, .inl member⟩
  | arm id now =>
    simp only [Session.move]
    split
    · exact ⟨[], (List.append_nil _).symm, .inl member⟩
    · exact ⟨_, rfl, .inl (mem_arm member)⟩
  | fire now =>
    simp only [Session.move]
    split
    · rename_i firing set _ fired
      obtain ⟨other, _, _, _, rfl, rfl⟩ := fire?_eq_some fired
      refine ⟨_, rfl, ?_⟩
      by_cases same : armed.timer.id = other.timer.id
      · exact .inr (.inl (by simp [firedIds, ticks, Timer.tick, same]))
      · exact .inl (List.mem_filter.mpr ⟨member, decide_eq_true same⟩)
    · exact ⟨[], (List.append_nil _).symm, .inl member⟩
  | cancel id =>
    refine ⟨_, rfl, ?_⟩
    by_cases same : armed.timer.id = id
    · exact .inr (.inr ⟨_, by rw [same]; exact List.mem_singleton_self _⟩)
    · refine .inl ?_
      simp only [Session.move, note, cancel]
      split
      · exact member
      · exact List.mem_filter.mpr ⟨member, decide_eq_true same⟩
  | finish now =>
    refine ⟨[], ?_⟩
    simp only [Session.move, List.append_nil]
    split
    · exact ⟨rfl, .inl (mem_finish member)⟩
    · exact ⟨rfl, .inl member⟩

private theorem moves_armed (member : armed ∈ session.set.armed) {list : List (Move σ)}
    (unclearing : ∀ move ∈ list, move ≠ .clear) :
    ∃ events, (session.moves list).history = session.history ++ events ∧
      (armed ∈ (session.moves list).set.armed ∨ Spent armed.timer.id events) := by
  induction list generalizing session with
  | nil => exact ⟨[], (List.append_nil _).symm, .inl member⟩
  | cons move rest ih =>
    rw [List.forall_mem_cons] at unclearing
    obtain ⟨first, one, still | spent⟩ := move_armed member unclearing.1
    · obtain ⟨second, two, stands⟩ := ih still unclearing.2
      refine ⟨first ++ second, ?_, stands.imp_right fun spent => spent.right first⟩
      exact two.trans (by rw [one, List.append_assoc])
    · obtain ⟨second, two⟩ := (session.move move).moves_history rest
      refine ⟨first ++ second, ?_, .inr (spent.left second)⟩
      exact two.symm.trans (by rw [one, List.append_assoc])

end TimerSet.Session

namespace Task

variable {task next : Task σ π ρ υ} {diary later : Diary σ π ρ} {began : Instant}

private theorem Place.Passes.receiving {quitting : Bool} {place after : Place σ π ρ υ}
    (passes : place.Passes quitting after) (receives : after = .receiving) : ∃ began, place = .draining began := by
  cases passes with
  | drained now => exact ⟨now, rfl⟩
  | rearmed | answered => cases quitting <;> cases receives
  | lost | begun | entered | swept | ordered => cases receives

private theorem Step.receiving (step : Step task diary next later) (receives : next.place = .receiving) :
    task.place = .receiving ∨ ∃ began, task.place = .draining began := by
  cases step with
  | aside | dealt => exact .inl receives
  | passed life timers abandoned disposals place passes => exact .inr (passes.receiving receives)
  | woundDown life disposals place winds =>
    generalize task.place = before at winds
    cases winds <;> cases receives
  | asked call resume asks answer =>
    generalize task.place = before at asks
    cases asks <;> cases receives
  | ended ending place ends =>
    generalize task.place = before at ends
    cases ends with
    | starting => cases quitting : task.quitting <;> rw [quitting] at receives <;> cases receives
    | ticking | callingBack | handling | exiting => cases receives
  | fired now firing timers draining => exact .inr ⟨now, draining⟩
  | waited _ _ place => exact .inl place
  | took _ _ _ _ place | ordered _ _ _ place => exact .inl place
  | answered slot ending answering =>
    simp only [afterCall] at receives
    split at receives <;> cases receives
  | started | closed | told | exited => cases receives

private theorem Place.Leaves.calm {quitting : Bool} {place : Place σ π ρ υ} (leaves : place.Leaves quitting) :
    place ≠ .receiving ∧ place ≠ .sweeping ∧ ∀ began, place ≠ .draining began := by
  cases leaves with
  | handling | answering | closing => exact ⟨by simp, by simp, by simp⟩
  | past place past =>
    refine ⟨?_, ?_, fun began => ?_⟩ <;>
    · rintro rfl
      cases past

private theorem outer_queued {session : Exchange.Session (Command σ π) ρ}
    (queued : session.exchange.queue.entries ≠ []) {move : Exchange.Session.Move (Command σ π) ρ}
    (outer : Outer move) : (session.move move).exchange.queue.entries ≠ [] := by
  cases move with
  | push priority command pick =>
    rcases session.exchange.push_cases priority command pick with ⟨_, pushed⟩ | ⟨_, pushed⟩
    · simpa only [Exchange.Session.move, pushed] using queued
    · simp only [Exchange.Session.move, pushed]
      exact List.append_ne_nil_of_right_ne_nil _ (List.cons_ne_nil _ [])
  | call priority command deadline pick =>
    rcases session.exchange.call_cases priority command deadline pick with ⟨_, called⟩ | ⟨_, called⟩
    · simpa only [Exchange.Session.move, called] using queued
    · simp only [Exchange.Session.move, called]
      exact List.append_ne_nil_of_right_ne_nil _ (List.cons_ne_nil _ [])
  | passTo =>
    simp only [Exchange.Session.move]
    split <;> exact queued
  | look | rouseCaller | expireCaller | rouse | expire => exact queued
  | tryReceive | receive | close | settle | drop => exact outer.elim

private theorem Step.queued (step : Step task diary next later) (mirrored : Mirrored task diary)
    (queued : task.exchange.queue.entries ≠ []) :
    next.exchange.queue.entries ≠ [] ∨ next.place.Leaves next.quitting ∨
      task.place = .receiving ∧ next.place ≠ .receiving := by
  have waiting : diary.session.exchange.queue.entries ≠ [] := by rwa [mirrored.exchange]
  cases step with
  | aside | passed | woundDown | started | ended | fired | waited | exited => exact .inl queued
  | dealt move outer => exact .inl (outer_queued waiting outer)
  | asked call =>
    refine .inl ?_
    cases call with
    | post message =>
      have outer : @Outer σ π ρ (.push message.priority (.deliver message) 0) := trivial
      exact outer_queued waiting outer
    | plain | waitSelf | addTimer | addCallback | cancelTimer | freshTimer | armedCount | quit | isQuitting
      | tickPriority | pending | isClosed | userData | setUserData => exact waiting
  | took _ _ _ _ receiving | ordered _ _ _ receiving => exact .inr (.inr ⟨receiving, by simp⟩)
  | answered slot ending =>
    refine .inl ?_
    rwa [reply_queue]
  | told slot =>
    rw [← (diary.session.drop_apart ⟨slot, true, false⟩).queue] at waiting
    exact .inl waiting
  | closed => exact .inr (.inl (.past _ rfl))

def Place.isReceiving : Place σ π ρ υ → Bool
  | .receiving => true
  | _ => false

theorem Place.isReceiving_iff {place : Place σ π ρ υ} : place.isReceiving = true ↔ place = .receiving := by
  cases place <;> simp [isReceiving]

/-- Whether a move ends the wait for an entry. -/
def Host.returns (host : Host σ π ρ υ) (move : Host.Move σ π υ) : Bool :=
  host.task.place.isReceiving && !(host.move move).task.place.isReceiving

/-- Whether a move takes an entry. -/
def Host.takes (host : Host σ π ρ υ) (move : Host.Move σ π υ) : Bool := (host.takes? move).isSome

theorem returns_iff {host : Host σ π ρ υ} {move : Host.Move σ π υ} : host.returns move = true ↔
    host.task.place = .receiving ∧ (host.move move).task.place ≠ .receiving := by
  rw [Host.returns, Bool.and_eq_true, Bool.not_eq_true', ← Bool.not_eq_true, Place.isReceiving_iff,
    Place.isReceiving_iff]

private theorem returns_of_takes {host : Host σ π ρ υ} {move : Host.Move σ π υ} (takes : host.takes move = true) :
    host.returns move = true := by
  obtain ⟨entry, found⟩ := Option.isSome_iff_exists.mp takes
  obtain ⟨rfl, receives, received⟩ := Host.takes?_eq_some found
  refine returns_iff.mpr ⟨receives, ?_⟩
  have awake : host.task.exchange.waiting.stance? consumer ≠ some .parked := by
    intro parked
    rw [Exchange.receive, parked] at received
    cases received
  cases result : host.task.exchange.receive consumer host.task.timers.nextDeadline? with
  | mk outcome exchange =>
    obtain rfl : outcome = .received entry := by rwa [result] at received
    simp only [Host.move, Host.step?, step?, receives, if_neg awake, result, Option.map_some, Option.getD_some]
    unfold take
    split <;> simp

namespace Watch

variable {watch after : Watch σ π ρ υ} {list : List (Host.Move σ π υ)}

/-- How many of the moves are of a kind, each when it is made. -/
def tally (kind : Host σ π ρ υ → Host.Move σ π υ → Bool) (watch : Watch σ π ρ υ) :
    List (Host.Move σ π υ) → Nat
  | [] => 0
  | move :: rest => (kind watch.course.host move).toNat + (watch.move move).tally kind rest

theorem tally_append (kind : Host σ π ρ υ → Host.Move σ π υ → Bool) (watch : Watch σ π ρ υ)
    (first second : List (Host.Move σ π υ)) :
    watch.tally kind (first ++ second) = watch.tally kind first + (watch.moves first).tally kind second := by
  induction first generalizing watch with
  | nil => exact (Nat.zero_add _).symm
  | cons move rest ih =>
    rw [List.cons_append, tally, ih, tally, Nat.add_assoc]
    rfl

private theorem exists_of_tally_pos {kind : Host σ π ρ υ → Host.Move σ π υ → Bool} (some : 0 < watch.tally kind list) :
    ∃ first move rest, list = first ++ move :: rest ∧ watch.tally kind first = 0 ∧
      kind (watch.moves first).course.host move = true := by
  induction list generalizing watch with
  | nil => exact absurd some (Nat.lt_irrefl 0)
  | cons move rest ih =>
    cases counts : kind watch.course.host move with
    | true => exact ⟨[], move, rest, rfl, rfl, counts⟩
    | false =>
      rw [tally, counts, Bool.toNat_false, Nat.zero_add] at some
      obtain ⟨first, other, last, rfl, none, found⟩ := ih some
      refine ⟨move :: first, other, last, rfl, ?_, found⟩
      rw [tally, counts, none]
      rfl

/-- The timers that have fired between two moments, in the order of time. -/
def Fires (watch after : Watch σ π ρ υ) (ids : List TimerId) : Prop :=
  TimerSet.Session.firedIds after.timers.history = TimerSet.Session.firedIds watch.timers.history ++ ids

theorem Fires.refl (watch : Watch σ π ρ υ) : watch.Fires watch [] := (List.append_nil _).symm

theorem Fires.trans {last : Watch σ π ρ υ} {first second : List TimerId} (one : watch.Fires after first)
    (two : after.Fires last second) : watch.Fires last (first ++ second) := by
  rw [Fires, two, one, List.append_assoc]

private theorem move_fires (calm : ∀ began, watch.course.host.task.place ≠ .draining began) (move : Host.Move σ π υ) :
    watch.Fires (watch.move move) [] := by
  have same := watch.timers.moves_ticks _ (Host.timings_unfiring calm move)
  rw [Fires, List.append_nil]
  exact congrArg (List.map (·.timer)) same

private theorem Sound.leaving_fires (sound : watch.Sound)
    (leaves : watch.course.host.task.place.Leaves watch.course.host.task.quitting) :
    watch.Fires (watch.moves list) [] := by
  induction list generalizing watch with
  | nil => exact .refl watch
  | cons move rest ih =>
    have step := sound.reached.followed.step move
    exact (move_fires leaves.calm.2.2 move).trans (ih (sound.move move) (step.leaves leaves))

private theorem receiving_of_unreturned {move : Host.Move σ π υ} (receiving : watch.course.host.task.place = .receiving)
    (stays : watch.course.host.returns move = false) : (watch.move move).course.host.task.place = .receiving := by
  rw [← Bool.not_eq_true, returns_iff] at stays
  exact Classical.not_not.mp fun leaves => stays ⟨receiving, leaves⟩

private theorem waiting_fires (receiving : watch.course.host.task.place = .receiving)
    (stays : watch.tally Host.returns list = 0) : watch.Fires (watch.moves list) [] := by
  induction list generalizing watch with
  | nil => exact .refl watch
  | cons move rest ih =>
    rw [tally, Nat.add_eq_zero_iff, Bool.toNat_eq_zero] at stays
    have calm (began : Instant) : watch.course.host.task.place ≠ .draining began := by simp [receiving]
    exact (move_fires calm move).trans (ih (receiving_of_unreturned receiving stays.1) stays.2)

private theorem clock_le_moves (watch : Watch σ π ρ υ) (list : List (Host.Move σ π υ)) :
    watch.course.host.kernel.now ≤ (watch.moves list).course.host.kernel.now := by
  rw [course_moves, Course.host_moves]
  exact Host.clock_le_moves _ list

private theorem Sound.sweep_split (sound : watch.Sound) (sweeps : watch.course.host.task.place.sweep? = some began)
    (list : List (Host.Move σ π υ)) : ∃ sweep rest, list = sweep ++ rest ∧ watch.Sweeping began sweep ∧
      (rest = [] ∨ (watch.moves sweep).course.host.task.place = .receiving ∨
        (watch.moves sweep).course.host.task.place = .closing) := by
  induction list generalizing watch with
  | nil => exact ⟨[], [], rfl, trivial, .inl rfl⟩
  | cons move tail ih =>
    rcases (sound.reached.followed.step move).sweep_next sweeps with goesOn | ⟨_, receives⟩ | closes
    · obtain ⟨sweep, rest, rfl, sweeping, behind⟩ := ih (sound.move move) goesOn
      exact ⟨move :: sweep, rest, rfl, ⟨sweeps, sweeping⟩, behind⟩
    · exact ⟨[move], tail, rfl, ⟨sweeps, trivial⟩, .inr (.inl receives)⟩
    · exact ⟨[move], tail, rfl, ⟨sweeps, trivial⟩, .inr (.inr closes)⟩

private theorem Sound.sweep_fires (sound : watch.Sound) (sweeps : watch.course.host.task.place.sweep? = some began)
    (finite : watch.course.host.kernel.now < Instant.last) (sweeping : watch.Sweeping began list) :
    ∃ ids, ids.Nodup ∧ watch.Fires (watch.moves list) ids := by
  have start : watch.Amid began watch.timers [] := ⟨.start began watch.timers, .inl sweeps⟩
  have early := Instant.lt_of_le_of_lt (sound.punctual began sweeps) finite
  obtain ⟨events, amid⟩ := start.moves sound.keeps.sound sound early list sweeping
  rw [List.nil_append] at amid
  refine ⟨TimerSet.Session.firedIds events, (List.nodup_append.mp (amid.swept.nodup sound.keeps.sound)).1, ?_⟩
  rw [Fires, amid.swept.history, TimerSet.Session.firedIds_join]

private theorem Sound.fires_once (sound : watch.Sound)
    (finite : (watch.moves list).course.host.kernel.now < Instant.last)
    (stays : watch.tally Host.returns list = 0) : ∃ ids, ids.Nodup ∧ watch.Fires (watch.moves list) ids := by
  induction list generalizing watch with
  | nil => exact ⟨[], List.nodup_nil, .refl watch⟩
  | cons move tail ih =>
    cases sweeps : watch.course.host.task.place.sweep? with
    | some began =>
      have early := Instant.lt_of_le_of_lt (watch.clock_le_moves (move :: tail)) finite
      obtain ⟨sweep, rest, split, sweeping, behind⟩ := sound.sweep_split sweeps (move :: tail)
      obtain ⟨ids, once, fires⟩ := sound.sweep_fires sweeps early sweeping
      rw [split, tally_append, Nat.add_eq_zero_iff] at stays
      have silent : (watch.moves sweep).Fires ((watch.moves sweep).moves rest) [] := by
        rcases behind with rfl | receives | closes
        · exact .refl _
        · exact waiting_fires receives stays.2
        · exact (sound.moves sweep).leaving_fires (closes ▸ .closing)
      rw [split, moves_append]
      exact ⟨ids, once, by simpa using fires.trans silent⟩
    | none =>
      rw [tally, Nat.add_eq_zero_iff] at stays
      have calm (began : Instant) : watch.course.host.task.place ≠ .draining began := by
        intro place
        rw [place] at sweeps
        cases sweeps
      obtain ⟨ids, once, fires⟩ := ih (sound.move move) finite stays.2
      exact ⟨ids, once, (move_fires calm move).trans fires⟩

private theorem Sound.fires_once_between (sound : watch.Sound)
    (receiving : watch.course.host.task.place = .receiving)
    (finite : (watch.moves list).course.host.kernel.now < Instant.last)
    (most : watch.tally Host.returns list ≤ 1) : ∃ ids, ids.Nodup ∧ watch.Fires (watch.moves list) ids := by
  induction list generalizing watch with
  | nil => exact ⟨[], List.nodup_nil, .refl watch⟩
  | cons move tail ih =>
    have calm (began : Instant) : watch.course.host.task.place ≠ .draining began := by simp [receiving]
    have later : ∃ ids, ids.Nodup ∧ (watch.move move).Fires ((watch.move move).moves tail) ids := by
      rw [tally] at most
      cases returns : watch.course.host.returns move with
      | true =>
        rw [returns, Bool.toNat_true] at most
        exact (sound.move move).fires_once finite (by omega)
      | false =>
        rw [returns, Bool.toNat_false, Nat.zero_add] at most
        exact ih (sound.move move) (receiving_of_unreturned receiving returns) finite most
    obtain ⟨ids, once, fires⟩ := later
    exact ⟨ids, once, (move_fires calm move).trans fires⟩

private theorem Sound.unreturned_of_queued (sound : watch.Sound) (lone : Lone watch.course.diary.session)
    (queued : watch.course.host.task.exchange.queue.entries ≠ [] ∨
      watch.course.host.task.place.Leaves watch.course.host.task.quitting)
    (untaken : watch.tally Host.takes list = 0) : watch.tally Host.returns list = 0 := by
  induction list generalizing watch with
  | nil => rfl
  | cons move tail ih =>
    rw [tally, Nat.add_eq_zero_iff, Bool.toNat_eq_zero] at untaken
    have followed := sound.reached.followed
    have step := followed.step move
    have stays : watch.course.host.returns move = false := by
      rw [← Bool.not_eq_true]
      intro returns
      obtain ⟨waits, leaves⟩ := returns_iff.mp returns
      have entries := queued.resolve_right fun leaving => leaving.calm.1 waits
      obtain ⟨_, entry, _, _, takes⟩ := followed.takes_of_queued lone waits entries
      have other : move.isServe = false := by
        rw [← Bool.not_eq_true]
        intro serves
        obtain rfl := Host.Move.eq_serve serves
        simp [Host.takes, takes] at untaken
      have still : Still watch.course.host.task (watch.course.host.move move).task :=
        Host.move_still (by simp [waits]) other
      exact leaves (still.place.trans waits)
    have next : (watch.move move).course.host.task.exchange.queue.entries ≠ [] ∨
        (watch.move move).course.host.task.place.Leaves (watch.move move).course.host.task.quitting := by
      rcases queued with entries | leaves
      · rcases step.queued followed.mirrored entries with stay | leaves | ends
        · exact .inl stay
        · exact .inr leaves
        · rw [returns_iff.mpr ends] at stays
          cases stays
      · exact .inr (step.leaves leaves)
    rw [tally, stays]
    simpa using ih (sound.move move) (lone.move move) next untaken.2

/-- Each move is made while the thread waits for an entry. -/
def Waiting (watch : Watch σ π ρ υ) : List (Host.Move σ π υ) → Prop
  | [] => True
  | move :: rest => watch.course.host.task.place = .receiving ∧ (watch.move move).Waiting rest

private theorem Sweeping.snoc {move : Host.Move σ π υ} (sweeping : watch.Sweeping began list)
    (sweeps : (watch.moves list).course.host.task.place.sweep? = some began) :
    watch.Sweeping began (list ++ [move]) := by
  induction list generalizing watch with
  | nil => exact ⟨sweeps, trivial⟩
  | cons first rest ih => exact ⟨sweeping.1, ih sweeping.2 sweeps⟩

private theorem Waiting.snoc {move : Host.Move σ π υ} (waiting : watch.Waiting list)
    (receiving : (watch.moves list).course.host.task.place = .receiving) : watch.Waiting (list ++ [move]) := by
  induction list generalizing watch with
  | nil => exact ⟨receiving, trivial⟩
  | cons first rest ih => exact ⟨waiting.1, ih waiting.2 receiving⟩

/-- A sweep has begun after the first moves and goes on since. -/
structure InSweep (watch : Watch σ π ρ υ) (first sweep : List (Host.Move σ π υ)) (began : Instant) : Prop where
  begins : (watch.moves first).course.host.task.place = .sweeping
  clock : (watch.moves first).course.host.kernel.now = began
  sweeping : (watch.moves (first ++ [.serve])).Sweeping began sweep

/-- A run that has led from a sweep, by no other way, to the wait for an entry. -/
structure Behind (watch : Watch σ π ρ υ) (run first sweep waiting : List (Host.Move σ π υ)) (began : Instant) :
    Prop extends watch.InSweep first sweep began where
  split : run = first ++ .serve :: (sweep ++ waiting)
  ends : (watch.moves (first ++ .serve :: sweep)).course.host.task.place = .receiving
  waits : (watch.moves (first ++ .serve :: sweep)).Waiting waiting

private theorem Sound.last_sweep (sound : watch.Sound) (start : watch.course.host.task.place = .idle)
    (run : List (Host.Move σ π υ)) :
    (∀ began, (watch.moves run).course.host.task.place.sweep? = some began →
      ∃ first sweep, run = first ++ .serve :: sweep ∧ watch.InSweep first sweep began) ∧
    ((watch.moves run).course.host.task.place = .receiving →
      ∃ first sweep waiting began, watch.Behind run first sweep waiting began) := by
  induction run using List.reverseRecOn with
  | nil =>
    refine ⟨fun began sweeps => ?_, fun receives => ?_⟩
    · rw [show (watch.moves []).course.host.task.place = .idle from start] at sweeps
      cases sweeps
    · rw [show (watch.moves []).course.host.task.place = .idle from start] at receives
      cases receives
  | append_singleton run move ih =>
    have now := sound.moves run
    have step := now.reached.followed.step move
    have moved : watch.moves (run ++ [move]) = (watch.moves run).move move := moves_append watch run [move]
    rw [moved]
    constructor
    · intro began sweeps
      rcases step.sweep sweeps with before | begins
      · obtain ⟨first, sweep, split, within⟩ := ih.1 began before
        refine ⟨first, sweep ++ [move], by simp [split], { within with sweeping := within.sweeping.snoc ?_ }⟩
        rw [← moves_append, List.append_assoc, List.singleton_append, ← split]
        exact before
      · obtain ⟨rfl, clock⟩ := sweep_begins begins sweeps
        exact ⟨run, [], rfl, begins, clock, trivial⟩
    · intro receives
      rcases step.receiving receives with waits | ⟨began, drains⟩
      · obtain ⟨first, sweep, waiting, began, behind⟩ := ih.2 waits
        refine ⟨first, sweep, waiting ++ [move], began, { behind with split := ?_, waits := behind.waits.snoc ?_ }⟩
        · rw [behind.split]
          simp
        · rw [← moves_append, List.append_assoc, List.cons_append, ← behind.split]
          exact waits
      · have sweeps : (watch.moves run).course.host.task.place.sweep? = some began := by rw [drains]; rfl
        obtain ⟨first, sweep, split, within⟩ := ih.1 began sweeps
        have longer : run ++ [move] = first ++ .serve :: (sweep ++ [move]) := by simp [split]
        have whole : (watch.moves (first ++ [.serve])).Sweeping began (sweep ++ [move]) := by
          refine within.sweeping.snoc ?_
          rw [← moves_append, List.append_assoc, List.singleton_append, ← split]
          exact sweeps
        refine ⟨first, sweep ++ [move], [], began, ⟨within.begins, within.clock, whole⟩, ?_, ?_, trivial⟩
        · rw [List.append_nil]
          exact longer
        · rw [← longer, moved]
          exact receives

private theorem Sweeping.unreturned (sweeping : watch.Sweeping began list) : watch.tally Host.returns list = 0 := by
  induction list generalizing watch with
  | nil => rfl
  | cons move rest ih =>
    rw [tally, ih sweeping.2, Nat.add_zero, Bool.toNat_eq_zero, ← Bool.not_eq_true, returns_iff]
    rintro ⟨receives, _⟩
    have sweeps := sweeping.1
    rw [receives] at sweeps
    cases sweeps

private theorem Waiting.unreturned (waiting : watch.Waiting list)
    (receives : (watch.moves list).course.host.task.place = .receiving) :
    watch.tally Host.returns list = 0 := by
  induction list generalizing watch with
  | nil => rfl
  | cons move rest ih =>
    rw [tally, ih waiting.2 receives, Nat.add_zero, Bool.toNat_eq_zero, ← Bool.not_eq_true, returns_iff]
    rintro ⟨_, leaves⟩
    cases rest with
    | nil => exact leaves receives
    | cons => exact leaves waiting.2.1

private theorem untaken_of_unreturned (stays : watch.tally Host.returns list = 0) :
    watch.tally Host.takes list = 0 := by
  induction list generalizing watch with
  | nil => rfl
  | cons move rest ih =>
    rw [tally, Nat.add_eq_zero_iff, Bool.toNat_eq_zero] at stays
    rw [tally, ih stays.2, Nat.add_zero, Bool.toNat_eq_zero, ← Bool.not_eq_true]
    intro takes
    rw [returns_of_takes takes] at stays
    cases stays.1

private theorem Behind.untaken {run first sweep waiting : List (Host.Move σ π υ)}
    (behind : watch.Behind run first sweep waiting began)
    (receives : (watch.moves run).course.host.task.place = .receiving) :
    (watch.moves first).tally Host.takes (.serve :: (sweep ++ waiting)) = 0 := by
  apply untaken_of_unreturned
  have begins : (watch.moves first).course.host.returns .serve = false := by
    rw [← Bool.not_eq_true, returns_iff, behind.begins]
    simp
  have swept : ((watch.moves first).move .serve).Sweeping began sweep := by
    have sweeping := behind.sweeping
    rwa [moves_append] at sweeping
  have whole : watch.moves (first ++ .serve :: sweep) = ((watch.moves first).move .serve).moves sweep :=
    moves_append watch first (.serve :: sweep)
  have waits := behind.waits
  rw [whole] at waits
  have ends : (((watch.moves first).move .serve).moves sweep).moves waiting = watch.moves run := by
    rw [← whole, ← moves_append, behind.split, List.append_assoc, List.cons_append]
  rw [← ends] at receives
  rw [tally, tally_append, begins, swept.unreturned, waits.unreturned receives]
  rfl

private theorem receiving_set (receives : watch.course.host.task.place = .receiving) (move : Host.Move σ π υ) :
    (watch.move move).timers.set = watch.timers.set := by
  show (watch.timers.moves (watch.course.host.timings move)).set = _
  cases move with
  | serve =>
    have none : watch.course.host.task.timings watch.course.host.kernel.now watch.course.host.kernel.timers = [] := by
      simp [timings, receives]
    simp only [Host.timings, none, ite_self]
    rfl
  | addTimer interval repeats action =>
    simp only [Host.timings, TimerSet.Session.moves, List.foldl_cons, List.foldl_nil, TimerSet.Session.move]
    split <;> rfl
  | begin | commit | join | abandon | setPriority | post | call | cancelTimer | permit | look | rouseCaller
    | expireCaller | rouse | expire | passTo | allocateHandle | allocateTimer | identify | record => rfl

private theorem Waiting.set (waiting : watch.Waiting list) : (watch.moves list).timers.set = watch.timers.set := by
  induction list generalizing watch with
  | nil => rfl
  | cons move rest ih => exact (ih waiting.2).trans (receiving_set waiting.1 move)

private theorem timings_unclearing (stays : watch.course.host.task.place ≠ .closing) (move : Host.Move σ π υ) :
    ∀ timing ∈ watch.course.host.timings move, timing ≠ .clear := by
  intro timing member
  cases watch.course.host.timings_timed move timing member with
  | code times => cases times <;> nofun
  | fire | finish => nofun
  | clear place => exact absurd place stays

private theorem Sound.leaves_moves (sound : watch.Sound)
    (leaves : watch.course.host.task.place.Leaves watch.course.host.task.quitting)
    (list : List (Host.Move σ π υ)) :
    (watch.moves list).course.host.task.place.Leaves (watch.moves list).course.host.task.quitting := by
  induction list generalizing watch with
  | nil => exact leaves
  | cons move rest ih =>
    have step := sound.reached.followed.step move
    exact ih (sound.move move) (step.leaves leaves)

private theorem timers_history (watch : Watch σ π ρ υ) (list : List (Host.Move σ π υ)) :
    ∃ events, (watch.moves list).timers.history = watch.timers.history ++ events := by
  induction list generalizing watch with
  | nil => exact ⟨[], (List.append_nil _).symm⟩
  | cons move rest ih =>
    obtain ⟨first, one⟩ := watch.timers.moves_history (watch.course.host.timings move)
    obtain ⟨second, two⟩ := ih (watch.move move)
    refine ⟨first ++ second, ?_⟩
    rw [← List.append_assoc, one]
    exact two

private theorem Sound.moves_armed (sound : watch.Sound) {armed : TimerSet.Armed σ}
    (member : armed ∈ watch.timers.set.armed)
    (serving : ¬(watch.moves list).course.host.task.place.Leaves (watch.moves list).course.host.task.quitting) :
    ∃ events, (watch.moves list).timers.history = watch.timers.history ++ events ∧
      (armed ∈ (watch.moves list).timers.set.armed ∨ TimerSet.Session.Spent armed.timer.id events) := by
  induction list generalizing watch with
  | nil => exact ⟨[], (List.append_nil _).symm, .inl member⟩
  | cons move rest ih =>
    have stays : watch.course.host.task.place ≠ .closing := fun closes =>
      serving (sound.leaves_moves (closes ▸ .closing) (move :: rest))
    obtain ⟨first, one, still | spent⟩ := TimerSet.Session.moves_armed member (timings_unclearing stays move)
    · obtain ⟨second, two, stands⟩ := ih (sound.move move) still serving
      refine ⟨first ++ second, ?_, stands.imp_right fun spent => spent.right first⟩
      rw [← List.append_assoc, ← one]
      exact two
    · obtain ⟨second, two⟩ := timers_history (watch.move move) rest
      refine ⟨first ++ second, ?_, .inr (spent.left second)⟩
      rw [← List.append_assoc, ← one]
      exact two

/-- A whole sweep lies behind a run that has led to the wait for an entry, and nothing has been taken since
the sweep began. -/
structure Rested (watch : Watch σ π ρ υ) (run first sweep waiting : List (Host.Move σ π υ)) (began : Instant)
    (events : List (TimerSet.Session.Event σ)) : Prop extends watch.Behind run first sweep waiting began where
  untaken : (watch.moves first).tally Host.takes (.serve :: (sweep ++ waiting)) = 0
  history : (watch.moves (first ++ .serve :: sweep)).timers.history = (watch.moves first).timers.history ++ events
  spent : ∀ armed ∈ (watch.moves first).course.host.task.timers.armed, armed.deadline ≤ began →
    TimerSet.Session.Spent armed.timer.id events
  ahead : ∀ armed ∈ (watch.moves run).course.host.task.timers.armed, began < armed.deadline

private theorem cancelled_of_cancelledFirst {id : TimerId} {events : List (TimerSet.Session.Event σ)}
    (first : TimerSet.Session.cancelledFirst id events = true) : ∃ known, .cancelled id known ∈ events := by
  induction events with
  | nil => cases first
  | cons event rest ih =>
    have behind (found : TimerSet.Session.cancelledFirst id rest = true) :
        ∃ known, .cancelled id known ∈ event :: rest := (ih found).imp fun _ => List.mem_cons_of_mem event
    cases event with
    | armed | cleared => exact behind first
    | fired firing =>
      rw [TimerSet.Session.cancelledFirst, Bool.and_eq_true] at first
      exact behind first.2
    | cancelled other known =>
      rw [TimerSet.Session.cancelledFirst, Bool.or_eq_true, decide_eq_true_eq] at first
      rcases first with rfl | found
      · exact ⟨known, List.mem_cons_self⟩
      · exact behind found

private theorem Sound.rested (sound : watch.Sound) (start : watch.course.host.task.place = .idle)
    {run : List (Host.Move σ π υ)} (receives : (watch.moves run).course.host.task.place = .receiving)
    (finite : (watch.moves run).course.host.kernel.now < Instant.last) :
    ∃ first sweep waiting began events, watch.Rested run first sweep waiting began events := by
  obtain ⟨first, sweep, waiting, began, behind⟩ := (sound.last_sweep start run).2 receives
  have early := sound.moves first
  have opening : (watch.moves first).move .serve = watch.moves (first ++ [.serve]) :=
    (moves_append watch first [.serve]).symm
  have drains : (watch.moves (first ++ [.serve])).course.host.task.place = .draining began := by
    rw [← opening, ← behind.clock]
    simp [Watch.move, Course.move, Host.move, Host.step?, step?, behind.begins]
  have timers : (watch.moves (first ++ [.serve])).timers = (watch.moves first).timers := by
    rw [← opening]
    show (watch.moves first).timers.moves _ = _
    simp [Host.timings, timings, behind.begins, TimerSet.Session.moves]
  have now := sound.moves (first ++ [.serve])
  have whole : watch.moves (first ++ .serve :: sweep) = (watch.moves (first ++ [.serve])).moves sweep := by
    rw [← moves_append, List.append_assoc, List.singleton_append]
  have earlier : began < Instant.last := by
    have clock := (watch.moves first).clock_le_moves (.serve :: (sweep ++ waiting))
    rw [← moves_append, ← behind.split, behind.clock] at clock
    exact Instant.lt_of_le_of_lt clock finite
  have begin : (watch.moves (first ++ [.serve])).Amid began (watch.moves (first ++ [.serve])).timers [] :=
    ⟨.start began _, .inl (by rw [drains]; rfl)⟩
  obtain ⟨events, amid⟩ := begin.moves now.keeps.sound now earlier sweep behind.sweeping
  rw [List.nil_append, ← whole] at amid
  have due : (watch.moves (first ++ .serve :: sweep)).timers.set.due began = [] := by
    have ends := behind.ends
    rcases amid.stands with sweeps | ⟨_, due⟩ | closes
    · rw [ends] at sweeps
      cases sweeps
    · exact due
    · rw [ends] at closes
      cases closes
  refine ⟨first, sweep, waiting, began, events, behind, behind.untaken receives, ?_, ?_, ?_⟩
  · rw [amid.swept.history, timers]
  · intro armed member reached
    have order := amid.swept.order
    rw [timers, TimerSet.dueIds, TimerSet.dueIds, due, List.map_nil, List.append_nil] at order
    rw [← early.keeps.set] at member
    have listed : armed.timer.id ∈ ((watch.moves first).timers.set.due began).map (·.timer.id) :=
      List.mem_map_of_mem (f := fun armed : TimerSet.Armed σ => armed.timer.id)
        (TimerSet.mem_due.mpr ⟨member, reached⟩)
    cases cancelled : TimerSet.Session.cancelledFirst armed.timer.id events with
    | true => exact .inr (cancelled_of_cancelledFirst cancelled)
    | false =>
      left
      rw [← order]
      exact List.mem_filter.mpr ⟨listed, by rw [cancelled]; rfl⟩
  · intro armed member
    have set := behind.waits.set
    rw [← moves_append, List.append_assoc, List.cons_append, ← behind.split] at set
    rw [← (sound.moves run).keeps.set, set] at member
    apply Classical.byContradiction
    intro reached
    have still := TimerSet.mem_due.mpr ⟨member, Instant.not_lt.mp reached⟩
    rw [due] at still
    cases still

private theorem Rested.behind_taken {begin rest first sweep waiting : List (Host.Move σ π υ)} {move : Host.Move σ π υ}
    {events : List (TimerSet.Session.Event σ)}
    (rested : watch.Rested (begin ++ move :: rest) first sweep waiting began events)
    (takes : (watch.moves begin).course.host.takes move = true) : ∃ gap, first = begin ++ move :: gap := by
  have untaken := rested.untaken
  rcases List.append_eq_append_iff.mp rested.split with ⟨gap, rfl, tail⟩ | ⟨gap, rfl, tail⟩
  · cases gap with
    | nil =>
      obtain ⟨rfl, _⟩ := List.cons.inj tail
      rw [List.append_nil, tally, takes, Bool.toNat_true] at untaken
      omega
    | cons other gap =>
      obtain ⟨rfl, _⟩ := List.cons.inj tail
      exact ⟨gap, rfl⟩
  · rw [tail, tally_append, ← moves_append, tally, takes, Bool.toNat_true] at untaken
    omega

private theorem Rested.overdue_spent (sound : watch.Sound) {run before gap sweep waiting : List (Host.Move σ π υ)}
    {events : List (TimerSet.Session.Event σ)}
    (rested : watch.Rested run (before ++ gap) sweep waiting began events) {armed : TimerSet.Armed σ}
    (member : armed ∈ (watch.moves before).course.host.task.timers.armed)
    (reached : armed.deadline ≤ (watch.moves before).course.host.kernel.now) :
    ∃ passed, (watch.moves run).timers.history = (watch.moves before).timers.history ++ passed ∧
      TimerSet.Session.Spent armed.timer.id passed := by
  have serving : ¬(watch.moves (before ++ gap)).course.host.task.place.Leaves
      (watch.moves (before ++ gap)).course.host.task.quitting :=
    fun leaves => leaves.calm.2.1 rested.begins
  have clock := (watch.moves before).clock_le_moves gap
  obtain ⟨third, later⟩ := timers_history (watch.moves ((before ++ gap) ++ .serve :: sweep)) waiting
  rw [← (sound.moves before).keeps.set] at member
  rw [moves_append] at serving
  obtain ⟨passed, earlier, stands⟩ := (sound.moves before).moves_armed member serving
  rw [← moves_append] at earlier stands clock
  refine ⟨passed ++ (events ++ third), ?_, ?_⟩
  · rw [← moves_append, List.append_assoc, List.cons_append, ← rested.split, rested.history, earlier] at later
    rw [later, List.append_assoc, List.append_assoc]
  · rcases stands with still | spent
    · rw [(sound.moves _).keeps.set] at still
      rw [rested.clock] at clock
      exact ((rested.spent armed still (Instant.le_trans reached clock)).left third).right passed
    · exact spent.left _

/-- A timer that is due has fired or been cancelled before the second entry from then on is taken. -/
private theorem Sound.spent_of_taken (sound : watch.Sound) (start : watch.course.host.task.place = .idle)
    {before stretch : List (Host.Move σ π υ)} {armed : TimerSet.Armed σ}
    (member : armed ∈ (watch.moves before).course.host.task.timers.armed)
    (reached : armed.deadline ≤ (watch.moves before).course.host.kernel.now)
    (taken : 2 ≤ (watch.moves before).tally Host.takes stretch)
    (finite : (watch.moves (before ++ stretch)).course.host.kernel.now < Instant.last) :
    ∃ events, (watch.moves (before ++ stretch)).timers.history = (watch.moves before).timers.history ++ events ∧
      TimerSet.Session.Spent armed.timer.id events := by
  obtain ⟨early, one, rest, rfl, none, first⟩ := exists_of_tally_pos (Nat.lt_of_lt_of_le Nat.zero_lt_two taken)
  rw [tally_append, none, tally, first, Bool.toNat_true, Nat.zero_add] at taken
  obtain ⟨mid, two, tail, rfl, _, second⟩ := exists_of_tally_pos (Nat.lt_of_succ_le (Nat.le_of_add_le_add_left taken))
  have split : before ++ (early ++ one :: (mid ++ two :: tail)) = ((before ++ early) ++ one :: mid) ++ two :: tail := by
    simp
  have run : ((watch.moves before).moves early).move one = watch.moves ((before ++ early) ++ [one]) := by
    rw [moves_append, moves_append]
    rfl
  rw [run, ← moves_append, List.append_assoc, List.singleton_append] at second
  rw [← moves_append] at first
  rw [split, moves_append] at finite ⊢
  have receives := (returns_iff.mp (returns_of_takes second)).1
  obtain ⟨opening, sweep, waiting, began, events, rested⟩ :=
    sound.rested start receives (Instant.lt_of_le_of_lt (clock_le_moves _ _) finite)
  obtain ⟨gap, rfl⟩ := rested.behind_taken first
  rw [List.append_assoc before early (one :: gap)] at rested
  obtain ⟨passed, history, spent⟩ := rested.overdue_spent sound member reached
  obtain ⟨later, two⟩ := timers_history (watch.moves ((before ++ early) ++ one :: mid)) (two :: tail)
  exact ⟨passed ++ later, by rw [two, history, List.append_assoc], spent.left later⟩

/-- Timers and entries of the queue take turns in every run. -/
structure Alternating (watch : Watch σ π ρ υ) : Prop where
  swept : ∀ run entry, (watch.moves run).course.host.takes? .serve = some entry →
    (watch.moves run).course.host.kernel.now < Instant.last →
      ∃ first sweep waiting began events, watch.Rested run first sweep waiting began events
  prompt : ∀ run, (watch.moves run).course.host.task.place = .receiving →
    (watch.moves run).course.host.task.exchange.queue.entries ≠ [] →
      (watch.moves run).course.host.task.exchange.waiting.stance? consumer ≠ some .parked ∧
        ∃ entry rest, (watch.moves run).course.host.task.exchange.queue.pop? = some (entry, rest) ∧
          (watch.moves run).course.host.takes? .serve = some entry
  -- From one wait for an entry to the next, each timer fires once at most.
  once : ∀ before stretch, (watch.moves before).course.host.task.place = .receiving →
    (watch.moves before).tally Host.returns stretch ≤ 1 →
      (watch.moves (before ++ stretch)).course.host.kernel.now < Instant.last →
        ∃ ids, ids.Nodup ∧ (watch.moves before).Fires (watch.moves (before ++ stretch)) ids
  queued : ∀ before stretch, (watch.moves before).course.host.task.exchange.queue.entries ≠ [] →
    (watch.moves before).tally Host.takes stretch = 0 →
      (watch.moves (before ++ stretch)).course.host.kernel.now < Instant.last →
        ∃ ids, ids.Nodup ∧ (watch.moves before).Fires (watch.moves (before ++ stretch)) ids
  -- A timer that is due fires or is cancelled before a second entry is taken.
  overdue : ∀ before stretch, ∀ armed ∈ (watch.moves before).course.host.task.timers.armed,
    armed.deadline ≤ (watch.moves before).course.host.kernel.now →
      2 ≤ (watch.moves before).tally Host.takes stretch →
        (watch.moves (before ++ stretch)).course.host.kernel.now < Instant.last →
          ∃ events, (watch.moves (before ++ stretch)).timers.history =
            (watch.moves before).timers.history ++ events ∧ TimerSet.Session.Spent armed.timer.id events

/-- Neither timers nor messages keep the others waiting. -/
theorem every_task_alternates (kernel : Kernel) (thread : ThreadKey) (settings : Settings υ)
    (handler : Handler σ π ρ υ) (state : σ) (host : Host σ π ρ υ)
    (created : (Host.create kernel thread settings handler state).1 = .ok host) :
    (Watch.start host).Alternating := by
  have sound := start_sound created
  have idle : (Watch.start host).course.host.task.place = .idle := by
    obtain ⟨life, initial, _, _, fresh⟩ := create_cases created
    simp [Watch.start, Course.start, fresh, Task.create]
  have lone : Lone (Watch.start host).course.diary.session := List.forall_mem_nil _
  have lones (run : List (Host.Move σ π υ)) : Lone ((Watch.start host).moves run).course.diary.session := by
    rw [course_moves]
    exact lone.moves run
  refine ⟨?_, ?_, ?_, ?_, ?_⟩
  · intro run entry takes finite
    exact sound.rested idle (Host.takes?_eq_some takes).2.1 finite
  · intro run receives entries
    exact (sound.moves run).reached.followed.takes_of_queued (lones run) receives entries
  · intro before stretch receives most finite
    rw [moves_append] at finite ⊢
    exact (sound.moves before).fires_once_between receives finite most
  · intro before stretch entries untaken finite
    rw [moves_append] at finite ⊢
    have now := sound.moves before
    exact now.fires_once finite (now.unreturned_of_queued (lones before) (.inl entries) untaken)
  · intro before stretch armed member reached taken finite
    exact sound.spent_of_taken idle member reached taken finite

/-- Two messages are queued and a timer is due while the thread waits: it fires before the second is taken. -/
theorem due_timer_passes_second_message :
    let before : List (Host.Move Nat Nat Unit) := [.begin 7 false, .commit, .serve, .serve, .serve, .serve, .serve,
      .post (.user 1 none), .post (.user 2 none), .passTo ⟨5, 0, by decide⟩]
    let stretch : List (Host.Move Nat Nat Unit) := List.replicate 9 .serve
    ∃ host, (Host.create Worker.kernel 7 (Worker.settings (some Worker.everySecond)) Worker.echoing 0).1 = .ok host ∧
      ((start host).moves before).tally Host.takes stretch = 2 ∧
      ∃ events, ((start host).moves (before ++ stretch)).timers.history =
        ((start host).moves before).timers.history ++ events ∧ TimerSet.Session.Spent ⟨1⟩ events := by
  intro before stretch
  have created : (Host.create Worker.kernel 7 (Worker.settings (some Worker.everySecond)) Worker.echoing 0).1 =
    .ok _ := rfl
  have alternates := every_task_alternates Worker.kernel 7 _ Worker.echoing 0 _ created
  have overdue (host : Host Nat Nat Nat Unit) (alternates : (start host).Alternating)
      (taken : ((start host).moves before).tally Host.takes stretch = 2)
      (due : ∃ armed ∈ ((start host).moves before).course.host.task.timers.armed,
        armed.timer.id = ⟨1⟩ ∧ armed.deadline ≤ ((start host).moves before).course.host.kernel.now)
      (finite : ((start host).moves (before ++ stretch)).course.host.kernel.now < Instant.last) :
      ∃ events, ((start host).moves (before ++ stretch)).timers.history =
        ((start host).moves before).timers.history ++ events ∧ TimerSet.Session.Spent ⟨1⟩ events := by
    obtain ⟨armed, member, named, reached⟩ := due
    rw [← named]
    exact alternates.overdue before stretch armed member reached (Nat.le_of_eq taken.symm) finite
  exact ⟨_, created, by decide +kernel,
    overdue _ alternates (by decide +kernel) (by decide +kernel) (by decide +kernel)⟩

end Watch

end Task

end TaskKernel
