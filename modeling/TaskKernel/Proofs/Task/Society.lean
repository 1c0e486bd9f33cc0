import TaskKernel.Proofs.Task.Joining
import TaskKernel.Proofs.Task.Party

/-!
A program with all its threads, which make each other, ask who they are, write records and call each
other's tasks in any order. No identity is given out twice, a thread keeps the one it has, and no two
threads have the same, so a task refuses the call of one thread only: its own.
-/
namespace TaskKernel

/-- What can be done to a plain thread from outside. -/
inductive Thread.Deed (σ : Type)
  | begin (detached : Bool)
  | commit
  | join
  | abandon
  | setPriority (priority : Priority)
  | permit
  | share (state : σ)

def Thread.deed {σ α : Type} (thread : Thread σ α) : Thread.Deed σ → Thread σ α × List Effect
  | .begin detached => (thread.begin detached).2
  | .commit => (thread.commit, [])
  | .join => thread.join.2
  | .abandon => (thread.abandon, [])
  | .setPriority priority =>
    match thread.setPriority priority with
    | .ok changed => changed
    | .error _ => (thread, [])
  | .permit => (thread.permit, [])
  | .share state => ({ thread with surface.state := state }, [])

private theorem Thread.deed_aside {σ α : Type} {thread : Thread σ α} (sound : (Party.ofThread thread).Sound)
    (deed : Thread.Deed σ) :
    Party.Aside (.ofThread thread) (.ofThread (thread.deed deed).1) (thread.deed deed).2 := by
  cases deed with
  | begin detached => exact begin_aside thread sound detached
  | join => exact join_aside thread
  | abandon => exact abandon_aside thread
  | setPriority priority =>
    simp only [Thread.deed]
    split
    · exact setPriority_aside ‹_›
    · exact .refl _
  | commit | permit | share => exact ⟨rfl, rfl, id, by simp [Thread.deed]⟩

/-- A program with the threads that it has made, each by the key of its native thread, and the handles of the
builders that have not built theirs yet. All other threads are foreign. -/
structure Society where
  kernel : Kernel
  party : ThreadKey → Option Party
  builders : List ThreadHandle

namespace Society

/-- A program in which nothing has happened yet. -/
def fresh (environment : Environment) (now : Instant) : Society :=
  ⟨Kernel.fresh environment now, fun _ => none, []⟩

def put (society : Society) (key : ThreadKey) (party : Party) : Society :=
  { society with party := fun other => if other = key then some party else society.party other }

/-- A thread that runs code of the program: a foreign one, or one that has entered its body. -/
structure Acting (society : Society) (thread : ThreadKey) : Prop where
  present : thread < society.kernel.threads
  entered : ∀ party, society.party thread = some party → party.hasEntered = true

private theorem Acting.of_foreign {society : Society} {thread : ThreadKey} (present : thread < society.kernel.threads)
    (foreign : society.party thread = none) : society.Acting thread :=
  ⟨present, fun party made => by
    rw [foreign] at made
    cases made⟩

/-- What can happen next, with the handles that it gives out. -/
inductive Step (society : Society) : List ThreadHandle → Society → Prop
  | appeared : Step society [] { society with kernel := society.kernel.newThread.2 }
  | passed (now : Instant) : Step society [] { society with kernel := { society.kernel with now } }
  | allocated : Step society [society.kernel.allocateHandle.1]
      { society with kernel := society.kernel.allocateHandle.2 }
  | prepared : Step society [society.kernel.allocateHandle.1]
      { society with
        kernel := society.kernel.allocateHandle.2
        builders := society.builders ++ [society.kernel.allocateHandle.1] }
  | built {σ α : Type} (thread : ThreadKey) (acting : society.Acting thread) (handle : ThreadHandle)
      (prepared : handle ∈ society.builders) (name : Option String) (stackSize : Option UInt64)
      (priority : Option Priority) (body : Runnable σ α) (state : σ) (life : Lifecycle)
      (built : Lifecycle.build handle (society.kernel.readConfig thread).1 name stackSize priority = .ok life) :
      Step society (society.kernel.newName thread (society.kernel.readConfig thread).2)
        ({ society with
            kernel := (society.kernel.readConfig thread).2.newThread.2
            builders := society.builders.erase handle }.put
          (society.kernel.readConfig thread).2.newThread.1 (.ofThread (Thread.create life body state)))
  | unbuilt (thread : ThreadKey) (acting : society.Acting thread) (handle : ThreadHandle) :
      Step society (society.kernel.newName thread (society.kernel.readConfig thread).2)
        { society with
          kernel := (society.kernel.readConfig thread).2
          builders := society.builders.erase handle }
  | made {σ π ρ υ : Type} (thread : ThreadKey) (acting : society.Acting thread)
      (settings : Task.Settings υ) (handler : Handler σ π ρ υ) (state : σ) (host : Task.Host σ π ρ υ)
      (made : (Task.Host.create society.kernel thread settings handler state).1 = .ok host) :
      Step society
        (society.kernel.newName thread (society.kernel.readConfig thread).2 ++ [host.task.life.handle])
        ({ society with kernel := host.kernel }.put host.native (.ofTask host.task))
  | unmade {σ π ρ υ : Type} (thread : ThreadKey) (acting : society.Acting thread)
      (settings : Task.Settings υ) (handler : Handler σ π ρ υ) (state : σ) (failure : Failure)
      (refused : (Task.Host.create society.kernel thread settings handler state).1 = .error failure) :
      Step society
        (society.kernel.newName thread (society.kernel.readConfig thread).2 ++
          [(society.kernel.readConfig thread).2.allocateHandle.1])
        { society with kernel := (Task.Host.create society.kernel thread settings handler state).2 }
  | asked (thread : ThreadKey) (acting : society.Acting thread) :
      Step society (society.kernel.newName thread (society.kernel.identify thread).2)
        { society with kernel := (society.kernel.identify thread).2 }
  | compared (thread : ThreadKey) (acting : society.Acting thread) (handle : ThreadHandle) :
      Step society (society.kernel.newName thread (society.kernel.isCurrent thread handle).2)
        { society with kernel := (society.kernel.isCurrent thread handle).2 }
  | accessed (thread : ThreadKey) (acting : society.Acting thread) (access : Log.Access) :
      Step society (society.kernel.newName thread (Kernel.logAccess thread access society.kernel).2)
        { society with kernel := (Kernel.logAccess thread access society.kernel).2 }
  | consulted (thread : ThreadKey) (acting : society.Acting thread) :
      Step society (society.kernel.newName thread (society.kernel.readConfig thread).2)
        { society with kernel := (society.kernel.readConfig thread).2 }
  | configured (config : Config) (kernel : Kernel) (installed : society.kernel.setConfig config = .ok kernel) :
      Step society [] { society with kernel }
  | initialized (thread : ThreadKey) (acting : society.Acting thread) :
      Step society (society.kernel.newName thread (society.kernel.start thread))
        { society with kernel := society.kernel.start thread }
  | treated {σ α : Type} (thread : ThreadKey) (acting : society.Acting thread) (key : ThreadKey)
      (own : Thread σ α) (known : society.party key = some (.ofThread own)) (deed : Thread.Deed σ) :
      Step society (society.kernel.newName thread (society.kernel.carryOutAll thread (own.deed deed).2))
        ({ society with kernel := society.kernel.carryOutAll thread (own.deed deed).2 }.put key
          (.ofThread (own.deed deed).1))
  | ran {σ α : Type} (key : ThreadKey) (own after : Thread σ α) (effects : List Effect)
      (known : society.party key = some (.ofThread own))
      (stepped : own.step? society.kernel.now = some (after, effects)) :
      Step society [] ({ society with kernel := society.kernel.carryOutAll key effects }.put key (.ofThread after))
  | worked {σ π ρ υ : Type} (key : ThreadKey) (task : Task σ π ρ υ)
      (known : society.party key = some (.ofTask task)) (move : Task.Host.Move σ π υ)
      (elsewhere : move.isAllocation = false)
      (acting : ∀ thread, move.actor? = some thread → society.Acting thread) :
      Step society
        (move.actor?.elim [] fun thread =>
          society.kernel.newName thread (Task.Host.move ⟨society.kernel, key, task⟩ move).kernel)
        ({ society with kernel := (Task.Host.move ⟨society.kernel, key, task⟩ move).kernel }.put key
          (.ofTask (Task.Host.move ⟨society.kernel, key, task⟩ move).task))

/-- A run of the program, with all the handles that it gives out, in their order. -/
inductive Run (society : Society) : List ThreadHandle → Society → Prop
  | nil : Run society [] society
  | snoc {issued more : List ThreadHandle} {before after : Society} (earlier : Run society issued before)
      (last : before.Step more after) : Run society (issued ++ more) after

/-- The identity that a thread has, or that it will bind. -/
def claim (society : Society) (key : ThreadKey) : ThreadHandle :=
  (society.party key).elim (society.kernel.bound key) Party.handle

structure Sound (society : Society) (issued : List ThreadHandle) : Prop where
  issued : issued = ThreadHandle.firsts society.kernel.handles
  apart : ∀ one two, (society.claim one).isSome = true → society.claim one = society.claim two → one = two
  within : ∀ key, (society.claim key).number ≤ society.kernel.handles
  builders : ∀ handle ∈ society.builders,
    handle ∈ ThreadHandle.firsts society.kernel.handles ∧ ∀ key, society.claim key ≠ handle
  single : society.builders.Nodup
  parties : ∀ key party, society.party key = some party →
    key < society.kernel.threads ∧ party.Sound ∧ party.handle.isSome = true ∧
      society.kernel.bound key = if party.hasEntered then party.handle else .none
  absent : ∀ key, society.kernel.threads ≤ key → society.kernel.bound key = .none

variable {society after : Society} {issued more : List ThreadHandle} {kernel : Kernel} {thread key : ThreadKey}

private theorem fresh_sound (environment : Environment) (now : Instant) : (fresh environment now).Sound [] where
  issued := rfl
  apart _ _ proper := by cases proper
  within _ := Nat.le_refl 0
  builders := by simp [fresh]
  single := List.nodup_nil
  parties := by simp [fresh]
  absent _ _ := rfl

private theorem Sound.framed (sound : society.Sound issued) (handles : kernel.handles = society.kernel.handles)
    (bound : kernel.bound = society.kernel.bound) (threads : society.kernel.threads ≤ kernel.threads) :
    Sound { society with kernel } issued := by
  have claims : ∀ key, claim { society with kernel } key = society.claim key := by
    simp [claim, bound]
  refine ⟨?_, ?_, ?_, ?_, sound.single, ?_, ?_⟩
  · rw [handles]
    exact sound.issued
  · simpa only [claims] using sound.apart
  · simpa only [claims, handles] using sound.within
  · simpa only [claims, handles] using sound.builders
  · intro key party made
    obtain ⟨present, rest⟩ := sound.parties key party made
    exact ⟨Nat.lt_of_lt_of_le present threads, bound ▸ rest⟩
  · intro key above
    rw [bound]
    exact sound.absent key (Nat.le_trans threads above)

private theorem Sound.bound_of_acting (sound : society.Sound issued) (acting : society.Acting thread) {party : Party}
    (made : society.party thread = some party) :
    (society.kernel.bound thread).isSome = true ∧ society.kernel.bound thread = party.handle := by
  obtain ⟨_, _, proper, bound⟩ := sound.parties thread party made
  rw [acting.entered party made, if_pos rfl] at bound
  exact ⟨bound ▸ proper, bound⟩

private theorem Sound.claim_of_acting (sound : society.Sound issued) (acting : society.Acting thread) :
    society.claim thread = society.kernel.bound thread := by
  cases made : society.party thread with
  | none => simp [claim, made]
  | some party =>
    rw [(sound.bound_of_acting acting made).2]
    simp [claim, made]

private theorem Sound.acted (sound : society.Sound issued) (acting : society.Acting thread)
    (named : society.kernel.Named thread kernel) :
    Sound { society with kernel } (issued ++ society.kernel.newName thread kernel) := by
  have firsts := named.firsts
  cases named with
  | kept handles bound threads =>
    have given : society.kernel.newName thread kernel = [] := by
      rw [handles] at firsts
      simpa using firsts
    rw [given, List.append_nil]
    exact sound.framed handles bound (Nat.le_of_eq threads.symm)
  | given unbound handles bound threads =>
    have foreign : society.party thread = none := by
      cases made : society.party thread with
      | none => rfl
      | some party =>
        rw [(sound.bound_of_acting acting made).1] at unbound
        cases unbound
    have claims : ∀ key, claim { society with kernel } key =
        if key = thread then ⟨society.kernel.handles + 1⟩ else society.claim key := by
      intro key
      by_cases same : key = thread
      · simp [claim, bound, same, foreign]
      · simp [claim, bound, same]
    -- The new identity is beyond all that anybody claims.
    have beyond : ∀ key, society.claim key ≠ ⟨society.kernel.handles + 1⟩ := by
      intro key same
      have within := sound.within key
      rw [same] at within
      exact absurd within (Nat.not_succ_le_self _)
    refine ⟨?_, ?_, ?_, ?_, sound.single, ?_, ?_⟩
    · rw [firsts, sound.issued]
    · intro one two proper same
      rw [claims] at proper same
      rw [claims] at same
      by_cases first : one = thread <;> by_cases second : two = thread
      · rw [first, second]
      · rw [if_pos first, if_neg second] at same
        exact absurd same.symm (beyond two)
      · rw [if_neg first, if_pos second] at same
        exact absurd same (beyond one)
      · rw [if_neg first] at proper same
        rw [if_neg second] at same
        exact sound.apart one two proper same
    · intro key
      rw [claims, handles]
      split
      · exact Nat.le_refl _
      · exact Nat.le_succ_of_le (sound.within key)
    · intro handle member
      obtain ⟨given, unclaimed⟩ := sound.builders handle member
      refine ⟨?_, fun key => ?_⟩
      · rw [handles, ThreadHandle.firsts_succ]
        exact List.mem_append_left _ given
      · rw [claims]
        split
        · intro same
          have within := (ThreadHandle.mem_firsts.mp given).2
          rw [← same] at within
          exact absurd within (Nat.not_succ_le_self _)
        · exact unclaimed key
    · intro key party made
      obtain ⟨present, stable, proper, held⟩ := sound.parties key party made
      refine ⟨threads ▸ present, stable, proper, ?_⟩
      have other : key ≠ thread := fun same => by
        rw [same, foreign] at made
        cases made
      simp [bound, other, held]
    · intro key above
      rw [threads] at above
      have other : key ≠ thread := fun same => absurd acting.present (Nat.not_lt.mpr (same ▸ above))
      simp [bound, other, sound.absent key above]

private theorem Sound.prepared (sound : society.Sound issued) (handles : kernel.handles = society.kernel.handles + 1)
    (bound : kernel.bound = society.kernel.bound) (threads : kernel.threads = society.kernel.threads) :
    Sound { society with kernel, builders := society.builders ++ [⟨society.kernel.handles + 1⟩] }
      (issued ++ [⟨society.kernel.handles + 1⟩]) := by
  have claims : ∀ key, claim { society with
      kernel, builders := society.builders ++ [⟨society.kernel.handles + 1⟩] } key = society.claim key := by
    simp [claim, bound]
  refine ⟨?_, ?_, ?_, ?_, ?_, ?_, ?_⟩
  · rw [handles, ThreadHandle.firsts_succ, sound.issued]
  · simpa only [claims] using sound.apart
  · intro key
    rw [claims, handles]
    exact Nat.le_succ_of_le (sound.within key)
  · intro handle member
    rw [handles, ThreadHandle.firsts_succ]
    rcases List.mem_append.mp member with earlier | last
    · obtain ⟨given, unclaimed⟩ := sound.builders handle earlier
      exact ⟨List.mem_append_left _ given, by simpa only [claims] using unclaimed⟩
    · refine ⟨List.mem_append_right _ last, fun key same => ?_⟩
      have within := sound.within key
      rw [claims] at same
      rw [same, List.mem_singleton.mp last] at within
      exact absurd within (Nat.not_succ_le_self _)
  · refine List.nodup_append.mpr ⟨sound.single, List.pairwise_singleton _ _, ?_⟩
    intro handle member other last same
    have within := (ThreadHandle.mem_firsts.mp (sound.builders handle member).1).2
    rw [same, List.mem_singleton.mp last] at within
    exact absurd within (Nat.not_succ_le_self _)
  · simpa only [bound, threads] using sound.parties
  · simpa only [bound, threads] using sound.absent

private theorem Sound.discarded (sound : society.Sound issued) {builders : List ThreadHandle}
    (fewer : builders.Sublist society.builders) : Sound { society with builders } issued where
  issued := sound.issued
  apart := sound.apart
  within := sound.within
  builders handle member := sound.builders handle (fewer.subset member)
  single := sound.single.sublist fewer
  parties := sound.parties
  absent := sound.absent

private theorem Sound.joined (sound : society.Sound issued) {party : Party} (prepared : party.handle ∈ society.builders)
    (fresh : party.hasEntered = false) (stable : party.Sound) (present : key < society.kernel.threads)
    (unbound : society.kernel.bound key = .none) :
    Sound ({ society with builders := society.builders.erase party.handle }.put key party) issued := by
  obtain ⟨given, unclaimed⟩ := sound.builders party.handle prepared
  have claims : ∀ other,
      claim ({ society with builders := society.builders.erase party.handle }.put key party) other =
        if other = key then party.handle else society.claim other := by
    intro other
    by_cases same : other = key <;> simp [claim, put, same]
  refine ⟨sound.issued, ?_, ?_, ?_, sound.single.erase _, ?_, sound.absent⟩
  · intro one two proper same
    rw [claims] at proper same
    rw [claims] at same
    by_cases first : one = key <;> by_cases second : two = key
    · rw [first, second]
    · rw [if_pos first, if_neg second] at same
      exact absurd same.symm (unclaimed two)
    · rw [if_neg first, if_pos second] at same
      exact absurd same (unclaimed one)
    · rw [if_neg first] at proper same
      rw [if_neg second] at same
      exact sound.apart one two proper same
  · intro other
    rw [claims]
    split
    · exact (ThreadHandle.mem_firsts.mp given).2
    · exact sound.within other
  · intro handle member
    obtain ⟨different, earlier⟩ := (sound.single.mem_erase_iff).mp member
    refine ⟨(sound.builders handle earlier).1, fun other => ?_⟩
    rw [claims]
    split
    · exact Ne.symm different
    · exact (sound.builders handle earlier).2 other
  · intro other party' made
    by_cases same : other = key
    · simp only [put, if_pos same, Option.some.injEq] at made
      subst made
      refine ⟨same ▸ present, stable, (ThreadHandle.mem_firsts.mp given).1, ?_⟩
      rw [same, fresh]
      exact unbound
    · simp only [put, if_neg same] at made
      exact sound.parties other party' made

private theorem Sound.kept (sound : society.Sound issued) {party next : Party} {effects : List Effect}
    (made : society.party key = some party) (aside : party.Aside next effects) :
    Sound (society.put key next) issued := by
  have claims : ∀ other, claim (society.put key next) other = society.claim other := by
    intro other
    by_cases same : other = key
    · simp [claim, put, same, made, aside.handle]
    · simp [claim, put, same]
  refine ⟨sound.issued, ?_, ?_, ?_, sound.single, ?_, sound.absent⟩
  · simpa only [claims] using sound.apart
  · intro other
    rw [claims]
    exact sound.within other
  · intro handle member
    refine ⟨(sound.builders handle member).1, fun other => ?_⟩
    rw [claims]
    exact (sound.builders handle member).2 other
  · intro other party' known
    by_cases same : other = key
    · simp only [put, if_pos same, Option.some.injEq] at known
      subst known
      obtain ⟨present, stable, proper, bound⟩ := sound.parties key party made
      rw [aside.handle, aside.entered, same]
      exact ⟨present, aside.sound stable, proper, bound⟩
    · simp only [put, if_neg same] at known
      exact sound.parties other party' known

private theorem Sound.entered (sound : society.Sound issued) {party next : Party}
    (made : society.party key = some party)
    (handle : next.handle = party.handle) (entered : next.hasEntered = true) (stable : party.Sound → next.Sound)
    (handles : kernel.handles = society.kernel.handles) (threads : kernel.threads = society.kernel.threads)
    (bound : kernel.bound = fun other => if other = key then party.handle else society.kernel.bound other) :
    Sound ({ society with kernel }.put key next) issued := by
  have claims : ∀ other, claim ({ society with kernel }.put key next) other = society.claim other := by
    intro other
    by_cases same : other = key
    · simp [claim, put, same, made, handle]
    · simp [claim, put, same, bound]
  obtain ⟨present, whole, proper, _⟩ := sound.parties key party made
  refine ⟨?_, ?_, ?_, ?_, sound.single, ?_, ?_⟩
  · simpa only [handles, put] using sound.issued
  · simpa only [claims] using sound.apart
  · intro other
    rw [claims]
    exact handles ▸ sound.within other
  · intro handle member
    refine ⟨handles ▸ (sound.builders handle member).1, fun other => ?_⟩
    rw [claims]
    exact (sound.builders handle member).2 other
  · intro other party' known
    by_cases same : other = key
    · simp only [put, if_pos same, Option.some.injEq] at known
      subst known
      simp only [put, same, threads, handle, bound, entered, if_true]
      exact ⟨present, stable whole, proper, trivial⟩
    · simp only [put, if_neg same] at known
      simp only [put, threads, bound, if_neg same]
      exact sound.parties other party' known
  · intro other above
    simp only [put, threads] at above
    have different : other ≠ key := fun same => absurd present (Nat.not_lt.mpr (same ▸ above))
    simp only [put, bound, if_neg different]
    exact sound.absent other above

private theorem Sound.changed (sound : society.Sound issued) {party next : Party} {effects : List Effect}
    (made : society.party key = some party) (change : party.Change next effects)
    (handles : kernel.handles = society.kernel.handles) (bound : kernel.bound = society.kernel.bound)
    (threads : kernel.threads = society.kernel.threads) :
    Sound ({ society with kernel := kernel.carryOutAll key effects }.put key next) issued := by
  obtain ⟨present, stable, proper, held⟩ := sound.parties key party made
  cases change with
  | aside before aside =>
    have named := kernel.carryOutAll_named key aside.plain
    obtain ⟨handles', bound'⟩ := named.of_bound (by rw [bound, held, before]; exact proper)
    have framed : Sound { society with kernel := kernel.carryOutAll key effects } issued :=
      sound.framed (handles'.trans handles) (bound'.trans bound) (Nat.le_of_eq (named.threads.trans threads).symm)
    exact framed.kept made aside
  | entering handle before entered stable binding =>
    obtain ⟨rest, rfl, plain⟩ := binding
    obtain ⟨handles', threads', bound'⟩ := kernel.carryOutAll_binding key proper plain
    exact sound.entered made handle entered stable (handles'.trans handles) (threads'.trans threads)
      (bound'.trans (by rw [bound]))

private theorem Sound.made {σ π ρ υ : Type} {task : Task σ π ρ υ} (sound : society.Sound issued)
    (handles : kernel.handles = society.kernel.handles + 1) (bound : kernel.bound = society.kernel.bound)
    (threads : kernel.threads = society.kernel.threads + 1) (native : key = society.kernel.threads)
    (handle : task.life.handle = ⟨society.kernel.handles + 1⟩) (idle : task.place = .idle) :
    Sound ({ society with kernel }.put key (.ofTask task)) (issued ++ [⟨society.kernel.handles + 1⟩]) := by
  have prepared : Sound { society with
      kernel := society.kernel.allocateHandle.2
      builders := society.builders ++ [⟨society.kernel.handles + 1⟩] } _ := sound.prepared rfl rfl rfl
  have grown : Sound { society with kernel, builders := society.builders ++ [⟨society.kernel.handles + 1⟩] } _ :=
    prepared.framed handles bound (threads ▸ Nat.le_succ _)
  -- The handle was only with a builder for as long as it took to make the task.
  have unknown : (⟨society.kernel.handles + 1⟩ : ThreadHandle) ∉ society.builders := by
    intro member
    have within := (ThreadHandle.mem_firsts.mp (sound.builders _ member).1).2
    exact absurd within (Nat.not_succ_le_self _)
  have spent : (society.builders ++ [(⟨society.kernel.handles + 1⟩ : ThreadHandle)]).erase
      (Party.ofTask task).handle = society.builders := by
    simp [Party.handle, handle, List.erase_append_right _ unknown]
  have joined : Sound ({ society with
      kernel
      builders := (society.builders ++ [(⟨society.kernel.handles + 1⟩ : ThreadHandle)]).erase
        (Party.ofTask task).handle }.put key (.ofTask task)) _ :=
    grown.joined (by simp [Party.handle, handle]) (by simp [Party.hasEntered, idle, Task.Place.hasEntered]) trivial
      (by simp [native, threads]) (bound ▸ sound.absent key (Nat.le_of_eq native.symm))
  rw [spent] at joined
  exact joined

theorem Sound.step (sound : society.Sound issued) (step : society.Step more after) :
    after.Sound (issued ++ more) := by
  cases step with
  | appeared =>
    rw [List.append_nil]
    exact sound.framed rfl rfl (Nat.le_succ _)
  | passed now =>
    rw [List.append_nil]
    exact sound.framed rfl rfl (Nat.le_refl _)
  | allocated =>
    have prepared : Sound { society with
        kernel := society.kernel.allocateHandle.2
        builders := society.builders ++ [⟨society.kernel.handles + 1⟩] } _ := sound.prepared rfl rfl rfl
    exact prepared.discarded (List.sublist_append_left _ _)
  | prepared => exact sound.prepared rfl rfl rfl
  | built thread acting handle prepared name stackSize priority body state life built =>
    have configured := sound.acted acting (society.kernel.readConfig_named thread)
    have grown : Sound { society with kernel := (society.kernel.readConfig thread).2.newThread.2 } _ :=
      configured.framed rfl rfl (Nat.le_succ _)
    have named := Lifecycle.build_handle built
    subst named
    exact grown.joined prepared rfl (fun _ => rfl) (Nat.lt_succ_self _) (configured.absent _ (Nat.le_refl _))
  | unbuilt thread acting handle =>
    exact (sound.acted acting (society.kernel.readConfig_named thread)).discarded List.erase_sublist
  | made thread acting settings handler state host made =>
    obtain ⟨native, handles, bound, threads, handle, idle⟩ := Task.Host.create_ok made
    have configured := sound.acted acting (society.kernel.readConfig_named thread)
    rw [← List.append_assoc, handle]
    exact configured.made handles bound threads native handle idle
  | unmade thread acting settings handler state failure refused =>
    obtain ⟨handles, bound, threads⟩ := Task.Host.create_error refused
    have configured := sound.acted acting (society.kernel.readConfig_named thread)
    rw [← List.append_assoc]
    have prepared := configured.prepared handles bound threads
    exact prepared.discarded (List.sublist_append_left _ _)
  | asked thread acting => exact sound.acted acting (society.kernel.identify_named thread)
  | compared thread acting handle => exact sound.acted acting (society.kernel.isCurrent_named thread handle)
  | accessed thread acting access => exact sound.acted acting (society.kernel.logAccess_named thread access)
  | consulted thread acting => exact sound.acted acting (society.kernel.readConfig_named thread)
  | configured config kernel installed =>
    obtain ⟨handles, bound, threads⟩ := Kernel.setConfig_same installed
    rw [List.append_nil]
    exact sound.framed handles bound (Nat.le_of_eq threads.symm)
  | initialized thread acting => exact sound.acted acting (society.kernel.start_named thread)
  | treated thread acting key own known deed =>
    have aside := Thread.deed_aside (sound.parties key _ known).2.1 deed
    exact (sound.acted acting (society.kernel.carryOutAll_named thread aside.plain)).kept known aside
  | ran key own after effects known stepped =>
    rw [List.append_nil]
    exact sound.changed known (Thread.step?_change (sound.parties key _ known).2.1 stepped) rfl rfl rfl
  | worked key task known move elsewhere acting =>
    cases serves : move.isServe with
    | false =>
      have aside := Task.Host.move_aside ⟨society.kernel, key, task⟩ serves
      cases actor : move.actor? with
      | none =>
        obtain ⟨handles, bound, threads⟩ :=
          Task.Host.move_kept ⟨society.kernel, key, task⟩ actor serves elsewhere
        have framed : Sound { society with kernel := _ } _ :=
          sound.framed handles bound (Nat.le_of_eq threads.symm)
        rw [Option.elim_none, List.append_nil]
        exact framed.kept known aside
      | some thread =>
        have named := Task.Host.move_named ⟨society.kernel, key, task⟩ actor
        exact (sound.acted (acting thread actor) named).kept known aside
    | true =>
      obtain rfl := Task.Host.Move.eq_serve serves
      rw [Task.Host.Move.actor?, Option.elim_none, List.append_nil]
      rcases Task.Host.serve_cases ⟨society.kernel, key, task⟩ with rests | ⟨progress, stepped, moved⟩
      · rw [rests]
        exact sound.kept known (.refl _)
      · rw [moved]
        exact sound.changed known (Task.step?_change stepped) rfl rfl rfl

private theorem Sound.changed_lasts (sound : society.Sound issued) {party next : Party} {effects : List Effect}
    (made : society.party key = some party) (change : party.Change next effects)
    (bound : kernel.bound = society.kernel.bound) : society.kernel.Lasts (kernel.carryOutAll key effects) := by
  obtain ⟨_, _, proper, held⟩ := sound.parties key party made
  cases change with
  | aside before aside => exact (Kernel.Lasts.of_same bound).trans (kernel.carryOutAll_named key aside.plain).lasts
  | entering handle before entered stable binding =>
    obtain ⟨rest, rfl, plain⟩ := binding
    obtain ⟨_, _, bound'⟩ := kernel.carryOutAll_binding key proper plain
    intro other some
    have different : other ≠ key := fun same => by
      rw [same, held, before] at some
      cases some
    simp only [bound', if_neg different, bound]

private theorem Sound.lasts (sound : society.Sound issued) (step : society.Step more after) :
    society.kernel.Lasts after.kernel := by
  cases step with
  | appeared | passed | allocated | prepared => exact .of_same rfl
  | built thread =>
    exact (society.kernel.readConfig_named thread).lasts.trans (.of_same rfl)
  | unbuilt thread => exact (society.kernel.readConfig_named thread).lasts
  | made thread acting settings handler state host made =>
    obtain ⟨_, _, bound, _⟩ := Task.Host.create_ok made
    exact (society.kernel.readConfig_named thread).lasts.trans (.of_same bound)
  | unmade thread acting settings handler state failure refused =>
    obtain ⟨_, bound, _⟩ := Task.Host.create_error refused
    exact (society.kernel.readConfig_named thread).lasts.trans (.of_same bound)
  | asked thread => exact (society.kernel.identify_named thread).lasts
  | compared thread acting handle => exact (society.kernel.isCurrent_named thread handle).lasts
  | accessed thread acting access => exact (society.kernel.logAccess_named thread access).lasts
  | consulted thread => exact (society.kernel.readConfig_named thread).lasts
  | configured config kernel installed => exact .of_same (Kernel.setConfig_same installed).2.1
  | initialized thread => exact (society.kernel.start_named thread).lasts
  | treated thread acting key own known deed =>
    have aside := Thread.deed_aside (sound.parties key _ known).2.1 deed
    exact (society.kernel.carryOutAll_named thread aside.plain).lasts
  | ran key own after effects known stepped =>
    exact sound.changed_lasts known (Thread.step?_change (sound.parties key _ known).2.1 stepped) rfl
  | worked key task known move elsewhere acting =>
    cases serves : move.isServe with
    | false =>
      cases actor : move.actor? with
      | none =>
        obtain ⟨_, bound, _⟩ := Task.Host.move_kept ⟨society.kernel, key, task⟩ actor serves elsewhere
        exact .of_same bound
      | some thread => exact (Task.Host.move_named ⟨society.kernel, key, task⟩ actor).lasts
    | true =>
      obtain rfl := Task.Host.Move.eq_serve serves
      rcases Task.Host.serve_cases ⟨society.kernel, key, task⟩ with rests | ⟨progress, stepped, moved⟩
      · rw [rests]
        exact .of_same rfl
      · rw [moved]
        exact sound.changed_lasts known (Task.step?_change stepped) rfl

private theorem Sound.run (sound : society.Sound issued) (run : society.Run more after) :
    after.Sound (issued ++ more) ∧ society.kernel.Lasts after.kernel := by
  induction run with
  | nil => exact ⟨(List.append_nil issued).symm ▸ sound, .of_same rfl⟩
  | snoc earlier last ih =>
    obtain ⟨before, lasts⟩ := ih
    rw [← List.append_assoc]
    exact ⟨before.step last, lasts.trans (before.lasts last)⟩

/-- What is so of the identities of a program that has given out these handles. -/
structure Told (society : Society) (issued : List ThreadHandle) : Prop where
  complete : issued.length = society.kernel.handles
  proper : ∀ handle ∈ issued, handle.isSome = true
  distinct : issued.Nodup
  -- Their words are distinct and not zero either, as long as there are words enough.
  words : society.kernel.handles < UInt64.size →
    (issued.map fun handle => UInt64.ofNat handle.number).Nodup ∧
      0 ∉ issued.map fun handle => UInt64.ofNat handle.number
  lasting : ∀ thread, society.Acting thread → ∀ more later,
    Run { society with kernel := (society.kernel.identify thread).2 } more later →
      (later.kernel.identify thread).1 = (society.kernel.identify thread).1
  apart : ∀ one two, society.Acting one → society.Acting two → one ≠ two →
    (society.kernel.identify one).1 ≠ ((society.kernel.identify one).2.identify two).1
  own : ∀ key party, society.party key = some party → society.Acting key →
    society.kernel.identify key = (party.handle, society.kernel)
  -- A call of a task is refused as its own to the thread of the task and to nobody else, and then it changes
  -- nothing of the task.
  call : ∀ {σ π ρ υ : Type} (key : ThreadKey) (task : Task σ π ρ υ),
    society.party key = some (.ofTask task) → ∀ thread, society.Acting thread → ∀ message timeout,
      let answer := Task.Host.call ⟨society.kernel, key, task⟩ thread message timeout
      ((∃ failure, answer.1 = .error failure ∧ failure.kind = .selfDeadlock) ↔ thread = key) ∧
        (thread = key → answer.2.task = task)
  wait : ∀ {σ π ρ υ : Type} (task : Task σ π ρ υ) now given message timeout, ∃ failure effects,
    task.serve now given (.waitSelf message timeout) = .answered failure ⟨task, given, effects⟩ ∧
      failure.kind = .selfDeadlock

private theorem word_toNat {number count : Nat} (within : number ≤ count) (enough : count < UInt64.size) :
    (UInt64.ofNat number).toNat = number :=
  UInt64.toNat_ofNat_of_lt' (Nat.lt_of_le_of_lt within enough)

private theorem words_nodup {count : Nat} (enough : count < UInt64.size) :
    ((ThreadHandle.firsts count).map fun handle => UInt64.ofNat handle.number).Nodup := by
  refine List.pairwise_map.mpr (List.Pairwise.imp_of_mem ?_ (ThreadHandle.firsts_nodup count))
  intro one two first second different same
  have numbers := congrArg UInt64.toNat same
  rw [word_toNat (ThreadHandle.mem_firsts.mp first).2 enough,
    word_toNat (ThreadHandle.mem_firsts.mp second).2 enough] at numbers
  exact different (congrArg ThreadHandle.mk numbers)

private theorem words_proper {count : Nat} (enough : count < UInt64.size) :
    0 ∉ (ThreadHandle.firsts count).map fun handle => UInt64.ofNat handle.number := by
  intro member
  obtain ⟨handle, given, zero⟩ := List.mem_map.mp member
  obtain ⟨proper, within⟩ := ThreadHandle.mem_firsts.mp given
  have number : handle.number = 0 := by
    rw [← word_toNat within enough, zero]
    rfl
  simp [ThreadHandle.isSome, number] at proper

private theorem Sound.told (sound : society.Sound issued) (acting : society.Acting thread) {other : ThreadKey}
    (same : (society.kernel.identify thread).1 = claim
      { society with kernel := (society.kernel.identify thread).2 } other) : thread = other := by
  have named := society.kernel.identify_named thread
  have after := sound.acted acting named
  have present : Acting { society with kernel := (society.kernel.identify thread).2 } thread :=
    ⟨Nat.lt_of_lt_of_eq acting.present named.threads.symm, acting.entered⟩
  have claimed := after.claim_of_acting present
  have told := society.kernel.identify_fst thread
  refine after.apart thread other ?_ ?_
  · rw [claimed, ← told]
    exact society.kernel.identify_isSome thread
  · rw [claimed, ← same]
    exact told.symm

private theorem Sound.own (sound : society.Sound issued) {party : Party} (made : society.party key = some party)
    (acting : society.Acting key) : society.kernel.identify key = (party.handle, society.kernel) := by
  obtain ⟨proper, bound⟩ := sound.bound_of_acting acting made
  rw [Kernel.identify_of_bound proper, bound]

theorem Sound.isCurrent_iff (sound : society.Sound issued) (acting : society.Acting thread) {party : Party}
    (made : society.party key = some party) :
    (society.kernel.isCurrent thread party.handle).1 = true ↔ thread = key := by
  obtain ⟨_, _, proper, _⟩ := sound.parties key party made
  have claimed : claim { society with kernel := (society.kernel.identify thread).2 } key = party.handle := by
    simp [claim, made]
  simp only [Kernel.isCurrent, proper, if_true, decide_eq_true_eq]
  constructor
  · intro same
    exact sound.told acting (same.symm.trans claimed.symm)
  · rintro rfl
    rw [sound.own made acting]

private theorem Sound.call (sound : society.Sound issued) {σ π ρ υ : Type} {task : Task σ π ρ υ}
    (made : society.party key = some (.ofTask task)) (acting : society.Acting thread) (message : Message π)
    (timeout : Option Delay) :
    ((∃ failure, (Task.Host.call ⟨society.kernel, key, task⟩ thread message timeout).1 = .error failure ∧
        failure.kind = .selfDeadlock) ↔ thread = key) ∧
      (thread = key → (Task.Host.call ⟨society.kernel, key, task⟩ thread message timeout).2.task = task) := by
  have current : (society.kernel.isCurrent thread task.life.handle).1 = true ↔ thread = key :=
    sound.isCurrent_iff acting made
  simp only [Task.Host.call]
  generalize society.kernel.isCurrent thread task.life.handle = answer at current
  obtain ⟨answer, kernel⟩ := answer
  cases answer with
  | true =>
    have same := current.mp rfl
    exact ⟨⟨fun _ => same, fun _ => ⟨_, rfl, rfl⟩⟩, fun _ => rfl⟩
  | false =>
    have different : thread ≠ key := fun same => by cases current.mpr same
    refine ⟨⟨?_, fun same => absurd same different⟩, fun same => absurd same different⟩
    rintro ⟨failure, refused, kind⟩
    rcases task.exchange.call_cases message.priority (.deliver message)
      (timeout.map (Clock.deadline kernel.now)) 0 with ⟨_, called⟩ | ⟨_, called⟩
    · simp only [called, Except.error.injEq] at refused
      subst refused
      cases kind
    · simp only [called] at refused
      cases refused

private theorem Sound.lasting (sound : society.Sound issued) (acting : society.Acting thread) {later : Society}
    (run : Run { society with kernel := (society.kernel.identify thread).2 } more later) :
    (later.kernel.identify thread).1 = (society.kernel.identify thread).1 := by
  have asked := sound.acted acting (society.kernel.identify_named thread)
  have told := society.kernel.identify_fst thread
  have proper : ((society.kernel.identify thread).2.bound thread).isSome = true :=
    told ▸ society.kernel.identify_isSome thread
  have same := (asked.run run).2 thread proper
  rw [Kernel.identify_of_bound (same ▸ proper), same, told]

private theorem Sound.distinguished (sound : society.Sound issued) {one two : ThreadKey} (first : society.Acting one)
    (second : society.Acting two) (different : one ≠ two) :
    (society.kernel.identify one).1 ≠ ((society.kernel.identify one).2.identify two).1 := by
  have named := society.kernel.identify_named one
  have asked := sound.acted first named
  have present : Acting { society with kernel := (society.kernel.identify one).2 } two :=
    ⟨Nat.lt_of_lt_of_eq second.present named.threads.symm, second.entered⟩
  have lasting : ((society.kernel.identify one).2.identify two).2.bound one =
      (society.kernel.identify one).1 := by
    have told := society.kernel.identify_fst one
    rw [told]
    exact (Kernel.identify_named _ two).lasts one (told ▸ society.kernel.identify_isSome one)
  intro same
  have later := Kernel.identify_named (society.kernel.identify one).2 two
  have both : Acting { society with kernel := ((society.kernel.identify one).2.identify two).2 } one :=
    ⟨Nat.lt_of_lt_of_eq first.present (later.threads.trans named.threads).symm, first.entered⟩
  refine different (asked.told present ?_).symm
  exact same.symm.trans (lasting.symm.trans ((asked.acted present later).claim_of_acting both).symm)

private theorem Sound.tell (sound : society.Sound issued) : society.Told issued := by
  refine ⟨?_, ?_, ?_, ?_, ?_, ?_, ?_, ?_, ?_⟩
  · rw [sound.issued, ThreadHandle.length_firsts]
  · intro handle member
    rw [sound.issued] at member
    exact (ThreadHandle.mem_firsts.mp member).1
  · rw [sound.issued]
    exact ThreadHandle.firsts_nodup _
  · intro enough
    rw [sound.issued]
    exact ⟨words_nodup enough, words_proper enough⟩
  · exact fun thread acting more later run => sound.lasting acting run
  · exact fun one two first second different => sound.distinguished first second different
  · exact fun key party made acting => sound.own made acting
  · exact fun key task made thread acting message timeout => sound.call made acting message timeout
  · exact fun task now given message timeout => ⟨_, _, rfl, rfl⟩

/-- Every program tells its threads apart, whatever happens in it and in whatever order. -/
theorem every_society_tells_its_threads_apart {environment : Environment} {now : Instant} {society : Society}
    {issued : List ThreadHandle} (run : (fresh environment now).Run issued society) : society.Told issued :=
  ((fresh_sound environment now).run run).1.tell

/-- A foreign thread makes a task before it asks who it is, and another one needs its identity for a record. -/
theorem foreign_threads_told_apart : ∃ issued society,
    (fresh Environment.empty .zero).Run issued society ∧ society.Told issued ∧ issued = [⟨1⟩, ⟨2⟩, ⟨3⟩] ∧
      society.Acting 0 ∧ (society.kernel.identify 0).1 = ⟨2⟩ ∧
      society.Acting 2 ∧ (society.kernel.identify 2).1 = ⟨3⟩ := by
  let settings : Task.Settings Unit := ⟨some "served", none, none, .normal, none, none⟩
  let handler : Handler Unit Unit Unit Unit := ⟨.done (), fun _ => .done none, .done ()⟩
  have appeared : (fresh Environment.empty .zero).Run _ _ := .snoc .nil .appeared
  have made := Run.snoc appeared (.made 0 (.of_foreign (by decide) rfl) settings handler () _ rfl)
  have joined := Run.snoc made .appeared
  have asked := Run.snoc joined (.asked 0 (.of_foreign (by decide) rfl))
  have recorded := Run.snoc asked (.accessed 2 (.of_foreign (by decide) rfl) .identify)
  exact ⟨_, _, recorded, every_society_tells_its_threads_apart recorded, rfl, .of_foreign (by decide) rfl, rfl,
    .of_foreign (by decide) rfl, rfl⟩

end Society

end TaskKernel
