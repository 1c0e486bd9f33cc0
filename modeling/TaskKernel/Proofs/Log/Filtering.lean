import TaskKernel.Proofs.Thread.Naming

/-!
What the calls of a log write. Text without a record is always written, and a record when its level is at most the
threshold in force; a record that does not pass leaves no trace. The settings in force are those that the
environment asks for at the first call, as the calls change them. A record without a level passes every threshold.
-/
namespace TaskKernel.Log

private theorem Level.off_le (threshold : Level) : off ≤ threshold := UInt8.zero_le

private theorem Level.not_le_off {level : Level} (levelled : level ≠ off) : ¬ level ≤ off := by
  cases level with
  | off => exact absurd rfl levelled
  | error | warn | info | debug | trace => decide

/-- What a thread asks of the log. -/
inductive Call
  | setThreshold (level : Level)
  | setFlush (on : Bool)
  | setShowTime (on : Bool)
  | print (text : String)
  | printLine (text : String)
  | record (level : Level) (text : String)

namespace Call

def program : Call → Program Unit
  | setThreshold level => Log.setThreshold level
  | setFlush on => Log.setFlush on
  | setShowTime on => Log.setShowTime on
  | print text => Log.print text
  | printLine text => Log.print (text ++ "\n")
  | record level text => Log.record level text

/-- What a call makes of the settings in force. -/
def change (settings : Settings) : Call → Settings
  | setThreshold threshold => { settings with threshold }
  | setFlush flush => { settings with flush }
  | setShowTime showTime => { settings with showTime }
  | print _ | printLine _ | record .. => settings

end Call

/-- What happens to the log of a program and to the identities of its threads. A handle is given out to a
thread that has yet to start, and it starts with that handle. -/
inductive Event
  | called (thread : ThreadKey) (call : Call)
  | passed (now : Instant)
  | varied (environment : Environment)
  | allocated
  | entered (thread : ThreadKey) (handle : ThreadHandle)

/-- What a log goes by: the settings in force and when it has begun. It has none of its own before the first
call. -/
structure Standing where
  environment : Environment
  now : Instant
  begun : Option (Settings × Instant)

namespace Standing

def fresh (environment : Environment) (now : Instant) : Standing := ⟨environment, now, none⟩

/-- The settings in force at a call. -/
def inForce (standing : Standing) : Settings :=
  (standing.begun.map (·.1)).getD (Settings.ofEnvironment standing.environment)

def beginning (standing : Standing) : Instant := (standing.begun.map (·.2)).getD standing.now

/-- The milliseconds that a record begins with. -/
def elapsed? (standing : Standing) : Option Nat :=
  if standing.inForce.showTime then some ((standing.now.since standing.beginning).toNanos / 1000000) else none

/-- The log is begun if it has not been. -/
def opened (standing : Standing) : Standing :=
  { standing with begun := some (standing.inForce, standing.beginning) }

def after (standing : Standing) : Event → Standing
  | .called _ call => { standing with begun := some (call.change standing.inForce, standing.beginning) }
  | .passed now => { standing with now }
  | .varied environment => { standing with environment }
  | .allocated | .entered .. => standing

/-- The pieces that an event writes, where `names` tells the identity of each thread. -/
def writes (standing : Standing) (names : ThreadKey → ThreadHandle) : Event → List Output
  | .called _ (.print text) => [.plain text]
  | .called _ (.printLine text) => [.plain (text ++ "\n")]
  | .called thread (.record level text) =>
    if level ≤ standing.inForce.threshold then [.record standing.elapsed? level (names thread) text] else []
  | .called _ (.setThreshold _) | .called _ (.setFlush _) | .called _ (.setShowTime _) | .passed _ | .varied _
  | .allocated | .entered .. => []

/-- The standing after some events. -/
def afterAll (standing : Standing) (list : List Event) : Standing := list.foldl after standing

/-- The pieces that some events write, in their order. -/
def writesAll (standing : Standing) (names : ThreadKey → ThreadHandle) : List Event → List Output
  | [] => []
  | event :: rest => standing.writes names event ++ (standing.after event).writesAll names rest

/-- The cells of a log that stands so. -/
def cells (standing : Standing) : Cells :=
  match standing.begun with
  | none => Cells.fresh
  | some (settings, beginning) => ⟨true, settings.flush, settings.showTime, settings.threshold, some beginning⟩

end Standing

end TaskKernel.Log

namespace TaskKernel.Kernel

open Log

/-- Let something happen to the log. -/
def logEvent (kernel : Kernel) : Event → Kernel
  | .called thread call => (kernel.perform thread call.program).2
  | .passed now => { kernel with now }
  | .varied environment => { kernel with environment }
  | .allocated => kernel.allocateHandle.2
  | .entered thread handle => if (kernel.bound thread).isSome then kernel else kernel.bindHandle thread handle

def logEvents (kernel : Kernel) (list : List Event) : Kernel := list.foldl logEvent kernel

/-- A kernel whose log stands so. -/
structure Logs (kernel : Kernel) (standing : Standing) : Prop where
  environment : kernel.environment = standing.environment
  now : kernel.now = standing.now
  cells : kernel.log = standing.cells

variable {kernel : Kernel} {standing : Standing} {thread : ThreadKey} {level : Level} {text : String}

private theorem Logs.perform_threshold (logs : kernel.Logs standing) (thread : ThreadKey) :
    kernel.perform thread Log.threshold =
      (standing.inForce.threshold, { kernel with log := standing.opened.cells }) := by
  obtain ⟨environment, now, begun⟩ := standing
  obtain ⟨rfl, rfl, cells⟩ := logs
  cases begun <;> (cases kernel; cases cells; rfl)

private theorem Logs.perform_enabled (logs : kernel.Logs standing) (thread : ThreadKey) (level : Level) :
    kernel.perform thread (Log.enabled level) =
      (decide (level ≤ standing.inForce.threshold), { kernel with log := standing.opened.cells }) := by
  have opened : kernel.perform thread (Log.enabled level) = _ :=
    Script.run_bind (logAccess thread) Log.threshold _ kernel
  rw [opened]
  have limit := logs.perform_threshold thread
  rw [perform] at limit
  rw [limit]
  rfl

/-- The end of a record that passes, when its writer is known. -/
def recording (level : Level) (writer : ThreadHandle) (text : String) : Program Unit :=
  (Script.call (Access.writeRecord level writer text)).bind fun _ => Log.flushing.bind fun _ => .done ()

private theorem Logs.perform_passes (logs : kernel.Logs standing) (thread : ThreadKey) (level : Level)
    (text : String) :
    kernel.perform thread (Log.record level text) =
      Kernel.perform { kernel with log := standing.opened.cells } thread
        (if level ≤ standing.inForce.threshold then
          (Script.call Access.identify).bind fun writer => recording level writer text
        else .done ()) := by
  have opened : kernel.perform thread (Log.record level text) = _ :=
    Script.run_bind (logAccess thread) (Log.enabled level) _ kernel
  have passes := logs.perform_enabled thread level
  rw [perform] at passes
  rw [opened, passes]
  simp only [decide_eq_true_eq]
  rfl

private theorem Logs.perform_filtered (logs : kernel.Logs standing) (low : ¬ level ≤ standing.inForce.threshold)
    (thread : ThreadKey) (text : String) :
    (kernel.perform thread (Log.record level text)).2 = { kernel with log := standing.opened.cells } := by
  rw [logs.perform_passes, if_neg low]
  rfl

theorem writeRecord_eq (now : kernel.now = standing.now) (cells : kernel.log = standing.opened.cells)
    (thread : ThreadKey) (level : Level) (writer : ThreadHandle) (text : String) :
    logAccess thread (.writeRecord level writer text) kernel =
      ((), { kernel with written := .record standing.elapsed? level writer text :: kernel.written }) := by
  cases kernel
  cases now
  cases cells
  cases shown : standing.inForce.showTime <;> simp only [logAccess, Standing.elapsed?, shown]
  · rfl
  · rfl

private theorem perform_recording (now : kernel.now = standing.now) (cells : kernel.log = standing.opened.cells)
    (thread : ThreadKey) (level : Level) (writer : ThreadHandle) (text : String) :
    (kernel.perform thread (recording level writer text)).2 =
      { kernel with written := .record standing.elapsed? level writer text :: kernel.written } := by
  show (Kernel.perform (logAccess thread (.writeRecord level writer text) kernel).2 thread
    (Log.flushing.bind fun _ => .done ())).2 = _
  rw [writeRecord_eq now cells]
  cases kernel
  cases cells
  rfl

private theorem identify_log (kernel : Kernel) (thread : ThreadKey) (log : Cells) :
    { kernel with log }.identify thread = ((kernel.identify thread).1, { (kernel.identify thread).2 with log }) := by
  unfold identify
  split <;> rfl

private theorem identify_written (kernel : Kernel) (thread : ThreadKey) :
    (kernel.identify thread).2.written = kernel.written := by
  unfold identify
  split <;> rfl

private theorem Logs.perform_record (logs : kernel.Logs standing) (passing : level ≤ standing.inForce.threshold)
    (thread : ThreadKey) (text : String) :
    (kernel.perform thread (Log.record level text)).2 = { (kernel.identify thread).2 with
      log := standing.opened.cells
      written := .record standing.elapsed? level (kernel.identify thread).1 text :: kernel.written } := by
  rw [logs.perform_passes, if_pos passing]
  show (Kernel.perform ({ kernel with log := standing.opened.cells }.identify thread).2 thread
    (recording level ({ kernel with log := standing.opened.cells }.identify thread).1 text)).2 = _
  rw [identify_log, ← identify_written kernel thread]
  let named : Kernel := { (kernel.identify thread).2 with log := standing.opened.cells }
  have now : named.now = standing.now := (identify_still kernel thread).now.trans logs.now
  exact perform_recording now rfl thread level (kernel.identify thread).1 text

private theorem Logs.perform_anonymous (logs : kernel.Logs standing) (thread : ThreadKey) {call : Log.Call}
    (anonymous : ∀ level text, call ≠ .record level text) (names : ThreadKey → ThreadHandle) :
    (kernel.perform thread call.program).2 = { kernel with
      log := (standing.after (.called thread call)).cells
      written := standing.writes names (.called thread call) ++ kernel.written } := by
  obtain ⟨environment, now, begun⟩ := standing
  obtain ⟨rfl, rfl, cells⟩ := logs
  cases call with
  | setThreshold | setFlush | setShowTime | print | printLine =>
    cases begun <;> (cases kernel; cases cells; rfl)
  | record level text => exact absurd rfl (anonymous level text)

/-- What an event comes to: the settings in force and the pieces written are as they should be, and a record is
signed by a thread with an identity, which lasts. -/
structure Writes (kernel : Kernel) (standing : Standing) (event : Event) (after : Kernel) : Prop where
  logs : after.Logs (standing.after event)
  outputs : after.outputs = kernel.outputs ++ standing.writes after.bound event
  signed : ∀ thread level text, event = .called thread (.record level text) →
    level ≤ standing.inForce.threshold → (after.bound thread).isSome = true
  lasts : kernel.Lasts after

private theorem Logs.writes_anonymous (logs : kernel.Logs standing) (thread : ThreadKey) {call : Log.Call}
    (anonymous : ∀ level text, call ≠ .record level text) :
    kernel.Writes standing (.called thread call) (kernel.perform thread call.program).2 := by
  have single (names : ThreadKey → ThreadHandle) : (standing.writes names (.called thread call)).reverse =
      standing.writes names (.called thread call) := by
    cases call with
    | setThreshold | setFlush | setShowTime | print | printLine => rfl
    | record level text => exact absurd rfl (anonymous level text)
  rw [logs.perform_anonymous thread anonymous kernel.bound]
  refine ⟨⟨logs.environment, logs.now, rfl⟩, ?_, ?_, .of_same rfl⟩
  · simp only [Kernel.outputs, List.reverse_append, single]
  · rintro _ level text ⟨⟩
    exact absurd rfl (anonymous level text)

private theorem Logs.writes_record (logs : kernel.Logs standing) (thread : ThreadKey) (level : Level) (text : String) :
    kernel.Writes standing (.called thread (.record level text)) (kernel.record thread level text) := by
  rw [record]
  by_cases passing : level ≤ standing.inForce.threshold
  · have still := identify_still kernel thread
    rw [logs.perform_record passing]
    refine ⟨⟨still.environment.trans logs.environment, still.now.trans logs.now, rfl⟩, ?_, ?_,
      (identify_named kernel thread).lasts⟩
    · simp [Kernel.outputs, Standing.writes, passing, identify_fst]
    · rintro _ _ _ ⟨⟩ -
      simpa [← identify_fst] using identify_isSome kernel thread
  · rw [logs.perform_filtered passing]
    refine ⟨⟨logs.environment, logs.now, rfl⟩, ?_, ?_, .of_same rfl⟩
    · simp [Kernel.outputs, Standing.writes, passing]
    · rintro _ _ _ ⟨⟩ low
      exact absurd low passing

private theorem Logs.writes_event (logs : kernel.Logs standing) (event : Event) :
    kernel.Writes standing event (kernel.logEvent event) := by
  cases event with
  | called thread call =>
    cases call with
    | setThreshold | setFlush | setShowTime | print | printLine => exact logs.writes_anonymous thread nofun
    | record level text => exact logs.writes_record thread level text
  | passed now => exact ⟨⟨logs.environment, rfl, logs.cells⟩, (List.append_nil _).symm, nofun, .of_same rfl⟩
  | varied environment => exact ⟨⟨rfl, logs.now, logs.cells⟩, (List.append_nil _).symm, nofun, .of_same rfl⟩
  | allocated =>
    exact ⟨⟨logs.environment, logs.now, logs.cells⟩, (List.append_nil _).symm, nofun, .of_same rfl⟩
  | entered thread handle =>
    rw [logEvent]
    split
    · exact ⟨logs, (List.append_nil _).symm, nofun, .of_same rfl⟩
    · rename_i unbound
      refine ⟨⟨logs.environment, logs.now, logs.cells⟩, (List.append_nil _).symm, nofun, fun key some => ?_⟩
      have other : key ≠ thread := fun same => unbound (same ▸ some)
      simp only [bindHandle, if_neg other]

private theorem Writes.writes_later {event : Event} {after later : Kernel} (writes : kernel.Writes standing event after)
    (lasts : after.Lasts later) : standing.writes later.bound event = standing.writes after.bound event := by
  cases event with
  | called thread call =>
    cases call with
    | setThreshold | setFlush | setShowTime | print | printLine => rfl
    | record level text =>
      simp only [Standing.writes]
      split
      · next passing => rw [lasts thread (writes.signed thread level text rfl passing)]
      · rfl
  | passed | varied | allocated | entered => rfl

private theorem Logs.logEvents_lasts (logs : kernel.Logs standing) (list : List Event) :
    kernel.Lasts (kernel.logEvents list) := by
  induction list generalizing kernel standing with
  | nil => exact .of_same rfl
  | cons event rest ih =>
    have writes := logs.writes_event event
    exact writes.lasts.trans (ih writes.logs)

private theorem Logs.logEvents (logs : kernel.Logs standing) (list : List Event) :
    (kernel.logEvents list).Logs (standing.afterAll list) := by
  induction list generalizing kernel standing with
  | nil => exact logs
  | cons event rest ih => exact ih (logs.writes_event event).logs

private theorem Logs.outputs_logEvents (logs : kernel.Logs standing) (list : List Event) :
    (kernel.logEvents list).outputs =
      kernel.outputs ++ standing.writesAll (kernel.logEvents list).bound list := by
  induction list generalizing kernel standing with
  | nil => exact (List.append_nil _).symm
  | cons event rest ih =>
    have writes := logs.writes_event event
    have later := writes.writes_later (writes.logs.logEvents_lasts rest)
    show ((kernel.logEvent event).logEvents rest).outputs = _
    rw [ih writes.logs, writes.outputs, List.append_assoc, ← later]
    rfl

private theorem Logs.signed_logEvents (logs : kernel.Logs standing) (list : List Event)
    {elapsed : Option Nat} {level : Level} {writer : ThreadHandle} {text : String}
    (written : .record elapsed level writer text ∈ standing.writesAll (kernel.logEvents list).bound list) :
    writer.isSome = true := by
  induction list generalizing kernel standing with
  | nil => cases written
  | cons event rest ih =>
    have writes := logs.writes_event event
    have lasts := writes.logs.logEvents_lasts rest
    rw [Standing.writesAll, List.mem_append] at written
    obtain first | later := written
    · have first' : _ ∈ standing.writes (kernel.logEvent event).bound event := writes.writes_later lasts ▸ first
      cases event with
      | called thread call =>
        cases call with
        | record asked message =>
          simp only [Standing.writes] at first'
          split at first'
          · next passing =>
            obtain ⟨rfl⟩ := List.mem_singleton.mp first'
            exact writes.signed thread level text rfl passing
          · cases first'
        | setThreshold | setFlush | setShowTime => cases first'
        | print | printLine => cases List.mem_singleton.mp first'
      | passed | varied | allocated | entered => cases first'
    · exact ih writes.logs later

/-- How a log that stands so filters, when some pieces have been written. -/
structure Filters (kernel : Kernel) (standing : Standing) (pieces : List Output) : Prop where
  outputs : kernel.outputs = pieces
  signed : ∀ elapsed level writer text, .record elapsed level writer text ∈ pieces → writer.isSome = true
  threshold : ∀ thread, (kernel.perform thread Log.threshold).1 = standing.inForce.threshold
  filtered : ∀ thread level text, ¬ level ≤ standing.inForce.threshold →
    ∃ log, kernel.record thread level text = { kernel with log }
  silent : standing.inForce.threshold = .off → ∀ thread level text, level ≠ .off →
    ∃ log, kernel.record thread level text = { kernel with log }
  -- A record without a level is always written.
  unlevelled : ∀ thread text, (kernel.record thread .off text).outputs =
    kernel.outputs ++ [.record standing.elapsed? .off (kernel.identify thread).1 text]

/-- What is written are the pieces of the calls, each by the settings in force at it. -/
theorem every_log_filtered (environment : Environment) (now : Instant) (list : List Event) :
    ((fresh environment now).logEvents list).Filters ((Standing.fresh environment now).afterAll list)
      ((Standing.fresh environment now).writesAll ((fresh environment now).logEvents list).bound list) := by
  have begins : (fresh environment now).Logs (.fresh environment now) := ⟨rfl, rfl, rfl⟩
  have logs := begins.logEvents list
  exact
    { outputs := begins.outputs_logEvents list
      signed := fun _ _ _ _ => begins.signed_logEvents list
      threshold := fun thread => by rw [logs.perform_threshold]
      filtered := fun thread _ text low => ⟨_, logs.perform_filtered low thread text⟩
      silent := fun off thread _ text levelled =>
        ⟨_, logs.perform_filtered (off ▸ Level.not_le_off levelled) thread text⟩
      unlevelled := fun thread text => by
        rw [record, logs.perform_record (Level.off_le _), Kernel.outputs, List.reverse_cons]
        rfl }

/-- A log whose threshold is off still writes a record without a level. -/
theorem record_without_level_breaks_silence :
    let quiet := (fresh .empty .zero).logEvents [.called 0 (.setThreshold .off)]
    (quiet.perform 0 Log.threshold).1 = .off ∧ quiet.outputs = [] ∧
      (quiet.record 0 .off "off record").outputs = [.record none .off ⟨1⟩ "off record"] := by
  decide

end TaskKernel.Kernel
