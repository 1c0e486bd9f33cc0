import TaskKernel.Demo.Outcome
import TaskKernel.Task.Host

/-!
A task that ticks a number of times and then quits, with one alarm that the main thread adds from
outside. A `Move` is one step of the main thread, of the task or of time.
-/
namespace TaskKernel.Demo

structure Periodic.Ticker where
  started : Instant
  last : Option Instant
  minGap : Option Delay
  ticks : Nat
  alarms : Nat
  lines : List Line

/-- Where the main thread stands. -/
inductive Periodic.Stage
  | beginning
  | committing
  | adding
  | joining
  | ended (failure : Option Refusal)
deriving DecidableEq

structure Periodic where
  host : Task.Host Periodic.Ticker Unit Unit Unit
  main : ThreadKey
  interval : Delay
  stage : Periodic.Stage
  summary : List Line

namespace Periodic

/-- The ticker's schedule; the first setting that is too small is refused. -/
def schedule (millis : UInt64) (count : UInt32) : Except Failure Cadence :=
  if millis = 0 then .error ⟨.settingTooSmall "PERIODIC_MS", .named "schedule"⟩
  else if count = 0 then .error ⟨.settingTooSmall "PERIODIC_COUNT", .named "schedule"⟩
  else .ok ⟨Delay.ofMillis millis, .times count⟩

/-- Write a tick down. -/
def Ticker.note (ticker : Ticker) (now : Instant) (tick : Tick) : Ticker :=
  let gap := ticker.last.map now.since
  { ticker with
    last := some now
    minGap := match ticker.minGap, gap with
      | some least, some gap => some (min least gap)
      | least, gap => least <|> gap
    ticks := ticker.ticks + 1
    lines := ticker.lines ++ [[.text ("tick " ++ Line.alignRight 2 (toString tick.count) ++ " at "),
      .timeColumn (now.since ticker.started)]] }

def handler : Handler Ticker Unit Unit Unit where
  onStart := pure ()
  handle message :=
    match message.kind with
    | .periodic tick => do
      let now ← HandlerCode.ofBody Body.now
      HandlerCode.ofBody (Body.modifyState (·.note now tick))
      if tick.isLast then HandlerCode.request .quit
      pure none
    | _ => pure none
  onExit := pure ()

/-- What the alarm does. -/
def alarm (tick : Tick) : Body Ticker Unit := do
  Body.modifyState fun ticker => { ticker with alarms := ticker.alarms + 1 }
  Body.record .info ("alarm " ++ tick.timer.text ++ " went off")

/-- Three and a half intervals. -/
def alarmDelay (interval : Delay) : Delay := Delay.ofNanos (interval.toNanos * 3 + interval.toNanos / 2)

def header : List Line := [Line.ofText "=== tasker Periodic Example ===", Line.ofText ""]

def footer : List Line := [Line.ofText "", Line.ofText "=== Example Complete ==="]

def settings (periodic : Cadence) : Task.Settings Unit where
  name := some "ticker"
  priority := none
  periodic := some periodic
  tickPriority := .normal
  stackSize := none
  userData := none

/-- The task is made, unless its schedule or the task is refused. -/
def start (environment : Environment) (now : Instant) : Except Outcome Periodic :=
  let (main, fresh) := (Kernel.fresh environment now).newThread
  let kernel := fresh.start main
  let millis := environment.parse Text.Numeral.word64? "PERIODIC_MS" 100
  let count := environment.parse Text.Numeral.word32? "PERIODIC_COUNT" 10
  match schedule millis count with
  | .error failure => .error ⟨some failure, header, kernel⟩
  | .ok periodic =>
    match Task.Host.create kernel main (settings periodic) handler ⟨now, none, none, 0, 0, []⟩ with
    | (.error failure, kernel) => .error ⟨some failure, header, kernel⟩
    | (.ok host, _) => .ok ⟨host, main, periodic.interval, .beginning, []⟩

def summaryLine (interval : Delay) (ticker : Ticker) : Line :=
  let gap : Line := match ticker.minGap with
    | some gap => [.text "Some(", .time gap, .text ")"]
    | none => [.text "None"]
  [.text (toString ticker.ticks ++ " ticks, " ++ toString ticker.alarms ++ " alarm(s), min gap ")] ++ gap ++
    [.text (" (interval " ++ interval.text ++ ")")]

/-- The next step of the main thread, when it can take one. -/
def mainStep? (demo : Periodic) : Option Periodic :=
  match demo.stage with
  | .beginning =>
    match demo.host.begin demo.main false with
    | (some failure, host) => some { demo with host, stage := .ended (some failure) }
    | (none, host) => some { demo with host, stage := .committing }
  | .committing => some { demo with host := demo.host.commit, stage := .adding }
  | .adding =>
    match demo.host.addTimer (alarmDelay demo.interval) .once (.callback alarm) with
    | (.error failure, host) => some { demo with host, stage := .ended (some failure) }
    | (.ok _, host) => some { demo with host, stage := .joining }
  | .joining =>
    match demo.host.join demo.main with
    | (.blocked, _) => none
    | (.refused failure, host) => some { demo with host, stage := .ended (some failure) }
    | (.outcome (.completed ticker), host) =>
      some { demo with
        host
        stage := .ended none
        summary := [Line.ofText "", summaryLine demo.interval ticker] ++ footer }
    | (.outcome _, host) => some { demo with host, stage := .ended none, summary := footer }
  | .ended _ => none

inductive Move
  | main
  | serve
  | rouse
  | expire
  | passTo (now : Instant)

/-- Make a move. A move that cannot be made changes nothing. -/
def move (demo : Periodic) : Move → Periodic
  | .main => demo.mainStep?.getD demo
  | .serve => { demo with host := demo.host.move .serve }
  | .rouse => { demo with host := demo.host.move .rouse }
  | .expire => { demo with host := demo.host.move .expire }
  | .passTo now => { demo with host := demo.host.move (.passTo now) }

def moves (demo : Periodic) (list : List Move) : Periodic := list.foldl move demo

/-- Whether the main thread has ended, and the program with it. -/
def isOver (demo : Periodic) : Bool :=
  match demo.stage with
  | .ended _ => true
  | _ => false

/-- The ticks are printed as they come, between the header and the summary. -/
def outcome (demo : Periodic) : Outcome :=
  let failure := match demo.stage with
    | .ended failure => failure
    | _ => none
  ⟨failure, header ++ demo.host.task.surface.state.lines ++ demo.summary, demo.host.kernel⟩

end Periodic

end TaskKernel.Demo
