import TaskKernel.Demo.Outcome
import TaskKernel.Task.Host

/-!
A task that echoes texts, with clients on threads of their own. Each client asks a number of times and
leaves a note. A `Move` is one step of the main thread, of a client, of the task or of time.
-/
namespace TaskKernel.Demo

/-- What the task has handled. -/
structure Echo.Counts where
  echoed : Nat
  notes : Nat
deriving DecidableEq

/-- Where a client stands. -/
inductive Echo.Place
  | entering
  | asking (round : Nat)
  | waiting (round slot : Nat)
  | noting
  | leaving
  | reporting
  | ended
deriving DecidableEq

structure Echo.Client where
  number : Nat
  key : ThreadKey
  life : Lifecycle
  matched : Nat
  failure : Option Failure
  place : Echo.Place

/-- Where the main thread stands. -/
inductive Echo.Stage
  | beginning
  | committing
  | spawning
  | joining (client : Nat)
  | quitting
  | joiningTask
  | ended (failure : Option Refusal)
deriving DecidableEq

structure Echo where
  host : Task.Host Echo.Counts String String Unit
  main : ThreadKey
  planned : Nat
  requests : Nat
  clients : List Echo.Client
  began : Instant
  stage : Echo.Stage
  total : Nat
  lines : List Line

namespace Echo

def echoCode : UInt32 := 1

def noteCode : UInt32 := 2

def handler : Handler Counts String String Unit where
  onStart := do
    let handle ← HandlerCode.ofBody Body.identity
    HandlerCode.ofBody (Body.record .info ("echo task " ++ handle.text ++ " ready"))
  handle message :=
    if message.kind = .user echoCode then do
      HandlerCode.ofBody (Body.modifyState fun counts => { counts with echoed := counts.echoed + 1 })
      pure message.payload
    else if message.kind = .user noteCode then do
      HandlerCode.ofBody (Body.modifyState fun counts => { counts with notes := counts.notes + 1 })
      HandlerCode.ofBody (Body.record .debug ("note: " ++ message.payload.getD ""))
      pure none
    else pure none
  onExit := do
    let counts ← Body.state
    Body.record .info ("echo task exiting after " ++ toString counts.echoed ++ " echoes, " ++
      toString counts.notes ++ " notes")

def header : List Line := [Line.ofText "=== tasker Echo Example ===", Line.ofText ""]

def footer : List Line := [Line.ofText "", Line.ofText "=== Example Complete ==="]

def settings : Task.Settings Unit where
  name := some "echo"
  priority := some .high
  periodic := none
  tickPriority := .normal
  stackSize := none
  userData := none

/-- The task is made, unless that is refused. -/
def start (environment : Environment) (now : Instant) : Except Outcome Echo :=
  let (main, kernel) := (Kernel.fresh environment now).newThread
  match Task.Host.create (kernel.start main) main settings handler ⟨0, 0⟩ with
  | (.error failure, kernel) => .error ⟨some failure, header, kernel⟩
  | (.ok host, _) => .ok {
    host
    main
    planned := (environment.parse Text.Numeral.word64? "ECHO_CLIENTS" 4).toNat
    requests := (environment.parse Text.Numeral.word64? "ECHO_REQUESTS" 5).toNat
    clients := []
    began := now
    stage := .beginning
    total := 0
    lines := header }

def requestText (client round : Nat) : String :=
  "client " ++ toString client ++ " request " ++ toString round

def patience : Delay := Delay.ofMillis 1000

def describeResponse : Response String → String
  | .handled none => "Handled(None)"
  | .handled (some reply) => "Handled(Some(" ++ Text.quoted reply ++ "))"
  | .failed reason => "Failed(" ++ Text.quoted reason ++ ")"
  | .abandoned => "Abandoned"
  | .timedOut => "TimedOut"

def setClient (echo : Echo) (client : Client) (place : Place) : Echo :=
  { echo with clients := echo.clients.set client.number { client with place } }

def withEffects (echo : Echo) (thread : ThreadKey) (effects : List Effect) : Echo :=
  { echo with host := { echo.host with kernel := echo.host.kernel.carryOutAll thread effects } }

/-- The client takes note of a response. -/
def heard (echo : Echo) (client : Client) (round : Nat) (response : Response String) : Echo :=
  if response = .handled (some (requestText client.number round)) then
    echo.setClient { client with matched := client.matched + 1 } (.asking (round + 1))
  else
    let line := Line.ofText ("client " ++ toString client.number ++ ": unexpected response " ++
      describeResponse response)
    { echo with lines := echo.lines ++ [line] }.setClient client (.asking (round + 1))

/-- The next step of a client, when it can take one. -/
def clientStep? (echo : Echo) (number : Nat) : Option Echo := do
  let client ← echo.clients[number]?
  match client.place with
  | .entering => some ((echo.withEffects client.key client.life.enterEffects).setClient client (.asking 0))
  | .asking round =>
    if round < echo.requests then
      let message := Message.user echoCode (some (requestText number round))
      match echo.host.call client.key message (some patience) with
      | (.ok slot, host) => some ({ echo with host }.setClient client (.waiting round slot))
      | (.error failure, host) =>
        some ({ echo with host }.setClient { client with failure := some failure } .leaving)
    else some (echo.setClient client .noting)
  | .waiting round slot =>
    match echo.host.task.exchange.outcome? slot with
    | some response => some (echo.heard client round response)
    | none =>
      if echo.host.task.exchange.isAwake slot then some { echo with host := echo.host.move (.look slot) }
      else none
  | .noting =>
    let note := (Message.user noteCode (some ("client " ++ toString number ++ " done"))).withPriority .low
    match echo.host.post note with
    | (.ok (), host) => some ({ echo with host }.setClient client .leaving)
    | (.error failure, host) =>
      some ({ echo with host }.setClient { client with failure := some failure } .leaving)
  | .leaving => client.life.terminate?.map fun life => echo.setClient { client with life } .reporting
  | .reporting => some ((echo.withEffects client.key [client.life.terminatedEffect]).setClient client .ended)
  | .ended => none

/-- Build and start the next client. -/
def spawn (echo : Echo) : Echo :=
  let (handle, named) := echo.host.kernel.allocateHandle
  let (config, configured) := named.readConfig echo.main
  let (key, kernel) := configured.newThread
  let known := { echo with host := { echo.host with kernel } }
  match Lifecycle.build handle config none none none with
  | .error failure => { known with stage := .ended (some failure) }
  | .ok life =>
    let beginning := life.begin false true
    let begun := known.withEffects echo.main beginning.effects
    match beginning.refusal with
    | some failure => { begun with stage := .ended (some failure) }
    | none => { begun with
      clients := begun.clients ++ [⟨begun.clients.length, key, beginning.life.commit, 0, none, .entering⟩] }

/-- What a joined client adds to the total. -/
def score (client : Client) : Nat := if client.failure.isSome then 0 else client.matched

def totalLine (echo : Echo) : Line :=
  [.text (toString echo.total ++ " / " ++ toString (echo.planned * echo.requests) ++ " echoes matched in "),
    .time (echo.host.kernel.now.since echo.began)]

def countsLine (counts : Counts) : Line :=
  Line.ofText ("task handled " ++ toString counts.echoed ++ " echoes and " ++ toString counts.notes ++ " notes")

/-- The next step of the main thread, when it can take one. -/
def mainStep? (echo : Echo) : Option Echo :=
  match echo.stage with
  | .beginning =>
    match echo.host.begin echo.main false with
    | (some failure, host) => some { echo with host, stage := .ended (some failure) }
    | (none, host) => some { echo with host, stage := .committing }
  | .committing =>
    some { echo with host := echo.host.commit, began := echo.host.kernel.now, stage := .spawning }
  | .spawning =>
    some (if echo.clients.length < echo.planned then echo.spawn else { echo with stage := .joining 0 })
  | .joining number =>
    match echo.clients[number]? with
    | some client =>
      if client.place = .ended then
        some { echo with total := echo.total + score client, stage := .joining (number + 1) }
      else none
    | none => some { echo with lines := echo.lines ++ [echo.totalLine], stage := .quitting }
  | .quitting =>
    match echo.host.quit with
    | (.ok (), host) => some { echo with host, stage := .joiningTask }
    | (.error failure, host) => some { echo with host, stage := .ended (some failure) }
  | .joiningTask =>
    let finish (host : Task.Host Counts String String Unit) (counts : Counts) : Option Echo :=
      some { echo with host, lines := echo.lines ++ [countsLine counts] ++ footer, stage := .ended none }
    match echo.host.join echo.main with
    | (.blocked, _) => none
    | (.refused failure, host) => some { echo with host, stage := .ended (some failure) }
    | (.outcome (.completed counts), host) => finish host counts
    | (.outcome _, host) => finish host ⟨0, 0⟩
  | .ended _ => none

inductive Move
  | main
  | client (number : Nat)
  | serve
  | rouseCaller (slot : Nat)
  | expireCaller (slot : Nat)
  | rouse
  | passTo (now : Instant)

/-- Make a move. A move that cannot be made changes nothing. -/
def move (echo : Echo) : Move → Echo
  | .main => echo.mainStep?.getD echo
  | .client number => (echo.clientStep? number).getD echo
  | .serve => { echo with host := echo.host.move .serve }
  | .rouseCaller slot => { echo with host := echo.host.move (.rouseCaller slot) }
  | .expireCaller slot => { echo with host := echo.host.move (.expireCaller slot) }
  | .rouse => { echo with host := echo.host.move .rouse }
  | .passTo now => { echo with host := echo.host.move (.passTo now) }

def moves (echo : Echo) (list : List Move) : Echo := list.foldl move echo

/-- Whether the main thread has ended, and the program with it. -/
def isOver (echo : Echo) : Bool :=
  match echo.stage with
  | .ended _ => true
  | _ => false

def outcome (echo : Echo) : Outcome :=
  let failure := match echo.stage with
    | .ended failure => failure
    | _ => none
  ⟨failure, echo.lines, echo.host.kernel⟩

end Echo

end TaskKernel.Demo
