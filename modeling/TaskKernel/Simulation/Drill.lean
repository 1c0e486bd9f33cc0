import TaskKernel.Task.Handler

/-!
A handler for exercises: it does what its messages order and keeps a diary. The orders come with the
payloads, whose type is left open; a `Reading` says how they are read.
-/
namespace TaskKernel.Simulation

/-- One thing to do within a call of the handler. -/
inductive Order (V : Type)
  | panic
  | quit
  | post (message : Message V)
  | waitSelf (message : Message V) (timeout : Option Delay)
  | addTimer (interval : Delay) (repeats : Repeat) (name : Option String) (callback : Bool)
      (panicAt : Option Nat)
  | cancelTimer (name : String)
  | cancelSelf
  | userData (add : Int64)
  | info

/-- What a task knows of itself. -/
structure SelfView where
  handle : ThreadHandle
  armed : Nat
  tickPriority : Priority
  quitting : Bool
  pending : Nat
  closed : Bool

inductive OrderResult
  | quitting (before after : Bool)
  | posted (answer : Except Failure Unit)
  | refused (failure : Failure)
  | timer (answer : Except Failure TimerId)
  | cancelled (known : Bool)
  | userData (number : Option Int64) (hasText : Bool)
  | info (view : SelfView)

inductive Drill.Reply (V : Type)
  | payload (value : V)
  | slept
  | result (result : OrderResult)
  | results (results : List OrderResult)
  | bye

/-- User data of a drilled task. -/
inductive Drill.Datum
  | number (value : Int64)
  | text (content : String)

inductive Diary.Event (V : Type)
  | user (opcode : UInt32) (payload : Option V) (priority : Priority)
  | quit (priority : Priority) (quitting : Bool)

inductive Diary.Note
  | start (result : OrderResult)
  | quit (result : OrderResult)
  | tick (count : Nat) (result : OrderResult)
  | exit

/-- What a drilled handler has seen; `gates` counts the messages that had to wait for a permit, and
`names` are the timers by the names they were ordered with. -/
structure Diary (V : Type) where
  events : List (Diary.Event V)
  ticks : List (Tick × Priority)
  callbacks : List Tick
  notes : List Diary.Note
  handled : Nat
  gates : Nat
  names : List (String × TimerId)

/-- Ticks by the numbers of their timers, with what has been written down beside them. -/
def Diary.byTimer {α : Type} (ticks : List (Tick × α)) : List (Nat × List (Tick × α)) :=
  let timers := ((ticks.map (·.1.timer.number)).mergeSort (· ≤ ·)).eraseDups
  timers.map fun timer => (timer, ticks.filter (·.1.timer.number = timer))

def Diary.empty {V : Type} : Diary V := ⟨[], [], [], [], 0, 0, []⟩

/-- How payloads are read. -/
structure Drill.Reading (V : Type) where
  text : V → String
  pause : V → Delay
  order : V → Order V
  orders : V → List (Order V)

/-- What a drilled handler does on its own. -/
structure Drill (V : Type) where
  onStart : List (Order V)
  onQuit : List (Order V)
  onTick : List (Nat × Order V)
  panicOnExit : Bool

namespace Drill

variable {V : Type}

abbrev Code (V α : Type) : Type := HandlerCode (Diary V) V Datum α

private def write (change : Diary V → Diary V) : Code V Unit := HandlerCode.ofBody (Body.modifyState change)

private def panic {α : Type} (cause : Panic) : Code V α := HandlerCode.ofBody (Body.panic cause)

private def plain {α : Type} (body : Body (Diary V) α) : Code V α := HandlerCode.ofBody body

/-- The callback of an ordered timer writes its tick down before it may panic. -/
def callback (panicAt : Option Nat) (tick : Tick) : Body (Diary V) Unit := do
  Body.modifyState fun diary => { diary with callbacks := diary.callbacks ++ [tick] }
  if panicAt = some tick.count then Body.panic (.text "callback failure") else pure ()

/-- A timer by its name; an unknown name stands for a new timer. -/
private def timerNamed (name : String) : Code V TimerId := do
  let diary ← plain Body.state
  match diary.names.lookup name with
  | some id => pure id
  | none => HandlerCode.request .freshTimer

/-- Carry out an order; `firing` is the timer whose tick is handled. -/
def perform (firing : Option TimerId) : Order V → Code V OrderResult
  | .panic => panic (.text "scripted failure")
  | .quit => do
    let before : Bool ← HandlerCode.request .isQuitting
    HandlerCode.request .quit
    let after : Bool ← HandlerCode.request .isQuitting
    pure (.quitting before after)
  | .post message => do pure (.posted (← HandlerCode.request (.post message)))
  | .waitSelf message timeout => do pure (.refused (← HandlerCode.request (.waitSelf message timeout)))
  | .addTimer interval repeats name isCallback panicAt => do
    let answer : Except Failure TimerId ←
      if isCallback then HandlerCode.request (.addCallback interval repeats (callback panicAt))
      else HandlerCode.request (.addTimer interval repeats)
    match answer, name with
    | .ok id, some name => write fun diary => { diary with names := (name, id) :: diary.names }
    | _, _ => pure ()
    pure (.timer answer)
  | .cancelTimer name => do
    let id ← timerNamed name
    pure (.cancelled (← HandlerCode.request (.cancelTimer id)))
  | .cancelSelf => do
    let id : TimerId ← match firing with
      | some id => pure id
      | none => HandlerCode.request .freshTimer
    pure (.cancelled (← HandlerCode.request (.cancelTimer id)))
  | .userData add => do
    let data : Option Datum ← HandlerCode.request .userData
    match data with
    | some (.number value) =>
      HandlerCode.request (.setUserData (.number (value + add)))
      pure (.userData (some (value + add)) false)
    | some (.text _) => pure (.userData none true)
    | none => pure (.userData none false)
  | .info => do
    let handle ← plain Body.identity
    let armed : Nat ← HandlerCode.request .armedCount
    let tickPriority : Priority ← HandlerCode.request .tickPriority
    let quitting : Bool ← HandlerCode.request .isQuitting
    let pending : Nat ← HandlerCode.request .pending
    let closed : Bool ← HandlerCode.request .isClosed
    pure (.info ⟨handle, armed, tickPriority, quitting, pending, closed⟩)

/-- Carry out orders and note each result. `last` is done at the end, and also before a panic that is
ordered. -/
def performNoted (firing : Option TimerId) (note : OrderResult → Diary.Note) (last : Code V Unit) :
    List (Order V) → Code V Unit
  | [] => last
  | .panic :: _ => do
    last
    panic (.text "scripted failure")
  | order :: rest => do
    let result ← perform firing order
    write fun diary => { diary with notes := diary.notes ++ [note result] }
    performNoted firing note last rest

/-- What the messages with an operation code order. -/
def obey (reading : Reading V) (opcode : UInt32) (payload : Option V) : Code V (Option (Reply V)) :=
  match opcode, payload with
  | 1, _ => pure (payload.map .payload)
  | 2, _ => panic (.text "handler failure")
  | 3, _ => panic (.text (payload.elim "" reading.text))
  | 4, _ => panic .other
  | 5, _ => do
    write fun diary => { diary with gates := diary.gates + 1 }
    plain Body.pause
    pure (payload.map .payload)
  | 6, some value => do
    plain (Body.sleep (reading.pause value))
    pure (some .slept)
  | 7, some value => do pure (some (.result (← perform none (reading.order value))))
  | 8, some value => do pure (some (.results (← (reading.orders value).mapM (perform none))))
  | _, _ => pure none

/-- The handler of a drill. -/
def handler (drill : Drill V) (reading : Reading V) : Handler (Diary V) V (Reply V) Datum where
  onStart := performNoted none .start (pure ()) drill.onStart
  handle message := do
    write fun diary => { diary with handled := diary.handled + 1 }
    match message.kind with
    | .user opcode =>
      write fun diary => { diary with
        events := diary.events ++ [.user opcode message.payload message.priority] }
      obey reading opcode message.payload
    | .periodic tick =>
      let orders := drill.onTick.filterMap fun (count, order) =>
        if count = tick.count then some order else none
      performNoted (some tick.timer) (.tick tick.count)
        (write fun diary => { diary with ticks := diary.ticks ++ [(tick, message.priority)] }) orders
      pure none
    | .quit =>
      let quitting : Bool ← HandlerCode.request .isQuitting
      write fun diary => { diary with events := diary.events ++ [.quit message.priority quitting] }
      performNoted none .quit (pure ()) drill.onQuit
      pure (some .bye)
  onExit := do
    Body.modifyState fun diary => { diary with notes := diary.notes ++ [.exit] }
    if drill.panicOnExit then Body.panic (.text "exit failure") else pure ()

end Drill

end TaskKernel.Simulation
