import TaskKernel.Proofs.Demo.Clients
import TaskKernel.Proofs.Task.Making

/-!
The echoing task with its clients and the main thread. Main is refused nothing: it joins its clients one by one,
orders the task to exit when none is left, and prints what they have matched. Each move brings the end nearer,
unless nothing is left to do but to wait.
-/
namespace TaskKernel.Demo.Echo

variable {echo after : Echo} {notice later : Notice} {reply next : Option String} {complaints more : List Line}
  {lead own lower rank number : Nat} {client moved : Client} {host : EchoHost} {actor : ThreadKey}

/-- What the task has been sent by the clients. -/
def sentBy (requests : Nat) (clients : List Client) : Counts :=
  ⟨tally (Client.asked requests) clients, tally Client.noted clients⟩

/-- What a client says that has waited in vain. -/
def lateLine (number : Nat) : Line :=
  Line.ofText ("client " ++ toString number ++ ": unexpected response " ++ describeResponse .timedOut)

/-- Each response that has been heard was the text, or a timeout that has been complained of. -/
structure Heard (echo : Echo) (complaints : List Line) : Prop where
  balance : tally Client.matched echo.clients + complaints.length = tally (Client.heard echo.requests) echo.clients
  late : ∀ line ∈ complaints, ∃ number, line = lateLine number
  cause : complaints ≠ [] → ∃ slot, echo.host.task.exchange.outcome? slot = some .timedOut

def matchedLine (total most : Nat) (took : Delay) : Line :=
  [.text (toString total ++ " / " ++ toString most ++ " echoes matched in "), .time took]

/-- Clients that have been joined. -/
structure Joined (total : Nat) (clients : List Client) : Prop where
  total : total = tally Client.matched clients
  ended : ∀ client ∈ clients, client.place = .ended

/-- The task has been started, and can be joined. -/
structure Running (task : Echoer) : Prop where
  begun : task.place ≠ .idle
  committed : task.life.Committed

/-- All clients have been joined. -/
structure Done (planned total : Nat) (clients : List Client) (task : Echoer) : Prop where
  all : clients.length = planned
  joined : Joined total clients
  running : Running task

/-- What is known where main stands, and the rank of the place. -/
def Stands (echo : Echo) (notice : Notice) (complaints : List Line) (lead : Nat) : Prop :=
  let task := echo.host.task
  let Done := Done echo.planned echo.total echo.clients task
  match echo.stage with
  | .beginning => notice = .none ∧ echo.clients = [] ∧ echo.total = 0 ∧ task.place = .idle ∧ task.life.state = .new ∧
      task.life.Creatable ∧ echo.lines = header ++ complaints ∧ lead = echo.planned + turn + 7
  | .committing => notice = .none ∧ echo.clients = [] ∧ echo.total = 0 ∧ task.place ≠ .idle ∧
      task.life.detached = false ∧ echo.lines = header ++ complaints ∧ lead = echo.planned + turn + 6
  | .spawning => notice = .none ∧ echo.clients.length ≤ echo.planned ∧ echo.total = 0 ∧ Running task ∧
      echo.lines = header ++ complaints ∧ lead = echo.planned + turn + 5
  | .joining count => notice = .none ∧ echo.clients.length = echo.planned ∧ count ≤ echo.planned ∧
      Joined echo.total (echo.clients.take count) ∧ Running task ∧ echo.lines = header ++ complaints ∧
        lead = echo.planned - count + turn + 4
  | .quitting => notice = .none ∧ Done ∧
      (∃ took, echo.lines = header ++ complaints ++ [matchedLine echo.total (echo.planned * echo.requests) took]) ∧
      lead = turn + 3
  | .joiningTask => notice ≠ .none ∧ Done ∧
      (∃ took, echo.lines = header ++ complaints ++ [matchedLine echo.total (echo.planned * echo.requests) took]) ∧
      lead = 2
  | .ended none => Done ∧ task.place = .ended ∧
      (∃ took, echo.lines = header ++ complaints ++ [matchedLine echo.total (echo.planned * echo.requests) took] ++
        [countsLine ⟨echo.planned * echo.requests, echo.planned⟩] ++ footer) ∧ lead = 0
  | .ended (some _) => False

/-- Threads can be made with a configuration. -/
structure Staffed (config : Config) : Prop where
  roomy : config.Roomy
  stack : Creation.stackFault? config.stackSize = none
  name : Creation.nameFault? config.nameStem = none

/-- What is known of the program's kernel. -/
structure Staged (host : EchoHost) : Prop where
  staffed : ∃ config, host.kernel.config = some config ∧ Staffed config
  native : host.native < host.kernel.threads
  proper : host.task.life.handle.isSome = true
  handles : host.task.life.handle.number ≤ host.kernel.handles

/-- What is known of the program all along. -/
structure Parts (echo : Echo) (notice : Notice) (reply : Option String) (complaints : List Line) (lead own : Nat) :
    Prop where
  staged : Staged echo.host
  serves : Serves echo.host.task notice (sentBy echo.requests echo.clients) reply own
  crew : Crew echo.requests echo.host reply echo.clients
  heard : Heard echo complaints
  stands : Stands echo notice complaints lead

/-- What all clients weigh, those that are to come included. -/
def load (echo : Echo) : Nat :=
  tally (Client.weight echo.requests · echo.host.task.exchange) echo.clients +
    (echo.planned - echo.clients.length) * Client.fresh echo.requests

/-- The program, and how far its end is. -/
def Sound (echo : Echo) (rank : Nat) : Prop :=
  ∃ notice reply complaints lead own, Parts echo notice reply complaints lead own ∧ rank = lead + load echo + own

/-- Nothing happens but that somebody looks whether it can go on. -/
structure Calm (echo after : Echo) : Prop where
  stage : after.stage = echo.stage
  clients : after.clients = echo.clients
  queue : after.host.task.exchange.queue = echo.host.task.exchange.queue
  place : after.host.task.place = echo.host.task.place

/-- What a move makes of the rank. -/
structure Moves (echo : Echo) (rank : Nat) (after : Echo) (lower : Nat) : Prop where
  sound : Sound after lower
  planned : after.planned = echo.planned
  requests : after.requests = echo.requests
  most : lower ≤ rank
  falls : lower < rank ∨ Calm echo after

theorem Staged.kept (staged : Staged echo.host) (keeps : Keeps echo.host host reply next actor) : Staged host where
  staffed := keeps.config ▸ staged.staffed
  native := keeps.native ▸ Nat.lt_of_lt_of_le staged.native keeps.threads
  proper := keeps.handle ▸ staged.proper
  handles := keeps.handle ▸ Nat.le_trans staged.handles keeps.handles

/-- How the task goes on as far as main can see. -/
structure Follows (task after : Echoer) : Prop where
  idle : task.place = .idle → after.place = .idle ∧ after.life = task.life
  begun : task.place ≠ .idle → after.place ≠ .idle
  ended : task.place = .ended → after.place = .ended
  joinable : task.life.detached = false → after.life.detached = false
  committed : task.life.Committed → after.life.Committed

theorem Follows.of_same {task after : Echoer} (place : after.place = task.place) (life : after.life = task.life) :
    Follows task after where
  idle idle := ⟨place.trans idle, life⟩
  begun begun := place ▸ begun
  ended ended := place.trans ended
  joinable joinable := life ▸ joinable
  committed committed := life ▸ committed

private theorem Running.follows {task after : Echoer} (running : Running task) (follows : Follows task after) :
    Running after :=
  ⟨follows.begun running.begun, follows.committed running.committed⟩

theorem Done.follows {planned total : Nat} {clients : List Client} {task after : Echoer}
    (done : Done planned total clients task) (follows : Follows task after) : Done planned total clients after :=
  ⟨done.all, done.joined, done.running.follows follows⟩

private theorem Stands.follows (stands : Stands echo notice complaints lead)
    (follows : Follows echo.host.task host.task)
    (same : later = .none ↔ notice = .none) : Stands { echo with host } later complaints lead := by
  unfold Stands at stands ⊢
  cases stage : echo.stage with
  | beginning =>
    simp only [stage] at stands ⊢
    obtain ⟨none, clients, total, idle, fresh, creatable, rest⟩ := stands
    obtain ⟨place, life⟩ := follows.idle idle
    exact ⟨same.mpr none, clients, total, place, life ▸ fresh, life ▸ creatable, rest⟩
  | committing =>
    simp only [stage] at stands ⊢
    obtain ⟨none, clients, total, begun, joinable, rest⟩ := stands
    exact ⟨same.mpr none, clients, total, follows.begun begun, follows.joinable joinable, rest⟩
  | spawning =>
    simp only [stage] at stands ⊢
    obtain ⟨none, most, total, running, rest⟩ := stands
    exact ⟨same.mpr none, most, total, running.follows follows, rest⟩
  | joining count =>
    simp only [stage] at stands ⊢
    obtain ⟨none, all, within, joined, running, rest⟩ := stands
    exact ⟨same.mpr none, all, within, joined, running.follows follows, rest⟩
  | quitting =>
    simp only [stage] at stands ⊢
    obtain ⟨none, done, rest⟩ := stands
    exact ⟨same.mpr none, done.follows follows, rest⟩
  | joiningTask =>
    simp only [stage] at stands ⊢
    obtain ⟨noticed, done, rest⟩ := stands
    exact ⟨fun none => noticed (same.mp none), done.follows follows, rest⟩
  | ended failure =>
    cases failure with
    | none =>
      simp only [stage] at stands ⊢
      obtain ⟨done, ended, rest⟩ := stands
      exact ⟨done.follows follows, follows.ended ended, rest⟩
    | some failure =>
      simp only [stage] at stands

theorem load_le (keeps : Keeps echo.host host reply next actor) : load { echo with host } ≤ load echo := by
  have sum : tally (Client.weight echo.requests · host.task.exchange) echo.clients ≤
      tally (Client.weight echo.requests · echo.host.task.exchange) echo.clients :=
    tally_le fun client _ => client.weight_le keeps
  simp only [load]
  omega

private theorem Parts.hosted (parts : Parts echo notice reply complaints lead own)
    (keeps : Keeps echo.host host reply next actor)
    (others : ∀ client ∈ echo.clients, client.key ≠ actor) (follows : Follows echo.host.task host.task)
    (serves : Serves host.task later (sentBy echo.requests echo.clients) next lower)
    (same : later = .none ↔ notice = .none) : Parts { echo with host } later next complaints lead lower where
  staged := parts.staged.kept keeps
  serves := serves
  crew := parts.crew.kept keeps others
  heard := ⟨parts.heard.balance, parts.heard.late, fun some => by
    obtain ⟨slot, late⟩ := parts.heard.cause some
    exact ⟨slot, keeps.outcomes slot _ late⟩⟩
  stands := parts.stands.follows follows same

theorem Keeps.aside {task : Echoer} (handle : task.life.handle = host.task.life.handle)
    (destined : ∀ slot text, Destined host.task reply slot text → Destined task next slot text)
    (outcomes : ∀ slot response, host.task.exchange.outcome? slot = some response →
      task.exchange.outcome? slot = some response) : Keeps host { host with task } reply next actor :=
  ⟨rfl, handle, Nat.le_refl _, Nat.le_refl _, rfl, fun _ _ _ => rfl, destined, outcomes⟩

theorem Parts.away (parts : Parts echo notice reply complaints lead own) :
    ∀ client ∈ echo.clients, client.key ≠ echo.host.native := by
  intro client member
  obtain ⟨number, present⟩ := List.getElem?_of_mem member
  exact (parts.crew.each number client present).away

private theorem Moves.of_hosted (parts : Parts echo notice reply complaints lead own)
    (keeps : Keeps echo.host host reply next actor) (others : ∀ client ∈ echo.clients, client.key ≠ actor)
    (follows : Follows echo.host.task host.task)
    (serves : Serves host.task later (sentBy echo.requests echo.clients) next lower)
    (same : later = .none ↔ notice = .none)
    (falls : lower < own ∨ lower = own ∧ host.task.exchange.queue = echo.host.task.exchange.queue ∧
      host.task.place = echo.host.task.place) :
    Moves echo (lead + load echo + own) { echo with host } (lead + load { echo with host } + lower) := by
  have lighter := load_le keeps
  refine ⟨⟨later, next, complaints, lead, lower, parts.hosted keeps others follows serves same, rfl⟩, rfl, rfl, ?_, ?_⟩
  · rcases falls with less | ⟨rfl, _⟩ <;> omega
  · rcases falls with less | ⟨_, queue, place⟩
    · exact .inl (by omega)
    · exact .inr ⟨rfl, rfl, queue, place⟩

private theorem Parts.disturbed (parts : Parts echo notice reply complaints lead own) {kernel : Kernel}
    {exchange : Exchange (Command Counts String) String} (threads : kernel.threads = echo.host.kernel.threads)
    (handles : kernel.handles = echo.host.kernel.handles) (config : kernel.config = echo.host.kernel.config)
    (bound : kernel.bound = echo.host.kernel.bound) (queue : exchange.queue = echo.host.task.exchange.queue)
    (serves : Serves { echo.host.task with exchange } notice (sentBy echo.requests echo.clients) reply own)
    (destined : ∀ slot text, Destined echo.host.task reply slot text →
      Destined { echo.host.task with exchange } reply slot text)
    (outcomes : ∀ slot response, echo.host.task.exchange.outcome? slot = some response →
      exchange.outcome? slot = some response) :
    ∃ lower, Moves echo (lead + load echo + own)
      { echo with host := { echo.host with kernel, task := { echo.host.task with exchange } } } lower := by
  have keeps : Keeps echo.host { echo.host with kernel, task := { echo.host.task with exchange } } reply reply
      echo.host.native :=
    ⟨rfl, rfl, Nat.le_of_eq threads.symm, Nat.le_of_eq handles.symm, config, fun key _ _ => congrFun bound key,
      destined, outcomes⟩
  exact ⟨_, .of_hosted parts keeps parts.away (.of_same rfl rfl) serves Iff.rfl (.inr ⟨rfl, queue, rfl⟩)⟩

private theorem Keeps.of_step {progress : Task.Progress Counts String String Unit}
    (stepped : host.task.step? host.kernel.now host.kernel.timers = some progress)
    (proper : host.task.life.handle.isSome = true)
    (destined : ∀ slot text, Destined host.task reply slot text → Destined progress.task next slot text)
    (outcomes : ∀ slot, progress.task.exchange.outcome? slot = host.task.exchange.outcome? slot) :
    Keeps host { host with
      task := progress.task
      kernel := { host.kernel with timers := progress.given }.carryOutAll host.native progress.effects } reply next
        host.native := by
  have still := Kernel.carryOutAll_still { host.kernel with timers := progress.given } host.native progress.effects
  cases Task.step?_change stepped with
  | aside _ aside =>
    have named := Kernel.carryOutAll_named { host.kernel with timers := progress.given } host.native aside.plain
    refine ⟨rfl, aside.handle, Nat.le_of_eq named.threads.symm, ?_, still.config, fun key _ some => named.lasts key some,
      destined, fun slot response gone => (outcomes slot).trans gone⟩
    cases named with
    | kept handles => exact Nat.le_of_eq handles.symm
    | given _ handles => exact Nat.le_of_lt (handles ▸ Nat.lt_succ_self _)
  | entering handle _ _ _ binding =>
    obtain ⟨rest, effects, plain⟩ := binding
    obtain ⟨handles, threads, bound⟩ := Kernel.carryOutAll_binding { host.kernel with timers := progress.given }
      host.native proper plain
    rw [effects]
    refine ⟨rfl, handle, Nat.le_of_eq threads.symm, Nat.le_of_eq handles.symm, effects ▸ still.config, ?_, destined,
      fun slot response gone => (outcomes slot).trans gone⟩
    intro key other _
    exact (congrFun bound key).trans (if_neg other)

private theorem Onward.follows {task : Echoer} {sent : Counts} {given : Nat} {now : Instant}
    {progress : Task.Progress Counts String String Unit} (onward : Onward task given notice sent reply rank progress)
    (stepped : task.step? now given = some progress) : Follows task progress.task where
  idle idle := by simp [Task.step?, idle] at stepped
  begun _ := Task.begun_of_step stepped
  ended ended := by simp [Task.step?, ended] at stepped
  joinable joinable := by
    rcases onward.life with same | ⟨_, terminated⟩
    · exact same ▸ joinable
    · obtain ⟨_, same⟩ := Lifecycle.terminate?_eq_some terminated
      rw [same]
      exact joinable
  committed committed := by
    rcases onward.life with same | ⟨_, terminated⟩
    · exact same ▸ committed
    · exact committed.terminated terminated

private theorem serve_blocked (blocked : echo.host.task.step? echo.host.kernel.now echo.host.kernel.timers = none) :
    echo.move .serve = echo := by
  rw [move, Task.Host.serve_of_blocked (by simp [Task.Host.step?, blocked])]

theorem Moves.refl (parts : Parts echo notice reply complaints lead own) :
    Moves echo (lead + load echo + own) echo (lead + load echo + own) :=
  ⟨⟨notice, reply, complaints, lead, own, parts, rfl⟩, rfl, rfl, Nat.le_refl _, .inr ⟨rfl, rfl, rfl, rfl⟩⟩

private theorem Parts.served (parts : Parts echo notice reply complaints lead own)
    {progress : Task.Progress Counts String String Unit}
    (stepped : echo.host.task.step? echo.host.kernel.now echo.host.kernel.timers = some progress) :
    ∃ lower, Moves echo (lead + load echo + own) (echo.move .serve) lower ∧
      (lower < lead + load echo + own ∨ Rests echo.host.task progress.task) := by
  have onward := parts.serves.step stepped
  obtain ⟨later, next, lower, serves, same, destined, falls⟩ := onward.leads
  have moved : echo.move .serve = { echo with host := { echo.host with
      task := progress.task
      kernel := { echo.host.kernel with timers := progress.given }.carryOutAll echo.host.native
        progress.effects } } := by
    rw [move, Task.Host.move, Task.Host.step?, stepped]
    rfl
  have keeps := Keeps.of_step stepped parts.staged.proper destined onward.outcomes
  rw [moved]
  refine ⟨_, .of_hosted parts keeps parts.away (onward.follows stepped) serves same ?_, ?_⟩
  · exact falls.imp_right (And.imp_right fun rests => ⟨rests.queue, rests.stays.trans rests.before.symm⟩)
  · exact falls.imp (fun less => Nat.add_lt_add_of_le_of_lt (Nat.add_le_add_left (load_le keeps) lead) less) And.right

theorem Parts.serve (parts : Parts echo notice reply complaints lead own) :
    ∃ lower, Moves echo (lead + load echo + own) (echo.move .serve) lower := by
  cases stepped : echo.host.task.step? echo.host.kernel.now echo.host.kernel.timers with
  | none =>
    rw [serve_blocked stepped]
    exact ⟨_, .refl parts⟩
  | some progress =>
    obtain ⟨lower, moves, _⟩ := parts.served stepped
    exact ⟨lower, moves⟩

theorem Parts.serve_busy (parts : Parts echo notice reply complaints lead own) (running : Running echo.host.task)
    (unended : echo.host.task.place ≠ .ended)
    (busy : ¬ (echo.host.task.place = .receiving ∧ echo.host.task.exchange.queue.entries = [])) :
    ∃ lower < lead + load echo + own, Moves echo (lead + load echo + own) (echo.move .serve) lower := by
  rcases parts.serves.stepped running.begun unended running.committed.resting echo.host.kernel.now
    echo.host.kernel.timers with ⟨progress, stepped⟩ | waits
  · obtain ⟨lower, moves, less | rests⟩ := parts.served stepped
    · exact ⟨lower, less, moves⟩
    · exact absurd ⟨rests.before, rests.empty⟩ busy
  · exact absurd waits busy

theorem Parts.rouse (parts : Parts echo notice reply complaints lead own) :
    ∃ lower, Moves echo (lead + load echo + own) (echo.move .rouse) lower :=
  parts.disturbed rfl rfl rfl rfl rfl parts.serves.rouse
    (fun _ _ destined => destined.framed _ _ _) fun _ _ gone => gone

theorem Parts.rouseCaller (parts : Parts echo notice reply complaints lead own) (slot : Nat) :
    ∃ lower, Moves echo (lead + load echo + own) (echo.move (.rouseCaller slot)) lower :=
  parts.disturbed rfl rfl rfl rfl rfl (parts.serves.modified _ _) (fun _ _ destined => destined.rouseCaller)
    fun _ _ gone => Exchange.outcome?_rouseCaller.trans gone

theorem Parts.expireCaller (parts : Parts echo notice reply complaints lead own) (slot : Nat) :
    ∃ lower, Moves echo (lead + load echo + own) (echo.move (.expireCaller slot)) lower :=
  parts.disturbed rfl rfl rfl rfl rfl (parts.serves.modified _ _)
    (fun _ _ destined => destined.expireCaller echo.host.kernel.now)
    fun _ _ gone => (Exchange.outcome?_expireCaller echo.host.kernel.now).trans gone

theorem Parts.passTo (parts : Parts echo notice reply complaints lead own) (now : Instant) :
    ∃ lower, Moves echo (lead + load echo + own) (echo.move (.passTo now)) lower := by
  simp only [move, Task.Host.move]
  split
  · exact parts.disturbed rfl rfl rfl rfl rfl parts.serves (fun _ _ destined => destined) fun _ _ gone => gone
  · exact ⟨_, .refl parts⟩

private theorem Stands.acted (moved : Client) (stands : Stands echo notice complaints lead)
    (present : echo.clients[number]? = some client) (unended : client.place ≠ .ended)
    (follows : Follows echo.host.task host.task) {lines : List Line}
    (told : lines = echo.lines ++ more) : notice = .none ∧
      Stands { echo with host, clients := echo.clients.set number moved, lines } .none (complaints ++ more) lead := by
  have member := List.mem_of_getElem? present
  have within := (List.getElem?_eq_some_iff.mp present).1
  unfold Stands at stands ⊢
  cases stage : echo.stage with
  | beginning | committing =>
    simp only [stage] at stands
    rw [stands.2.1] at member
    cases member
  | spawning =>
    simp only [stage] at stands ⊢
    obtain ⟨none, most, total, running, texts, lead⟩ := stands
    exact ⟨none, trivial, by simpa using most, total, running.follows follows, by rw [told, texts, List.append_assoc],
      lead⟩
  | joining count =>
    simp only [stage] at stands ⊢
    obtain ⟨none, all, most, joined, running, texts, lead⟩ := stands
    have behind : count ≤ number := by
      refine Nat.le_of_not_lt fun before => unended (joined.ended client ?_)
      exact List.mem_of_getElem? ((List.getElem?_take_of_lt before).trans present)
    exact ⟨none, trivial, by simpa using all, most, by rw [List.take_set_of_le behind]; exact joined,
      running.follows follows, by rw [told, texts, List.append_assoc], lead⟩
  | quitting | joiningTask =>
    simp only [stage] at stands
    exact absurd (stands.2.1.joined.ended client member) unended
  | ended failure =>
    cases failure with
    | none =>
      simp only [stage] at stands
      exact absurd (stands.1.joined.ended client member) unended
    | some failure => simp only [stage] at stands

/-- One client moves. The rank falls by what it does for the client, less what it does to the task. -/
private theorem Parts.acted (parts : Parts echo notice reply complaints lead own)
    (present : echo.clients[number]? = some client) (unended : client.place ≠ .ended)
    (keeps : Keeps echo.host host reply next client.key) (follows : Follows echo.host.task host.task)
    (fine : moved.Fine echo.requests host next number) (key : moved.key = client.key)
    (serves : Serves host.task .none (sentBy echo.requests (echo.clients.set number moved)) next lower)
    {lines : List Line} (told : lines = echo.lines ++ more)
    (balance : moved.matched + more.length + client.heard echo.requests =
      client.matched + moved.heard echo.requests)
    (late : ∀ line ∈ more, ∃ number, line = lateLine number)
    (cause : more ≠ [] → ∃ slot, host.task.exchange.outcome? slot = some .timedOut)
    (falls : moved.weight echo.requests echo.host.task.exchange + lower <
      client.weight echo.requests echo.host.task.exchange + own) :
    ∃ rank < lead + load echo + own, Moves echo (lead + load echo + own)
      { echo with host, clients := echo.clients.set number moved, lines } rank := by
  have matched := tally_set Client.matched moved present
  have heard := tally_set (Client.heard echo.requests) moved present
  have weighs := tally_set (Client.weight echo.requests · echo.host.task.exchange) moved present
  have lighter : tally (Client.weight echo.requests · host.task.exchange) (echo.clients.set number moved) ≤
      tally (Client.weight echo.requests · echo.host.task.exchange) (echo.clients.set number moved) :=
    tally_le fun client _ => client.weight_le keeps
  have sum := parts.heard.balance
  have falls : lead + load { echo with host, clients := echo.clients.set number moved, lines } + lower <
      lead + load echo + own := by
    simp only [load, List.length_set]
    omega
  refine ⟨_, falls, ⟨.none, next, complaints ++ more, lead, lower, ⟨parts.staged.kept keeps, serves,
    parts.crew.set present keeps fine key, ⟨?_, ?_, ?_⟩,
    (parts.stands.acted moved present unended follows told).2⟩, rfl⟩, rfl, rfl, Nat.le_of_lt falls, .inl falls⟩
  · simp only [List.length_append]
    omega
  · intro line member
    rcases List.mem_append.mp member with old | new
    · exact parts.heard.late line old
    · exact late line new
  · intro some
    by_cases quiet : more = []
    · obtain ⟨slot, gone⟩ := parts.heard.cause (by simpa [quiet] using some)
      exact ⟨slot, keeps.outcomes slot _ gone⟩
    · exact cause quiet

private theorem Parts.working (parts : Parts echo notice reply complaints lead own)
    (present : echo.clients[number]? = some client) (unended : client.place ≠ .ended) :
    notice = .none ∧ client.Fine echo.requests echo.host reply number :=
  ⟨(parts.stands.acted client present unended (.of_same rfl rfl) (List.append_nil _).symm).1,
    parts.crew.each number client present⟩

private theorem Parts.goes (parts : Parts echo notice reply complaints lead own)
    (present : echo.clients[number]? = some client) (unended : client.place ≠ .ended) (life : Lifecycle) (place : Place)
    (keeps : Keeps echo.host host reply next client.key) (follows : Follows echo.host.task host.task)
    (resting : life.starting = false) (same : life.handle = client.life.handle)
    (bound : host.kernel.bound client.key = client.life.handle)
    (stands : Client.Stands echo.requests { client with life, place } host next)
    (heard : Client.heard echo.requests { client with life, place } = client.heard echo.requests)
    (serves : Serves host.task .none
      (sentBy echo.requests (echo.clients.set number { client with life, place })) next lower)
    (falls : Client.weight echo.requests { client with life, place } echo.host.task.exchange + lower <
      client.weight echo.requests echo.host.task.exchange + own) :
    ∃ rank < lead + load echo + own, Moves echo (lead + load echo + own)
      { echo with host, clients := echo.clients.set number { client with life, place } } rank := by
  have fine : Client.Fine echo.requests { client with life, place } host next number :=
    (parts.crew.each number client present).goes keeps resting same bound stands
  exact parts.acted present unended keeps follows fine rfl serves (List.append_nil echo.lines).symm
    (by simp [heard]) nofun (fun some => absurd rfl some) falls

private theorem sentBy_same {requests : Nat} {clients : List Client} (present : clients[number]? = some client)
    (asked : moved.asked requests = client.asked requests) (noted : moved.noted = client.noted) :
    sentBy requests (clients.set number moved) = sentBy requests clients := by
  have one := tally_set (Client.asked requests) moved present
  have two := tally_set Client.noted moved present
  rw [sentBy, sentBy, Counts.mk.injEq]
  omega

/-- A client takes a step that brings the end nearer. -/
def Advances (echo : Echo) (number rank : Nat) : Prop :=
  ∃ after lower, echo.clientStep? number = some after ∧ lower < rank ∧ Moves echo rank after lower

private theorem Parts.client_entering (parts : Parts echo notice reply complaints lead own)
    (present : echo.clients[number]? = some client) (place : client.place = .entering) :
    Advances echo number (lead + load echo + own) := by
  obtain ⟨rfl, fine⟩ := parts.working present (by simp [place])
  obtain rfl := fine.number
  obtain ⟨rest, effects, plain⟩ := client.life.enterEffects_eq
  obtain ⟨handles, threads, bound⟩ := Kernel.carryOutAll_binding echo.host.kernel client.key fine.proper plain
  rw [← effects] at handles threads bound
  have still := Kernel.carryOutAll_still echo.host.kernel client.key client.life.enterEffects
  have keeps : Keeps echo.host
      { echo.host with kernel := echo.host.kernel.carryOutAll client.key client.life.enterEffects } reply reply
        client.key :=
    ⟨rfl, rfl, Nat.le_of_eq threads.symm, Nat.le_of_eq handles.symm, still.config,
      fun key other _ => (congrFun bound key).trans (if_neg other), fun _ _ destined => destined, fun _ _ gone => gone⟩
  have same : sentBy echo.requests (echo.clients.set client.number { client with place := .asking 0 }) =
      sentBy echo.requests echo.clients :=
    sentBy_same present (by simp [Client.asked, place]) (by simp [Client.noted, place])
  obtain ⟨lower, less, moves⟩ := parts.goes present (by simp [place]) client.life (.asking 0) keeps (.of_same rfl rfl)
    fine.resting rfl ((congrFun bound client.key).trans (if_pos rfl)) (Nat.zero_le _) (by simp [Client.heard, place])
    (same ▸ parts.serves) (by simp [Client.weight, place])
  refine ⟨_, lower, ?_, less, moves⟩
  simp only [clientStep?, present, Option.bind_eq_bind, Option.bind_some, place, withEffects, setClient]

private theorem call_accepted (fine : client.Fine echo.requests echo.host reply number)
    (entered : client.place ≠ .entering)
    (unclosed : echo.host.task.exchange.queue.closed = false) (message : Message String) (timeout : Option Delay) :
    ∃ deadline, echo.host.call client.key message timeout = (.ok echo.host.task.exchange.slots.size,
      { echo.host with task := { echo.host.task with
        exchange := echo.host.task.exchange.admittedCaller message.priority (.deliver message) deadline 0 } }) := by
  have bound := fine.bound entered
  have other : echo.host.kernel.isCurrent client.key echo.host.task.life.handle = (false, echo.host.kernel) := by
    unfold Kernel.isCurrent
    split
    · rw [Kernel.identify_of_bound (by rw [bound]; exact fine.proper), bound]
      simp [fine.foreign.symm]
    · rfl
  refine ⟨timeout.map (Clock.deadline echo.host.kernel.now), ?_⟩
  rcases echo.host.task.exchange.call_cases message.priority (.deliver message)
    (timeout.map (Clock.deadline echo.host.kernel.now)) 0 with ⟨closed, _⟩ | ⟨_, called⟩
  · simp [unclosed] at closed
  · simp only [Task.Host.call, other, called]

theorem post_accepted (unclosed : echo.host.task.exchange.queue.closed = false) (errand : Errand)
    (alone : errand.slot = none) : echo.host.post errand.message = (.ok (), { echo.host with
      task := { echo.host.task with
        exchange := echo.host.task.exchange.admitted errand.message.priority errand.order 0 } }) := by
  rcases echo.host.task.exchange.push_cases errand.message.priority (.deliver errand.message) 0 with
    ⟨closed, _⟩ | ⟨_, pushed⟩
  · simp [unclosed] at closed
  · simp only [Task.Host.post, Task.Host.push, Command.priority, pushed, Errand.order, alone]

private theorem Parts.client_asking (parts : Parts echo notice reply complaints lead own)
    (present : echo.clients[number]? = some client) {round : Nat} (place : client.place = .asking round) :
    Advances echo number (lead + load echo + own) := by
  obtain ⟨rfl, fine⟩ := parts.working present (by simp [place])
  obtain rfl := fine.number
  have within := fine.stands
  simp only [Client.Stands, place] at within
  have unclosed := parts.serves.unclosed nofun
  by_cases more : round < echo.requests
  · let slot := echo.host.task.exchange.slots.size
    let errand := Errand.request (requestText client.number round) slot
    obtain ⟨deadline, called⟩ := call_accepted fine (by simp [place]) unclosed errand.message (some patience)
    let exchange := echo.host.task.exchange.admittedCaller .normal (.deliver errand.message) deadline 0
    have serves : Serves { echo.host.task with exchange } .none (errand.count (sentBy echo.requests echo.clients)) reply
        (own + turn) :=
      parts.serves.send .normal errand nofun (by simp) (by simp [errand, Errand.slot, slot])
    have sent : errand.count (sentBy echo.requests echo.clients) =
        sentBy echo.requests (echo.clients.set client.number { client with place := .waiting round slot }) := by
      have one := tally_set (Client.asked echo.requests) { client with place := .waiting round slot } present
      have two := tally_set Client.noted { client with place := .waiting round slot } present
      simp only [Client.asked, Client.noted, place] at one two
      simp only [sentBy, errand, Errand.count, Counts.mk.injEq]
      omega
    have keeps : Keeps echo.host { echo.host with task := { echo.host.task with exchange } } reply reply client.key := by
      refine .aside rfl (fun number text destined => ?_) fun number response gone => ?_
      · obtain ⟨cell, found, _⟩ := destined.cell
        have below := (Array.getElem?_eq_some_iff.mp found).1
        refine destined.admit errand (fun same => ?_)
          ((Array.getElem?_push_lt below).trans (Array.getElem?_eq_getElem below).symm)
        exact Nat.lt_irrefl _ (Option.some.inj same ▸ below)
      · exact (Exchange.outcome?_push rfl rfl).trans gone
    have left : echo.requests - round = echo.requests - (round + 1) + 1 := by omega
    obtain ⟨lower, less, moves⟩ := parts.goes present (by simp [place]) client.life (.waiting round slot) keeps
      (.of_same rfl rfl) fine.resting rfl (fine.bound (by simp [place])) ⟨more, parts.serves.asked _ _⟩
      (by simp [Client.heard, place]) (sent ▸ serves)
      (by simp only [Client.weight, Client.ahead, place, left, turn]; split <;> omega)
    refine ⟨_, lower, ?_, less, moves⟩
    simp only [clientStep?, present, Option.bind_eq_bind, Option.bind_some, place, if_pos more, setClient]
    rw [show Message.user echoCode (some (requestText client.number round)) = errand.message from rfl, called]
    rfl
  · have last : round = echo.requests := by omega
    have same : sentBy echo.requests (echo.clients.set client.number { client with place := .noting }) =
        sentBy echo.requests echo.clients :=
      sentBy_same present (by simp [Client.asked, place, last]) (by simp [Client.noted, place])
    obtain ⟨lower, less, moves⟩ := parts.goes present (by simp [place]) client.life .noting
      (Keeps.aside rfl (fun _ _ destined => destined) fun _ _ gone => gone) (.of_same rfl rfl) fine.resting rfl
      (fine.bound (by simp [place])) trivial (by simp [Client.heard, place, last]) (same ▸ parts.serves)
      (by simp [Client.weight, Client.ahead, place, last])
    refine ⟨_, lower, ?_, less, moves⟩
    simp only [clientStep?, present, Option.bind_eq_bind, Option.bind_some, place, if_neg more, setClient]

private theorem Parts.client_hearing (parts : Parts echo notice reply complaints lead own)
    (present : echo.clients[number]? = some client) {round slot : Nat} (place : client.place = .waiting round slot)
    {response : Response String} (gone : echo.host.task.exchange.outcome? slot = some response) :
    Advances echo number (lead + load echo + own) := by
  obtain ⟨rfl, fine⟩ := parts.working present (by simp [place])
  obtain rfl := fine.number
  have relies := fine.stands
  simp only [Client.Stands, place] at relies
  obtain ⟨within, destined⟩ := relies
  obtain ⟨cell, found, away⟩ := Exchange.outcome?_eq_some.mp gone
  obtain ⟨_, found', tells, _⟩ := destined.cell
  obtain rfl := Option.some.inj (found.symm.trans found')
  have step : echo.clientStep? client.number = some (echo.heard client round response) := by
    simp only [clientStep?, present, Option.bind_eq_bind, Option.bind_some, place, gone]
  have keeps : Keeps echo.host echo.host reply reply client.key :=
    .aside rfl (fun _ _ destined => destined) fun _ _ gone => gone
  have bound := fine.bound (by simp [place])
  rcases tells.gone response away with rfl | rfl
  · let after : Client := { client with matched := client.matched + 1, place := .asking (round + 1) }
    have same : sentBy echo.requests (echo.clients.set client.number after) = sentBy echo.requests echo.clients :=
      sentBy_same present (by simp [after, Client.asked, place]) (by simp [after, Client.noted, place])
    have moved : after.Fine echo.requests echo.host reply client.number := fine.goes keeps fine.resting rfl bound within
    obtain ⟨lower, less, moves⟩ := parts.acted present (by simp [place]) keeps (.of_same rfl rfl) moved rfl
      (same ▸ parts.serves) (List.append_nil echo.lines).symm
      (by simp only [after, Client.heard, place, List.length_nil]; omega) nofun (fun some => absurd rfl some)
      (by simp [after, Client.weight, place, gone])
    refine ⟨_, lower, step, less, ?_⟩
    rw [Echo.heard, if_pos rfl]
    exact moves
  · let after : Client := { client with place := .asking (round + 1) }
    have same : sentBy echo.requests (echo.clients.set client.number after) = sentBy echo.requests echo.clients :=
      sentBy_same present (by simp [after, Client.asked, place]) (by simp [after, Client.noted, place])
    have moved : after.Fine echo.requests echo.host reply client.number := fine.goes keeps fine.resting rfl bound within
    obtain ⟨lower, less, moves⟩ := parts.acted present (by simp [place]) keeps (.of_same rfl rfl) moved rfl
      (same ▸ parts.serves) (rfl : _ = echo.lines ++ [lateLine client.number])
      (by simp only [after, Client.heard, place, List.length_singleton]; omega)
      (fun line member => ⟨client.number, List.mem_singleton.mp member⟩) (fun _ => ⟨slot, gone⟩)
      (by simp [after, Client.weight, place, gone])
    refine ⟨_, lower, step, less, ?_⟩
    rw [Echo.heard, if_neg nofun]
    exact moves

private theorem Parts.client_looking (parts : Parts echo notice reply complaints lead own)
    (present : echo.clients[number]? = some client) {round slot : Nat} (place : client.place = .waiting round slot)
    (waits : echo.host.task.exchange.outcome? slot = none) : Advances echo number (lead + load echo + own) ∨
      Pending echo.host.task slot ∧ ∃ lower, Moves echo (lead + load echo + own) (echo.move (.client number)) lower := by
  obtain ⟨rfl, fine⟩ := parts.working present (by simp [place])
  obtain rfl := fine.number
  have relies := fine.stands
  simp only [Client.Stands, place] at relies
  obtain ⟨cell, found, tells, due⟩ := relies.2.cell
  let exchange := echo.host.task.exchange.look slot
  let looked : EchoHost := { echo.host with task := { echo.host.task with exchange } }
  have step : echo.clientStep? client.number =
      if echo.host.task.exchange.isAwake slot then some { echo with host := looked } else none := by
    simp only [clientStep?, present, Option.bind_eq_bind, Option.bind_some, place, waits]
    rfl
  have stays : ∀ response, cell.caller ≠ .gone response := fun response away => by
    simp [Exchange.outcome?_eq_some.mpr ⟨cell, found, away⟩] at waits
  have keeps : Keeps echo.host looked reply reply echo.host.native := by
    refine .aside rfl (fun _ _ destined => destined.look) fun other response gone => ?_
    by_cases same : slot = other
    · exact same ▸ Exchange.outcome?_look_of_gone (same ▸ gone)
    · exact (Exchange.outcome?_look_of_ne same).trans gone
  have serves : Serves looked.task .none (sentBy echo.requests echo.clients) reply own := parts.serves.modified _ _
  by_cases awake : echo.host.task.exchange.isAwake slot = true
  · rw [if_pos awake] at step
    by_cases leaves : ∃ response, Exchange.looked cell = .gone response
    · obtain ⟨response, leaves⟩ := leaves
      have gone : exchange.outcome? slot = some response := by
        simp [exchange, Exchange.outcome?, Exchange.look, Array.getElem?_modify, found, leaves]
      have nearer : client.weight echo.requests exchange < client.weight echo.requests echo.host.task.exchange := by
        simp [Client.weight, place, waits, gone]
      have lighter : load { echo with host := looked } < load echo :=
        Nat.add_lt_add_right (tally_lt (fun client _ => client.weight_le keeps) (List.mem_of_getElem? present) nearer) _
      have after := parts.hosted keeps parts.away (.of_same rfl rfl) serves Iff.rfl
      exact .inl ⟨_, lead + load { echo with host := looked } + own, step, by omega,
        ⟨⟨_, _, _, _, _, after, rfl⟩, rfl, rfl, by omega, .inl (by omega)⟩⟩
    · have unanswered : cell.answer = none := by
        refine Option.eq_none_iff_forall_ne_some.mpr fun response answer => leaves ?_
        cases caller : cell.caller with
        | looking | expired => exact ⟨response, by simp [Exchange.looked, caller, answer]⟩
        | parked => simp [tells.asleep caller] at answer
        | gone response => exact absurd caller (stays response)
      refine .inr ⟨due unanswered, ?_⟩
      rw [move, step, Option.getD_some]
      exact ⟨_, .of_hosted parts keeps parts.away (.of_same rfl rfl) serves Iff.rfl (.inr ⟨rfl, rfl, rfl⟩)⟩
  · rw [if_neg awake] at step
    have asleep : cell.caller = .parked := by
      cases caller : cell.caller with
      | parked => rfl
      | looking | expired => simp [Exchange.isAwake, found, caller] at awake
      | gone response => exact absurd caller (stays response)
    refine .inr ⟨due (tells.asleep asleep), ?_⟩
    rw [move, step, Option.getD_none]
    exact ⟨_, .refl parts⟩

private theorem Parts.client_noting (parts : Parts echo notice reply complaints lead own)
    (present : echo.clients[number]? = some client) (place : client.place = .noting) :
    Advances echo number (lead + load echo + own) := by
  obtain ⟨rfl, fine⟩ := parts.working present (by simp [place])
  obtain rfl := fine.number
  have unclosed := parts.serves.unclosed (by simp)
  let errand := Errand.note ("client " ++ toString client.number ++ " done")
  let exchange := echo.host.task.exchange.admitted .low errand.order 0
  have serves : Serves { echo.host.task with exchange } .none (errand.count (sentBy echo.requests echo.clients)) reply
      (own + turn) := parts.serves.send .low errand (by simp [errand]) (Nat.le_refl _) (by simp [errand, Errand.slot])
  have sent : errand.count (sentBy echo.requests echo.clients) =
      sentBy echo.requests (echo.clients.set client.number { client with place := .leaving }) := by
    have one := tally_set (Client.asked echo.requests) { client with place := .leaving } present
    have two := tally_set Client.noted { client with place := .leaving } present
    simp only [Client.asked, Client.noted, place] at one two
    simp only [sentBy, errand, Errand.count, Counts.mk.injEq]
    omega
  have keeps : Keeps echo.host { echo.host with task := { echo.host.task with exchange } } reply reply client.key :=
    .aside rfl (fun number text destined => destined.admit errand (by simp [errand, Errand.slot]) rfl)
      fun _ _ gone => gone
  obtain ⟨lower, less, moves⟩ := parts.goes present (by simp [place]) client.life .leaving keeps (.of_same rfl rfl)
    fine.resting rfl (fine.bound (by simp [place])) trivial (by simp [Client.heard, place]) (sent ▸ serves)
    (by simp only [Client.weight, place, turn]; omega)
  refine ⟨_, lower, ?_, less, moves⟩
  simp only [clientStep?, present, Option.bind_eq_bind, Option.bind_some, place, setClient]
  rw [show (Message.user noteCode (some ("client " ++ toString client.number ++ " done"))).withPriority .low =
    errand.message from rfl, post_accepted unclosed errand rfl]
  rfl

private theorem Parts.client_leaving (parts : Parts echo notice reply complaints lead own)
    (present : echo.clients[number]? = some client) (place : client.place = .leaving) :
    Advances echo number (lead + load echo + own) := by
  obtain ⟨rfl, fine⟩ := parts.working present (by simp [place])
  obtain rfl := fine.number
  obtain ⟨life, terminated⟩ : ∃ life, client.life.terminate? = some life := by
    simp [Lifecycle.terminate?, fine.resting]
  obtain ⟨_, gone⟩ := Lifecycle.terminate?_eq_some terminated
  have same : sentBy echo.requests (echo.clients.set client.number { client with life, place := .reporting }) =
      sentBy echo.requests echo.clients :=
    sentBy_same present (by simp [Client.asked, place]) (by simp [Client.noted, place])
  obtain ⟨lower, less, moves⟩ := parts.goes present (by simp [place]) life .reporting
    (Keeps.aside rfl (fun _ _ destined => destined) fun _ _ gone => gone) (.of_same rfl rfl)
    (by rw [gone]; exact fine.resting) (by rw [gone]) (fine.bound (by simp [place])) trivial
    (by simp [Client.heard, place]) (same ▸ parts.serves) (by simp [Client.weight, place])
  refine ⟨_, lower, ?_, less, moves⟩
  simp only [clientStep?, present, Option.bind_eq_bind, Option.bind_some, place, terminated, Option.map_some, setClient]

private theorem Parts.client_reporting (parts : Parts echo notice reply complaints lead own)
    (present : echo.clients[number]? = some client) (place : client.place = .reporting) :
    Advances echo number (lead + load echo + own) := by
  obtain ⟨rfl, fine⟩ := parts.working present (by simp [place])
  obtain rfl := fine.number
  have bound := fine.bound (by simp [place])
  have proper : (echo.host.kernel.bound client.key).isSome = true := bound ▸ fine.proper
  have still := Kernel.carryOutAll_still echo.host.kernel client.key [client.life.terminatedEffect]
  have plain : ∀ effect ∈ [client.life.terminatedEffect], effect.isPlain = true := by
    simp [Lifecycle.terminatedEffect, Effect.isPlain]
  have named := Kernel.carryOutAll_named echo.host.kernel client.key plain
  obtain ⟨handles, kept⟩ := named.of_bound proper
  have keeps : Keeps echo.host
      { echo.host with kernel := echo.host.kernel.carryOutAll client.key [client.life.terminatedEffect] } reply reply
        client.key :=
    ⟨rfl, rfl, Nat.le_of_eq named.threads.symm, Nat.le_of_eq handles.symm, still.config,
      fun key _ _ => congrFun kept key, fun _ _ destined => destined, fun _ _ gone => gone⟩
  have same : sentBy echo.requests (echo.clients.set client.number { client with place := .ended }) =
      sentBy echo.requests echo.clients :=
    sentBy_same present (by simp [Client.asked, place]) (by simp [Client.noted, place])
  obtain ⟨lower, less, moves⟩ := parts.goes present (by simp [place]) client.life .ended keeps (.of_same rfl rfl)
    fine.resting rfl ((congrFun kept client.key).trans bound) trivial (by simp [Client.heard, place])
    (same ▸ parts.serves) (by simp [Client.weight, place])
  refine ⟨_, lower, ?_, less, moves⟩
  simp only [clientStep?, present, Option.bind_eq_bind, Option.bind_some, place, withEffects, setClient]

/-- A client has ended, or waits for an answer that is due. -/
def Idles (echo : Echo) (number : Nat) : Prop := ∀ client, echo.clients[number]? = some client →
  client.place = .ended ∨ ∃ round slot, client.place = .waiting round slot ∧ Pending echo.host.task slot

/-- A client gets on unless it has ended or waits for an answer that is due. -/
theorem Parts.client_step (parts : Parts echo notice reply complaints lead own) (number : Nat) :
    Advances echo number (lead + load echo + own) ∨
      Idles echo number ∧ ∃ lower, Moves echo (lead + load echo + own) (echo.move (.client number)) lower := by
  have stays (blocked : echo.clientStep? number = none) :
      ∃ lower, Moves echo (lead + load echo + own) (echo.move (.client number)) lower := by
    rw [move, blocked, Option.getD_none]
    exact ⟨_, .refl parts⟩
  cases present : echo.clients[number]? with
  | none =>
    refine .inr ⟨fun client found => ?_, stays (by simp [clientStep?, present])⟩
    rw [present] at found
    cases found
  | some client =>
    cases place : client.place with
    | entering => exact .inl (parts.client_entering present place)
    | asking round => exact .inl (parts.client_asking present place)
    | waiting round slot =>
      cases outcome : echo.host.task.exchange.outcome? slot with
      | some response => exact .inl (parts.client_hearing present place outcome)
      | none =>
        refine (parts.client_looking present place outcome).imp_right fun ⟨due, moves⟩ => ⟨fun other found => ?_, moves⟩
        obtain rfl := Option.some.inj (present.symm.trans found)
        exact .inr ⟨round, slot, place, due⟩
    | noting => exact .inl (parts.client_noting present place)
    | leaving => exact .inl (parts.client_leaving present place)
    | reporting => exact .inl (parts.client_reporting present place)
    | ended =>
      refine .inr ⟨fun other found => ?_, stays (by simp [clientStep?, present, place])⟩
      obtain rfl := Option.some.inj (present.symm.trans found)
      exact .inl place

end TaskKernel.Demo.Echo
