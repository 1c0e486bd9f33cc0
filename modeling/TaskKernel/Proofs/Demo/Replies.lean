import TaskKernel.Proofs.Demo.Roster
import TaskKernel.Proofs.Descent

/-!
The echoing program from its settings on. However main, the clients, the task and time take turns, the task handles
every request and every note once, and what the clients have matched is all but the waits that were in vain.
-/
namespace TaskKernel

namespace Demo.Echo

variable {echo : Echo} {rank : Nat}

theorem Sound.move (sound : Sound echo rank) (move : Move) : ∃ lower, Moves echo rank (echo.move move) lower := by
  obtain ⟨notice, reply, complaints, lead, own, parts, rfl⟩ := sound
  cases move with
  | main =>
    rcases parts.main with ⟨after, lower, step, _, moves⟩ | ⟨blocked, _⟩
    · rw [Echo.move, step]
      exact ⟨lower, moves⟩
    · rw [Echo.move, blocked]
      exact ⟨_, .refl parts⟩
  | client number =>
    rcases parts.client_step number with ⟨after, lower, step, _, moves⟩ | ⟨_, moves⟩
    · rw [Echo.move, step]
      exact ⟨lower, moves⟩
    · exact moves
  | serve => exact parts.serve
  | rouseCaller slot => exact parts.rouseCaller slot
  | expireCaller slot => exact parts.expireCaller slot
  | rouse => exact parts.rouse
  | passTo now => exact parts.passTo now

/-- The program goes on as it has been planned. -/
structure Sustains (echo after : Echo) : Prop where
  sound : ∃ rank, Sound after rank
  planned : after.planned = echo.planned
  requests : after.requests = echo.requests

theorem Sound.moves (sound : Sound echo rank) (list : List Move) : Sustains echo (echo.moves list) := by
  induction list generalizing echo rank with
  | nil => exact ⟨⟨rank, sound⟩, rfl, rfl⟩
  | cons move rest ih =>
    obtain ⟨lower, moves⟩ := sound.move move
    obtain ⟨last, planned, requests⟩ := ih moves.sound
    exact ⟨last, planned.trans moves.planned, requests.trans moves.requests⟩

/-- The program after a number of moves of a schedule. -/
def follow (echo : Echo) (schedule : Nat → Move) : Nat → Echo
  | 0 => echo
  | number + 1 => (echo.follow schedule number).move (schedule number)

/-- Main, the task and each of the clients go on being given steps. -/
structure Fair (echo : Echo) (schedule : Nat → Move) : Prop where
  main : ∀ number, ∃ later, number ≤ later ∧ schedule later = .main
  serve : ∀ number, ∃ later, number ≤ later ∧ schedule later = .serve
  client : ∀ client < echo.planned, ∀ number, ∃ later, number ≤ later ∧ schedule later = .client client

variable {schedule : Nat → Move} {moment number : Nat}

theorem Sound.follow (sound : Sound echo rank) (schedule : Nat → Move) (number : Nat) :
    Sustains echo (echo.follow schedule number) := by
  induction number with
  | zero => exact ⟨⟨rank, sound⟩, rfl, rfl⟩
  | succ number ih =>
    obtain ⟨⟨rank, sound⟩, planned, requests⟩ := ih
    obtain ⟨lower, moves⟩ := sound.move (schedule number)
    exact ⟨⟨lower, moves.sound⟩, moves.planned.trans planned, moves.requests.trans requests⟩

theorem Calm.trans {before after last : Echo} (one : Calm before after) (two : Calm after last) : Calm before last where
  stage := two.stage.trans one.stage
  clients := two.clients.trans one.clients
  queue := two.queue.trans one.queue
  place := two.place.trans one.place

private theorem Calm.pending {after : Echo} (calm : Calm echo after) {slot : Nat} (due : Pending echo.host.task slot) :
    Pending after.host.task slot := by
  rw [Pending, calm.queue, calm.place]
  exact due

private theorem Parts.serving {notice : Notice} {reply : Option String} {complaints : List Line} {lead own : Nat}
    (parts : Parts echo notice reply complaints lead own) {count : Nat} (joining : echo.stage = .joining count) :
    Running echo.host.task ∧ echo.host.task.place ≠ .ended ∧ echo.clients.length = echo.planned := by
  have stands := parts.stands
  simp only [Stands, joining] at stands
  obtain ⟨rfl, all, _, _, running, _⟩ := stands
  refine ⟨running, fun ended => ?_, all⟩
  cases parts.serves.taken_of_past (by rw [ended]; rfl)

section Stuck

variable (stuck : Descent.Stuck (echo.follow schedule) Sound moment rank)

include stuck

private theorem Stuck.calm {later : Nat} (order : moment ≤ later) :
    Calm (echo.follow schedule moment) (echo.follow schedule later) := by
  induction later with
  | zero =>
    obtain rfl : moment = 0 := by omega
    exact ⟨rfl, rfl, rfl, rfl⟩
  | succ later ih =>
    by_cases last : moment = later + 1
    · rw [last]
      exact ⟨rfl, rfl, rfl, rfl⟩
    · obtain ⟨lower, moves⟩ := (stuck.level later (by omega)).move (schedule later)
      rcases moves.falls with less | calm
      · exact absurd moves.sound (stuck.least (later + 1) lower order less)
      · exact (ih (by omega)).trans calm

private theorem Stuck.unmoved {lower : Nat} (less : lower < rank) :
    ¬ Moves (echo.follow schedule moment) rank ((echo.follow schedule moment).move (schedule moment)) lower :=
  fun moves => stuck.least (moment + 1) lower (by omega) less moves.sound

private theorem Stuck.held (main : schedule moment = .main) : Held (echo.follow schedule moment) := by
  obtain ⟨_, _, _, _, _, parts, exact⟩ := stuck.level moment (Nat.le_refl moment)
  rcases parts.main with ⟨after, lower, step, less, moves⟩ | ⟨_, held⟩
  · refine absurd ?_ (Stuck.unmoved stuck (exact ▸ less))
    rw [main, Echo.move, step, exact]
    exact moves
  · exact held

private theorem Stuck.idles (client : schedule moment = .client number) : Idles
    (echo.follow schedule moment) number := by
  obtain ⟨_, _, _, _, _, parts, exact⟩ := stuck.level moment (Nat.le_refl moment)
  rcases parts.client_step number with ⟨after, lower, step, less, moves⟩ | ⟨idles, _⟩
  · refine absurd ?_ (Stuck.unmoved stuck (exact ▸ less))
    rw [client, Echo.move, step, exact]
    exact moves
  · exact idles

private theorem Stuck.rests (serve : schedule moment = .serve)
    (running : Running (echo.follow schedule moment).host.task)
    (unended : (echo.follow schedule moment).host.task.place ≠ .ended) :
    (echo.follow schedule moment).host.task.place = .receiving ∧
      (echo.follow schedule moment).host.task.exchange.queue.entries = [] := by
  refine Classical.byContradiction fun busy => ?_
  obtain ⟨_, _, _, _, _, parts, exact⟩ := stuck.level moment (Nat.le_refl moment)
  obtain ⟨lower, less, moves⟩ := parts.serve_busy running unended busy
  refine Stuck.unmoved stuck (exact ▸ less) ?_
  rw [serve, exact]
  exact moves

private theorem Stuck.rests_soon (fair : Fair echo schedule)
    (unended : (echo.follow schedule moment).host.task.place ≠ .ended)
    (running : ∀ later, moment ≤ later → Running (echo.follow schedule later).host.task) : ∃ later, moment ≤ later ∧
      (echo.follow schedule later).host.task.place = .receiving ∧
      (echo.follow schedule later).host.task.exchange.queue.entries = [] := by
  obtain ⟨later, order, serve⟩ := fair.serve moment
  have calm := Stuck.calm stuck order
  exact ⟨later, order, Stuck.rests (stuck.later order) serve (running later order) (calm.place ▸ unended)⟩

/-- Main does not wait for a client for ever: whoever waits for the task is answered. -/
private theorem Stuck.joins (fair : Fair echo schedule) (planned : (echo.follow schedule moment).planned = echo.planned)
    {count : Nat} {client : Client} (stage : (echo.follow schedule moment).stage = .joining count)
    (present : (echo.follow schedule moment).clients[count]? = some client) : client.place = .ended := by
  have serving {later : Nat} (order : moment ≤ later) : Running (echo.follow schedule later).host.task ∧
      (echo.follow schedule later).host.task.place ≠ .ended ∧
      (echo.follow schedule later).clients.length = (echo.follow schedule later).planned := by
    obtain ⟨_, _, _, _, _, parts, _⟩ := stuck.level later order
    exact parts.serving ((Stuck.calm stuck order).stage.trans stage)
  obtain ⟨running, unended, all⟩ := serving (Nat.le_refl moment)
  have within : count < echo.planned := planned ▸ all ▸ (List.getElem?_eq_some_iff.mp present).1
  obtain ⟨turn, after, moves⟩ := fair.client count within moment
  have calm := Stuck.calm stuck after
  rcases Stuck.idles (stuck.later after) moves client (calm.clients ▸ present) with ended | ⟨_, slot, _, due⟩
  · exact ended
  · obtain ⟨last, beyond, place, empty⟩ := Stuck.rests_soon (stuck.later after) fair (serving after).2.1
      fun later order => (serving (Nat.le_trans after order)).1
    rcases (Stuck.calm (stuck.later after) beyond).pending due with busy | ⟨entry, member, _⟩
    · rw [place] at busy
      cases busy
    · rw [empty] at member
      cases member

/-- Main does not wait for the task for ever: the task takes the order to exit. -/
private theorem Stuck.joinsTask (fair : Fair echo schedule)
    (stage : (echo.follow schedule moment).stage = .joiningTask) :
    (echo.follow schedule moment).host.task.place = .ended := by
  have ordered {later : Nat} (order : moment ≤ later) : ∃ notice reply complaints lead own,
      Parts (echo.follow schedule later) notice reply complaints lead own ∧ notice ≠ .none ∧
        Running (echo.follow schedule later).host.task := by
    obtain ⟨notice, reply, complaints, lead, own, parts, _⟩ := stuck.level later order
    have stands := parts.stands
    simp only [Stands, (Stuck.calm stuck order).stage.trans stage] at stands
    exact ⟨notice, reply, complaints, lead, own, parts, stands.1, stands.2.1.running⟩
  refine Classical.byContradiction fun unended => ?_
  obtain ⟨later, order, place, empty⟩ := Stuck.rests_soon stuck fair unended fun later order => by
    obtain ⟨_, _, _, _, _, _, _, running⟩ := ordered order
    exact running
  obtain ⟨notice, _, _, _, _, parts, given, _⟩ := ordered order
  exact given (parts.serves.notice_of_rest place empty)

end Stuck

/-- Main has ended, well or not. -/
def IsOver (echo : Echo) : Prop := ∃ failure, echo.stage = .ended failure

private theorem Sound.over (sound : Sound echo rank) (fair : Fair echo schedule) {moment weight : Nat}
    (stuck : Descent.Stuck (echo.follow schedule) Sound moment weight) :
    ∃ later, moment ≤ later ∧ (echo.follow schedule later).IsOver := by
  obtain ⟨later, order, main⟩ := fair.main moment
  have there := stuck.later order
  refine ⟨later, order, ?_⟩
  cases Stuck.held there main with
  | client count client stage present unended =>
    exact absurd (Stuck.joins there fair (sound.follow schedule later).planned stage present) unended
  | task stage unended => exact absurd (Stuck.joinsTask there fair stage) unended
  | finished stage => exact ⟨none, stage⟩

private theorem Sound.ends (sound : Sound echo rank) (fair : Fair echo schedule) :
    ∃ number, (echo.follow schedule number).IsOver := by
  have keeps (moment weight : Nat) (there : Sound (echo.follow schedule moment) weight) :
      ∃ next ≤ weight, Sound (echo.follow schedule (moment + 1)) next := by
    obtain ⟨lower, moves⟩ := there.move (schedule moment)
    exact ⟨lower, moves.most, moves.sound⟩
  have start : Sound (echo.follow schedule 0) rank := sound
  obtain ⟨number, _, finished⟩ := Descent.done_of_stuck keeps (fun _ _ stuck => sound.over fair stuck) start
  exact ⟨number, finished⟩

variable {environment : Environment} {now : Instant}

/-- How many clients the environment asks for. -/
def clientsAsked (environment : Environment) : Nat :=
  (environment.parse Text.Numeral.word64? "ECHO_CLIENTS" 4).toNat

/-- How often each client is to ask. -/
def requestsAsked (environment : Environment) : Nat :=
  (environment.parse Text.Numeral.word64? "ECHO_REQUESTS" 5).toNat

/-- The program with a task that has been made and not yet started. -/
def made (kernel : Kernel) (config : Config) (main : ThreadKey) (planned requests : Nat) (began : Instant) : Echo where
  host := Task.Host.made kernel config settings handler ⟨0, 0⟩ none
  main
  planned
  requests
  clients := []
  began
  stage := .beginning
  total := 0
  lines := header

private theorem start_made (environment : Environment) (now : Instant) : ∃ kernel main,
    kernel.config = some (Config.firstReading environment).1 ∧ start environment now =
      .ok (made kernel (Config.firstReading environment).1 main (clientsAsked environment) (requestsAsked environment)
        now) := by
  cases threads : (Kernel.fresh environment now).newThread with
  | mk main fresh =>
    have unread : fresh.config = none ∧ fresh.environment = environment := by cases threads; exact ⟨rfl, rfl⟩
    have fixed : (fresh.start main).config = some (Config.firstReading environment).1 :=
      unread.2 ▸ Kernel.start_config unread.1 main
    have starts : Task.Host.Starts settings (fresh.start main).timers (none : Option (Timer Counts)) := .untimed rfl
    have created := Task.Host.create_made fixed (Config.firstReading_roomy environment) rfl starts main handler ⟨0, 0⟩
    refine ⟨fresh.start main, main, fixed, ?_⟩
    obtain ⟨answer, after, pair⟩ : ∃ answer after,
        Task.Host.create (fresh.start main) main settings handler ⟨0, 0⟩ = (answer, after) := ⟨_, _, rfl⟩
    rw [pair] at created
    subst created
    unfold start
    simp only [threads, pair]
    rfl

private theorem Serves.made (life : Lifecycle) :
    Serves (Task.create life Echo.handler ⟨0, 0⟩ none .normal none) .none ⟨0, 0⟩ none 21 where
  handler := rfl
  untimed := ⟨rfl, rfl⟩
  closed := rfl
  numbered := Queue.empty_numbered
  fits entry member := by cases member
  issued slot pending := by
    rcases pending with busy | ⟨entry, member, _⟩
    · cases busy
    · cases member
  waiting := ⟨none, rfl, fun some => absurd rfl some, .absent⟩
  stands := ⟨⟨0, 0⟩, 21, ⟨⟨nofun, rfl⟩, rfl⟩, rfl, rfl⟩

private theorem made_sound {kernel : Kernel} {config : Config} (fixed : kernel.config = some config)
    (staffed : Staffed config) (main : ThreadKey) (planned requests : Nat) (began : Instant) :
    ∃ rank, Sound (made kernel config main planned requests began) rank := by
  have staged : Staged (made kernel config main planned requests began).host :=
    ⟨⟨config, fixed, staffed⟩, Nat.lt_succ_self _, rfl, Nat.le_refl _⟩
  have creatable : (made kernel config main planned requests began).host.task.life.Creatable :=
    ⟨show Creation.nameFault? "echo" = none by decide +kernel, staffed.stack⟩
  have heard : Heard (made kernel config main planned requests began) [] := ⟨rfl, nofun, fun some => absurd rfl some⟩
  have crew : Crew requests (made kernel config main planned requests began).host none [] :=
    ⟨fun number client present => by simp at present, .nil⟩
  exact ⟨_, .none, none, [], _, 21, ⟨staged, .made _, crew, heard,
    ⟨rfl, rfl, rfl, rfl, rfl, creatable, (List.append_nil header).symm, rfl⟩⟩, rfl⟩

private theorem Sound.finished (sound : Sound echo rank) (finished : echo.IsOver) :
    ∃ complaints, Heard echo complaints ∧ echo.stage = .ended none ∧ Stands echo .none complaints 0 ∧
    echo.host.task.surface.state = ⟨echo.planned * echo.requests, echo.planned⟩ ∧
    echo.total + complaints.length = echo.planned * echo.requests := by
  obtain ⟨failure, ended⟩ := finished
  obtain ⟨notice, reply, complaints, lead, own, parts, _⟩ := sound
  have stands := parts.stands
  cases failure with
  | some failure => simp only [Stands, ended] at stands
  | none =>
    simp only [Stands, ended] at stands
    obtain ⟨done, place, lines, rfl⟩ := stands
    refine ⟨complaints, parts.heard, ended, ?_, (parts.serves.counted place).trans done.sent, ?_⟩
    · simp only [Stands, ended]
      exact ⟨done, place, lines, trivial⟩
    · have heard : tally (Client.heard echo.requests) echo.clients = echo.clients.length * echo.requests :=
        tally_const fun client member => by rw [Client.heard, done.joined.ended client member]
      rw [done.joined.total, parts.heard.balance, heard, done.all]

/-- One client that asks twice. -/
def twice : Environment := (Environment.empty.setText "ECHO_CLIENTS" "1").setText "ECHO_REQUESTS" "2"

end Demo.Echo

end TaskKernel
