import TaskKernel.Proofs.Demo.Echo
import TaskKernel.Proofs.Thread.Creation

/-!
What main does: it starts the task and its clients, joins the clients in their order and adds up what they have
matched, and joins the task. It is held up only by a client or a task that has not ended.
-/
namespace TaskKernel.Demo.Echo

variable {echo : Echo} {notice later : Notice} {reply next : Option String} {complaints : List Line}
  {lead own lower rank : Nat} {host : EchoHost} {actor : ThreadKey}

/-- Main takes a step that brings the end nearer. -/
def Leads (echo : Echo) (rank : Nat) : Prop :=
  ∃ after lower, echo.mainStep? = some after ∧ lower < rank ∧ Moves echo rank after lower

theorem Keeps.refl (host : EchoHost) (reply : Option String) (actor : ThreadKey) : Keeps host host reply reply actor :=
  .aside rfl (fun _ _ destined => destined) fun _ _ gone => gone

private theorem Parts.staged_on (parts : Parts echo notice reply complaints lead own)
    (keeps : Keeps echo.host host reply next echo.host.native)
    (serves : Serves host.task later (sentBy echo.requests echo.clients) next lower) {began : Instant} {stage : Stage}
    {total : Nat} {lines : List Line}
    (step : echo.mainStep? = some { echo with host, began, stage, total, lines })
    (after : Nat) (stands : Stands { echo with host, began, stage, total, lines } later complaints after)
    (falls : after + lower < lead + own) : Leads echo (lead + load echo + own) := by
  have lighter := load_le keeps
  have less : after + load { echo with host } + lower < lead + load echo + own := by omega
  refine ⟨_, _, step, less, ⟨later, next, complaints, after, lower, ⟨parts.staged.kept keeps, serves,
    parts.crew.kept keeps parts.away, ⟨parts.heard.balance, parts.heard.late, fun some => ?_⟩, stands⟩, rfl⟩, rfl, rfl,
    Nat.le_of_lt less, .inl less⟩
  obtain ⟨slot, late⟩ := parts.heard.cause some
  exact ⟨slot, keeps.outcomes slot _ late⟩

theorem Parts.begin (parts : Parts echo notice reply complaints lead own) (beginning : echo.stage = .beginning) :
    Leads echo (lead + load echo + own) := by
  have stands := parts.stands
  simp only [Stands, beginning] at stands
  obtain ⟨rfl, clients, total, idle, fresh, creatable, lines, exact⟩ := stands
  let life : Lifecycle := { echo.host.task.life with detached := false, starting := true }
  have begins : echo.host.task.begin false = (none, { echo.host.task with life, place := .entering }, []) := by
    simp [Task.begin, Task.hasHandler, idle, creatable.begin fresh, life]
  obtain ⟨lower, less, serves⟩ := parts.serves.begun idle life
  have keeps : Keeps echo.host { echo.host with task := { echo.host.task with life, place := .entering } } reply reply
      echo.host.native := .aside rfl (fun _ _ destined => destined.begun idle life) fun _ _ gone => gone
  have step : echo.mainStep? = some { echo with
      host := { echo.host with task := { echo.host.task with life, place := .entering } }
      stage := .committing } := by
    simp only [mainStep?, beginning, Task.Host.begin, begins]
    rfl
  exact parts.staged_on keeps serves step (echo.planned + turn + 6) ⟨rfl, clients, total, by simp, rfl, lines, rfl⟩
    (by omega)

private theorem Parts.commit (parts : Parts echo notice reply complaints lead own)
    (committing : echo.stage = .committing) : Leads echo (lead + load echo + own) := by
  have stands := parts.stands
  simp only [Stands, committing] at stands
  obtain ⟨rfl, clients, total, begun, joinable, lines, exact⟩ := stands
  have keeps : Keeps echo.host echo.host.commit reply reply echo.host.native :=
    .aside rfl (fun _ _ destined => destined.framed _ _ _) fun _ _ gone => gone
  have step : echo.mainStep? = some { echo with
      host := echo.host.commit, began := echo.host.kernel.now, stage := .spawning } := by
    simp only [mainStep?, committing]
  exact parts.staged_on keeps (parts.serves.framed _ _) step (echo.planned + turn + 5)
    ⟨rfl, by simp [clients], total, ⟨begun, .of_commit joinable⟩, lines, rfl⟩ (by omega)

theorem spawn_eq {config : Config} {life begun : Lifecycle} (fixed : echo.host.kernel.config = some config)
    (built : Lifecycle.build ⟨echo.host.kernel.handles + 1⟩ config none none none = .ok life)
    (begins : life.begin false true = ⟨none, begun, true, []⟩) : echo.spawn = { echo with
      host := { echo.host with kernel := { echo.host.kernel with
        handles := echo.host.kernel.handles + 1
        threads := echo.host.kernel.threads + 1 } }
      clients := echo.clients ++
        [⟨echo.clients.length, echo.host.kernel.threads, begun.commit, 0, none, .entering⟩] } := by
  let named : Kernel := { echo.host.kernel with handles := echo.host.kernel.handles + 1 }
  have known : named.config = some config := fixed
  have read : named.readConfig echo.main = (config, named) := Kernel.readConfig_of_config known echo.main
  simp only [spawn, Kernel.allocateHandle, show Kernel.readConfig _ _ = _ from read, Kernel.newThread, named, built,
    begins]
  rfl

private theorem Staffed.builds {config : Config} (staffed : Staffed config) (number : Nat) : ∃ life begun : Lifecycle,
    Lifecycle.build ⟨number⟩ config none none none = .ok life ∧ life.begin false true = ⟨none, begun, true, []⟩ ∧
      begun.handle = ⟨number⟩ := by
  let life : Lifecycle := {
    handle := ⟨number⟩
    name := config.nameStem ++ "-" ++ toString number
    stackSize := config.stackSize
    priority := config.defaultPriority
    state := .new
    detached := false
    hasNative := false
    starting := false }
  have creatable : life.Creatable := ⟨Creation.nameFault?_numbered staffed.name number, staffed.stack⟩
  exact ⟨life, _, Lifecycle.build_roomy staffed.roomy ⟨number⟩ none none, creatable.begin rfl false, rfl⟩

private theorem Parts.spawn (parts : Parts echo notice reply complaints lead own) (spawning : echo.stage = .spawning)
    (more : echo.clients.length < echo.planned) : Leads echo (lead + load echo + own) := by
  have stands := parts.stands
  simp only [Stands, spawning] at stands
  obtain ⟨rfl, most, total, running, lines, exact⟩ := stands
  obtain ⟨config, fixed, staffed⟩ := parts.staged.staffed
  obtain ⟨life, begun, built, begins, handle⟩ := staffed.builds (echo.host.kernel.handles + 1)
  let client : Client := ⟨echo.clients.length, echo.host.kernel.threads, begun.commit, 0, none, .entering⟩
  let host : EchoHost := { echo.host with kernel := { echo.host.kernel with
    handles := echo.host.kernel.handles + 1
    threads := echo.host.kernel.threads + 1 } }
  have keeps : Keeps echo.host host reply reply echo.host.native :=
    ⟨rfl, rfl, Nat.le_succ _, Nat.le_succ _, rfl, fun _ _ _ => rfl, fun _ _ destined => destined, fun _ _ gone => gone⟩
  have step : echo.mainStep? = some { echo with host, clients := echo.clients ++ [client] } := by
    simp only [mainStep?, spawning, if_pos more, spawn_eq fixed built begins]
    rfl
  have proper : client.life.handle = ⟨echo.host.kernel.handles + 1⟩ := handle
  have foreign : client.life.handle ≠ echo.host.task.life.handle := by
    have before := parts.staged.handles
    rw [proper]
    intro same
    rw [← same] at before
    exact Nat.not_succ_le_self _ before
  have fine : client.Fine echo.requests host reply echo.clients.length :=
    ⟨rfl, rfl, rfl, by rw [proper]; rfl, foreign, Nat.lt_succ_self _, Nat.ne_of_gt parts.staged.native, nofun, trivial⟩
  have sent : sentBy echo.requests (echo.clients ++ [client]) = sentBy echo.requests echo.clients := by
    simp [sentBy, tally_append, client, Client.asked, Client.noted]
  have balance := parts.heard.balance
  have left : echo.planned - echo.clients.length = echo.planned - (echo.clients.length + 1) + 1 := by omega
  have lighter : load { echo with host, clients := echo.clients ++ [client] } + 1 = load echo := by
    simp only [load, tally_append, List.length_append, List.length_singleton, left, Nat.succ_mul, client, host,
      Client.weight, Client.fresh]
    omega
  have less : lead + load { echo with host, clients := echo.clients ++ [client] } + own <
      lead + load echo + own := by omega
  refine ⟨_, _, step, less, ⟨.none, reply, complaints, lead, own, ⟨parts.staged.kept keeps, sent ▸ parts.serves,
    parts.crew.append keeps parts.away fine rfl, ⟨?_, parts.heard.late, parts.heard.cause⟩, ?_⟩, rfl⟩, rfl, rfl,
    Nat.le_of_lt less, .inl less⟩
  · simpa only [tally_append, client, Client.heard, Nat.add_zero] using balance
  · simp only [Stands, spawning, List.length_append, List.length_singleton]
    exact ⟨trivial, more, total, running, lines, exact⟩

private theorem Parts.spawned (parts : Parts echo notice reply complaints lead own) (spawning : echo.stage = .spawning)
    (full : ¬ echo.clients.length < echo.planned) : Leads echo (lead + load echo + own) := by
  have stands := parts.stands
  simp only [Stands, spawning] at stands
  obtain ⟨rfl, most, total, running, lines, exact⟩ := stands
  have step : echo.mainStep? = some { echo with stage := .joining 0 } := by
    simp only [mainStep?, spawning, if_neg full]
  have all : echo.clients.length = echo.planned := by omega
  have none : Joined echo.total (echo.clients.take 0) := ⟨total, fun client member => by cases member⟩
  exact parts.staged_on (.refl _ _ _) parts.serves step (echo.planned + turn + 4)
    ⟨rfl, all, Nat.zero_le _, none, running, lines, rfl⟩ (by omega)

private theorem Parts.join (parts : Parts echo notice reply complaints lead own) {count : Nat}
    (joining : echo.stage = .joining count) {client : Client} (present : echo.clients[count]? = some client)
    (ended : client.place = .ended) : Leads echo (lead + load echo + own) := by
  have stands := parts.stands
  simp only [Stands, joining] at stands
  obtain ⟨rfl, all, most, joined, running, lines, exact⟩ := stands
  have faultless := (parts.crew.each count client present).faultless
  have more : count + 1 ≤ echo.planned := all ▸ (List.getElem?_eq_some_iff.mp present).1
  have next : echo.clients.take (count + 1) = echo.clients.take count ++ [client] := by
    rw [List.take_add_one, present, Option.toList_some]
  have also : Joined (echo.total + score client) (echo.clients.take (count + 1)) := by
    refine ⟨?_, fun other member => ?_⟩
    · rw [next, tally_append, ← joined.total, score, faultless]
      rfl
    · rw [next] at member
      rcases List.mem_append.mp member with before | last
      · exact joined.ended other before
      · rw [List.mem_singleton.mp last, ended]
  have step : echo.mainStep? = some { echo with total := echo.total + score client, stage := .joining (count + 1) } := by
    simp only [mainStep?, joining, present, if_pos ended]
  exact parts.staged_on (.refl _ _ _) parts.serves step (echo.planned - (count + 1) + turn + 4)
    ⟨rfl, all, more, also, running, lines, rfl⟩ (by omega)

private theorem Parts.joined (parts : Parts echo notice reply complaints lead own) {count : Nat}
    (joining : echo.stage = .joining count) (absent : echo.clients[count]? = none) :
    Leads echo (lead + load echo + own) := by
  have stands := parts.stands
  simp only [Stands, joining] at stands
  obtain ⟨rfl, all, most, joined, running, lines, exact⟩ := stands
  have beyond := List.getElem?_eq_none_iff.mp absent
  rw [List.take_of_length_le beyond] at joined
  have step : echo.mainStep? = some { echo with lines := echo.lines ++ [echo.totalLine], stage := .quitting } := by
    simp only [mainStep?, joining, absent]
  exact parts.staged_on (.refl _ _ _) parts.serves step (turn + 3)
    ⟨rfl, ⟨all, joined, running⟩, ⟨echo.host.kernel.now.since echo.began, by rw [lines]; rfl⟩, rfl⟩ (by omega)

private theorem Parts.quit (parts : Parts echo notice reply complaints lead own) (quitting : echo.stage = .quitting) :
    Leads echo (lead + load echo + own) := by
  have stands := parts.stands
  simp only [Stands, quitting] at stands
  obtain ⟨rfl, done, lines, exact⟩ := stands
  have unclosed := parts.serves.unclosed nofun
  have posted : echo.host.quit = _ := post_accepted unclosed .exit rfl
  have keeps : Keeps echo.host { echo.host with task := { echo.host.task with
      exchange := echo.host.task.exchange.admitted .low Errand.exit.order 0 } } reply reply echo.host.native :=
    .aside rfl (fun number text destined => destined.admit .exit nofun rfl) fun _ _ gone => gone
  have step : echo.mainStep? = some { echo with
      host := { echo.host with task := { echo.host.task with
        exchange := echo.host.task.exchange.admitted .low Errand.exit.order 0 } }
      stage := .joiningTask } := by
    simp only [mainStep?, quitting, posted]
    rfl
  exact parts.staged_on keeps parts.serves.give step 2 ⟨nofun, done.follows (.of_same rfl rfl), lines, rfl⟩ (by omega)

theorem Done.sent {planned total requests : Nat} {clients : List Client} {task : Echoer}
    (done : Done planned total clients task) : sentBy requests clients = ⟨planned * requests, planned⟩ := by
  have asked : tally (Client.asked requests) clients = clients.length * requests :=
    tally_const fun client member => by rw [Client.asked, done.joined.ended client member]
  have noted : tally Client.noted clients = clients.length * 1 :=
    tally_const fun client member => by rw [Client.noted, done.joined.ended client member]
  rw [sentBy, asked, noted, Nat.mul_one, done.all]

private theorem Parts.joinTask (parts : Parts echo notice reply complaints lead own)
    (joining : echo.stage = .joiningTask)
    (ended : echo.host.task.place = .ended) : Leads echo (lead + load echo + own) := by
  have stands := parts.stands
  simp only [Stands, joining] at stands
  obtain ⟨noticed, done, ⟨took, lines⟩, exact⟩ := stands
  have counted := parts.serves.counted ended
  have joined : echo.host.task.join =
      (.outcome (.completed echo.host.task.surface.state), { echo.host.task with abandoned := true }, []) := by
    simp only [Task.join, done.running.committed.awaited, ended]
  have keeps : Keeps echo.host { echo.host with task := { echo.host.task with abandoned := true } } reply reply
      echo.host.native := .aside rfl (fun _ _ destined => destined.framed _ _ _) fun _ _ gone => gone
  have step : echo.mainStep? = some { echo with
      host := { echo.host with task := { echo.host.task with abandoned := true } }
      lines := echo.lines ++ [countsLine echo.host.task.surface.state] ++ footer
      stage := .ended none } := by
    simp only [mainStep?, joining, Task.Host.join, joined]
    rfl
  exact parts.staged_on keeps (parts.serves.framed _ _) step 0
    ⟨done.follows (.of_same rfl rfl), ended, ⟨took, by rw [counted, done.sent, lines]⟩, rfl⟩ (by omega)

/-- Main waits for a client or for the task, or is done. -/
inductive Held (echo : Echo) : Prop
  | client (count : Nat) (client : Client) (stage : echo.stage = .joining count)
      (present : echo.clients[count]? = some client) (unended : client.place ≠ .ended)
  | task (stage : echo.stage = .joiningTask) (unended : echo.host.task.place ≠ .ended)
  | finished (stage : echo.stage = .ended none)

theorem Parts.main (parts : Parts echo notice reply complaints lead own) :
    Leads echo (lead + load echo + own) ∨ echo.mainStep? = none ∧ Held echo := by
  cases stage : echo.stage with
  | beginning => exact .inl (parts.begin stage)
  | committing => exact .inl (parts.commit stage)
  | spawning =>
    by_cases more : echo.clients.length < echo.planned
    · exact .inl (parts.spawn stage more)
    · exact .inl (parts.spawned stage more)
  | joining count =>
    cases present : echo.clients[count]? with
    | none => exact .inl (parts.joined stage present)
    | some client =>
      by_cases ended : client.place = .ended
      · exact .inl (parts.join stage present ended)
      · exact .inr ⟨by simp only [mainStep?, stage, present, if_neg ended], .client count client stage present ended⟩
  | quitting => exact .inl (parts.quit stage)
  | joiningTask =>
    by_cases ended : echo.host.task.place = .ended
    · exact .inl (parts.joinTask stage ended)
    · have stands := parts.stands
      simp only [Stands, stage] at stands
      have awaited := stands.2.1.running.committed.awaited
      refine .inr ⟨?_, .task stage ended⟩
      have blocked : echo.host.task.join = (.blocked, echo.host.task, []) := by
        simp only [Task.join, awaited]
      simp only [mainStep?, stage, Task.Host.join, blocked]
  | ended failure =>
    have stands := parts.stands
    simp only [Stands, stage] at stands
    cases failure with
    | none => exact .inr ⟨by simp only [mainStep?, stage], .finished stage⟩
    | some failure => simp only at stands

end TaskKernel.Demo.Echo
