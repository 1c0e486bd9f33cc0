import TaskKernel.Proofs.Demo.Echoer
import TaskKernel.Proofs.Queue.Callers

/-!
The clients of the echoing task: what each has asked and heard so far, and what it relies on. Whatever others do,
a client keeps its identity, and the text it waits for comes back to it.
-/
namespace TaskKernel.Demo.Echo

abbrev EchoHost : Type := Task.Host Counts String String Unit

def tally (amount : Client → Nat) : List Client → Nat
  | [] => 0
  | client :: rest => amount client + tally amount rest

section tally

variable {amount other : Client → Nat} {clients : List Client} {client : Client} {number : Nat}

theorem tally_append (amount : Client → Nat) (clients : List Client) (client : Client) :
    tally amount (clients ++ [client]) = tally amount clients + amount client := by
  induction clients with
  | nil => simp [tally]
  | cons first rest ih => simp only [List.cons_append, tally, ih, Nat.add_assoc]

/-- When one client moves, the sum changes by what that client does. -/
theorem tally_set (amount : Client → Nat) (after : Client) (present : clients[number]? = some client) :
    tally amount (clients.set number after) + amount client = tally amount clients + amount after := by
  induction clients generalizing number with
  | nil => simp at present
  | cons first rest ih =>
    cases number with
    | zero =>
      obtain rfl : first = client := by simpa using present
      simp only [tally, List.set_cons_zero]
      omega
    | succ number =>
      have step := ih (by simpa using present)
      simp only [tally, List.set_cons_succ] at step ⊢
      omega

theorem tally_le (less : ∀ client ∈ clients, amount client ≤ other client) :
    tally amount clients ≤ tally other clients := by
  induction clients with
  | nil => exact Nat.le_refl _
  | cons first rest ih =>
    have head := less first List.mem_cons_self
    have tail := ih fun client member => less client (List.mem_cons_of_mem _ member)
    simp only [tally] at tail ⊢
    omega

theorem tally_lt (less : ∀ client ∈ clients, amount client ≤ other client) (member : client ∈ clients)
    (strict : amount client < other client) : tally amount clients < tally other clients := by
  induction clients with
  | nil => cases member
  | cons first rest ih =>
    have head := less first List.mem_cons_self
    have tail := fun client member => less client (List.mem_cons_of_mem first member)
    have sum := tally_le tail
    rcases List.mem_cons.mp member with rfl | member
    · simp only [tally] at sum ⊢
      omega
    · have step := ih tail member
      simp only [tally] at step ⊢
      omega

theorem tally_const {value : Nat} (each : ∀ client ∈ clients, amount client = value) :
    tally amount clients = clients.length * value := by
  induction clients with
  | nil => simp [tally]
  | cons first rest ih =>
    have tail := ih fun client member => each client (List.mem_cons_of_mem _ member)
    simp only [tally] at tail ⊢
    rw [tail, each first List.mem_cons_self, List.length_cons, Nat.succ_mul, Nat.add_comm]

end tally

namespace Client

variable (requests : Nat) (client : Client)

/-- How often the client has asked. -/
def asked : Nat :=
  match client.place with
  | .entering => 0
  | .asking round => round
  | .waiting round _ => round + 1
  | .noting | .leaving | .reporting | .ended => requests

/-- How often the client has taken note of a response. -/
def heard : Nat :=
  match client.place with
  | .entering => 0
  | .asking round | .waiting round _ => round
  | .noting | .leaving | .reporting | .ended => requests

/-- How many notes the client has left. -/
def noted : Nat :=
  match client.place with
  | .entering | .asking _ | .waiting .. | .noting => 0
  | .leaving | .reporting | .ended => 1

/-- What a client weighs that has asked for all rounds but a number of them. A request weighs more than the entry
that it becomes. -/
def ahead (rounds : Nat) : Nat := (turn + 3) * rounds + turn + 5

/-- What a client weighs that has not been started. -/
def fresh : Nat := ahead requests + 2

/-- How far a client is from its end. A caller that has gone from its slot is nearer. -/
def weight (exchange : Exchange (Command Counts String) String) : Nat :=
  match client.place with
  | .entering => ahead requests + 1
  | .asking round => ahead (requests - round)
  | .waiting round slot => ahead (requests - (round + 1)) + if (exchange.outcome? slot).isSome then 1 else 2
  | .noting => turn + 4
  | .leaving => 3
  | .reporting => 2
  | .ended => 1

/-- What a client relies on where it stands. -/
def Stands (host : EchoHost) (reply : Option String) : Prop :=
  match client.place with
  | .asking round => round ≤ requests
  | .waiting round slot => round < requests ∧ Destined host.task reply slot (requestText client.number round)
  | _ => True

/-- What is known of a client all along. -/
structure Fine (host : EchoHost) (reply : Option String) (number : Nat) : Prop where
  number : client.number = number
  faultless : client.failure = none
  resting : client.life.starting = false
  proper : client.life.handle.isSome = true
  foreign : client.life.handle ≠ host.task.life.handle
  thread : client.key < host.kernel.threads
  away : client.key ≠ host.native
  bound : client.place ≠ .entering → host.kernel.bound client.key = client.life.handle
  stands : client.Stands requests host reply

end Client

/-- What clients can rely on while one thread acts: theirs is the identity that is bound to their thread, and what
they wait for. -/
structure Keeps (host after : EchoHost) (reply next : Option String) (actor : ThreadKey) : Prop where
  native : after.native = host.native
  handle : after.task.life.handle = host.task.life.handle
  threads : host.kernel.threads ≤ after.kernel.threads
  handles : host.kernel.handles ≤ after.kernel.handles
  config : after.kernel.config = host.kernel.config
  bound : ∀ key, key ≠ actor → (host.kernel.bound key).isSome = true → after.kernel.bound key = host.kernel.bound key
  destined : ∀ slot text, Destined host.task reply slot text → Destined after.task next slot text
  outcomes : ∀ slot response, host.task.exchange.outcome? slot = some response →
    after.task.exchange.outcome? slot = some response

variable {host after : EchoHost} {reply next : Option String} {actor : ThreadKey} {requests number : Nat}
  {client moved : Client} {clients : List Client}

private theorem Client.Fine.kept (fine : client.Fine requests host reply number)
    (keeps : Keeps host after reply next actor)
    (other : client.key ≠ actor) : client.Fine requests after next number where
  number := fine.number
  faultless := fine.faultless
  resting := fine.resting
  proper := fine.proper
  foreign := keeps.handle ▸ fine.foreign
  thread := Nat.lt_of_lt_of_le fine.thread keeps.threads
  away := keeps.native ▸ fine.away
  bound entered := by
    have bound := fine.bound entered
    rw [keeps.bound client.key other (by rw [bound]; exact fine.proper), bound]
  stands := by
    have stands := fine.stands
    unfold Stands at stands ⊢
    cases place : client.place with
    | asking round => simpa only [place] using stands
    | waiting round slot =>
      simp only [place] at stands ⊢
      exact ⟨stands.1, keeps.destined _ _ stands.2⟩
    | entering | noting | leaving | reporting | ended => trivial

theorem Client.Fine.goes (fine : client.Fine requests host reply number) (keeps : Keeps host after reply next actor)
    {life : Lifecycle} {matched : Nat} {place : Place} (resting : life.starting = false)
    (same : life.handle = client.life.handle) (bound : after.kernel.bound client.key = client.life.handle)
    (stands : Client.Stands requests { client with life, matched, place } after next) :
    Client.Fine requests { client with life, matched, place } after next number where
  number := fine.number
  faultless := fine.faultless
  resting := resting
  proper := same ▸ fine.proper
  foreign := by rw [same, keeps.handle]; exact fine.foreign
  thread := Nat.lt_of_lt_of_le fine.thread keeps.threads
  away := keeps.native ▸ fine.away
  bound _ := bound.trans same.symm
  stands := stands

/-- A caller that has gone stays away, so no client moves back. -/
theorem Client.weight_le (client : Client) (keeps : Keeps host after reply next actor) :
    client.weight requests after.task.exchange ≤ client.weight requests host.task.exchange := by
  unfold weight
  cases client.place with
  | waiting round slot =>
    simp only
    cases outcome : host.task.exchange.outcome? slot with
    | none => simp only [Option.isSome_none, Bool.false_eq_true, if_false]; split <;> omega
    | some response => simp [keeps.outcomes slot response outcome]
  | entering | asking | noting | leaving | reporting | ended => exact Nat.le_refl _

/-- What is known of all clients: they run on threads of their own. -/
structure Crew (requests : Nat) (host : EchoHost) (reply : Option String) (clients : List Client) : Prop where
  each : ∀ number (client : Client), clients[number]? = some client → client.Fine requests host reply number
  keys : (clients.map (·.key)).Nodup

theorem Crew.kept (crew : Crew requests host reply clients) (keeps : Keeps host after reply next actor)
    (others : ∀ client ∈ clients, client.key ≠ actor) : Crew requests after next clients where
  each number client present :=
    (crew.each number client present).kept keeps (others client (List.mem_of_getElem? present))
  keys := crew.keys

theorem Crew.set (crew : Crew requests host reply clients) (present : clients[number]? = some client)
    (keeps : Keeps host after reply next client.key) (fine : moved.Fine requests after next number)
    (key : moved.key = client.key) : Crew requests after next (clients.set number moved) where
  each other found present' := by
    by_cases same : number = other
    · subst same
      rw [List.getElem?_set_self (List.getElem?_eq_some_iff.mp present).1, Option.some.injEq] at present'
      exact present' ▸ fine
    · rw [List.getElem?_set_ne same] at present'
      refine (crew.each other found present').kept keeps fun alike => same ?_
      have one : (clients.map (·.key))[number]? = some client.key := by simp [present]
      have two : (clients.map (·.key))[other]? = some client.key := by simp [present', alike]
      exact (List.getElem?_inj (by simpa using (List.getElem?_eq_some_iff.mp present).1) crew.keys).mp
        (one.trans two.symm)
  keys := by
    obtain ⟨within, there⟩ := List.getElem?_eq_some_iff.mp present
    have inside : number < (clients.map (·.key)).length := by simpa using within
    have same : (clients.map (·.key))[number] = client.key := by simp [there]
    rw [List.map_set, key, ← same, List.set_getElem_self]
    exact crew.keys

theorem Crew.append (crew : Crew requests host reply clients) (keeps : Keeps host after reply next actor)
    (others : ∀ client ∈ clients, client.key ≠ actor) (fine : moved.Fine requests after next clients.length)
    (key : moved.key = host.kernel.threads) : Crew requests after next (clients ++ [moved]) where
  each number client present := by
    rcases Nat.lt_trichotomy number clients.length with before | rfl | behind
    · rw [List.getElem?_append_left before] at present
      exact (crew.kept keeps others).each number client present
    · simp at present
      exact present ▸ fine
    · rw [List.getElem?_eq_none (by simp; omega)] at present
      cases present
  keys := by
    rw [List.map_append, List.nodup_append]
    refine ⟨crew.keys, by simp, ?_⟩
    intro one old two new same
    obtain ⟨client, member, rfl⟩ := List.mem_map.mp old
    obtain ⟨place, present⟩ := List.getElem?_of_mem member
    have below := (crew.each place client present).thread
    simp only [List.map_cons, List.map_nil, List.mem_singleton] at new
    exact Nat.ne_of_lt below (same.trans (new.trans key))

end TaskKernel.Demo.Echo
