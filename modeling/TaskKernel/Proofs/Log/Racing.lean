import TaskKernel.Proofs.Log.Filtering

/-!
The log among threads that take turns at its cells, one access at a time. Whoever claims the cells fills them, and
the flag is up before they are full. A call that sets a value meanwhile returns at once, and the filling overwrites
the value. Once the cells are full, a value that is set stays until another is set.
-/
namespace TaskKernel.Log

/-- What the cells are filled with. -/
inductive Setting
  | threshold
  | flush
  | showTime

namespace Setting

def Value : Setting → Type
  | threshold => Level
  | flush | showTime => Bool

def held (cells : Cells) : (setting : Setting) → setting.Value
  | threshold => cells.threshold
  | flush => cells.flush
  | showTime => cells.showTime

def asked (settings : Settings) : (setting : Setting) → setting.Value
  | threshold => settings.threshold
  | flush => settings.flush
  | showTime => settings.showTime

end Setting

/-- The value that an access stores in a cell. -/
def Access.puts? : Access → (setting : Setting) → Option setting.Value
  | putThreshold level, .threshold => some level
  | putFlush on, .flush => some on
  | putShowTime on, .showTime => some on
  | _, _ => none

/-- What a thread does with the log. -/
inductive Use
  | begin
  | threshold
  | flushing
  | call (request : Call)

namespace Use

def program : Use → Program Unit
  | begin => Log.begin
  | threshold => do let _ ← Log.threshold
  | flushing => do let _ ← Log.flushing
  | call request => request.program

/-- The value that a use sets. -/
def sets? : Use → (setting : Setting) → Option setting.Value
  | .call (.setThreshold level), .threshold => some level
  | .call (.setFlush on), .flush => some on
  | .call (.setShowTime on), .showTime => some on
  | _, _ => none

end Use

section Programs

variable {settings : Settings} {setting : Setting} {α β : Type}

/-- What a program stores in a cell, in this order. If it claims the cells, what is asked for comes before that. -/
inductive Stores (settings : Settings) (setting : Setting) {α : Type} : Program α → List setting.Value → Prop
  | done (value : α) : Stores settings setting (.done value) []
  | claim {next : Bool → Program α} {values : List setting.Value} (taken : Stores settings setting (next true) values)
      (free : Stores settings setting (next false) (setting.asked settings :: values)) :
      Stores settings setting (.ask .claim next) values
  | settings {next : Settings → Program α} {values : List setting.Value}
      (answered : Stores settings setting (next settings) values) :
      Stores settings setting (.ask .settings next) values
  | access {access : Access} {next : access.Answer → Program α} {first values rest : List setting.Value}
      (other : access ≠ .claim) (puts : first = (access.puts? setting).toList) (all : values = first ++ rest)
      (answered : ∀ answer, Stores settings setting (next answer) rest) :
      Stores settings setting (.ask access next) values

private theorem Stores.bind {first : Program α} {follow : α → Program β} {values rest : List setting.Value}
    (stores : Stores settings setting first values) (follows : ∀ value, Stores settings setting (follow value) rest) :
    Stores settings setting (first.bind follow) (values ++ rest) := by
  induction stores with
  | done value => exact follows value
  | claim _ _ taken free => exact .claim taken free
  | settings _ answered => exact .settings answered
  | access other puts all _ answered => exact .access other puts (by rw [all, List.append_assoc]) answered

/-- A program that claims the cells before it does anything to them. -/
def Guarded : Program α → Prop
  | .done _ => True
  | .ask .claim _ => True
  | .ask .isClaimed next => Guarded (next false)
  | .ask (.write _) next => Guarded (next ())
  | .ask .. => False

private theorem begin_stores : Stores settings setting begin [] := by
  refine .claim (.done ()) (.settings ?_)
  cases setting <;>
    exact .access nofun rfl rfl fun _ => .access nofun rfl rfl fun _ => .access nofun rfl rfl fun _ =>
      .access nofun rfl rfl fun _ => .done ()

private theorem Stores.read {access : Access} (other : access ≠ .claim) (silent : access.puts? setting = none) :
    Stores settings setting (Script.call access : Program access.Answer) [] :=
  .access other (by rw [silent]) rfl .done

private theorem threshold_stores : Stores settings setting threshold [] := by
  refine .access nofun rfl rfl fun claimed => ?_
  cases claimed with
  | true => exact .read nofun rfl
  | false => exact begin_stores.bind fun _ => .read nofun rfl

private theorem flushing_stores : Stores settings setting flushing [] := by
  refine .access nofun rfl rfl fun claimed => ?_
  cases claimed with
  | true => exact .read nofun rfl
  | false => exact begin_stores.bind fun _ => .read nofun rfl

private theorem record_stores (level : Level) (text : String) : Stores settings setting (record level text) [] := by
  refine (threshold_stores.bind fun limit => .done _).bind fun passes => ?_
  cases passes with
  | false => exact .done ()
  | true =>
    exact .access nofun rfl rfl fun writer => .access nofun rfl rfl fun _ => flushing_stores.bind fun _ => .done ()

private theorem print_stores (text : String) : Stores settings setting (print text) [] :=
  .access nofun rfl rfl fun _ => flushing_stores.bind fun _ => .done ()

private theorem Use.stores (use : Use) : Stores settings setting use.program (use.sets? setting).toList := by
  cases use with
  | begin => exact begin_stores
  | threshold => exact threshold_stores.bind fun _ => .done ()
  | flushing => exact flushing_stores.bind fun _ => .done ()
  | call request =>
    cases request with
    | setThreshold level => cases setting <;> exact begin_stores.bind fun _ => .access nofun rfl rfl .done
    | setFlush on => cases setting <;> exact begin_stores.bind fun _ => .access nofun rfl rfl .done
    | setShowTime on => cases setting <;> exact begin_stores.bind fun _ => .access nofun rfl rfl .done
    | print text => exact print_stores text
    | printLine text => exact print_stores _
    | record level text => exact record_stores level text

private theorem Use.guarded (use : Use) : Guarded use.program := by
  cases use with
  | begin | threshold | flushing => trivial
  | call request => cases request <;> trivial

private theorem Guarded.not_puts {access : Access} {next : access.Answer → Program α} {value : setting.Value}
    (puts : access.puts? setting = some value) : ¬ Guarded (.ask access next) := by
  cases access with
  | putFlush | putShowTime | putThreshold => exact id
  | claim | isClaimed | settings | start | flush | threshold | identify | write | writeRecord => cases puts

end Programs

end TaskKernel.Log

namespace TaskKernel.Kernel

open Log

variable (kernel : Kernel) (thread : ThreadKey)

private theorem identify_cells : (kernel.identify thread).2.log = kernel.log := by
  unfold identify
  split <;> rfl

private theorem writeRecord_cells (level : Level) (writer : ThreadHandle) (text : String) :
    ∃ started, (logAccess thread (.writeRecord level writer text) kernel).2.log = { kernel.log with started } := by
  simp only [logAccess]
  split
  · exact ⟨_, rfl⟩
  · exact ⟨kernel.log.started, rfl⟩

private theorem held_logAccess (access : Access) (setting : Setting) :
    setting.held (logAccess thread access kernel).2.log = (access.puts? setting).getD (setting.held kernel.log) := by
  cases access with
  | identify => exact congrArg setting.held (kernel.identify_cells thread)
  | writeRecord level writer text =>
    obtain ⟨started, cells⟩ := kernel.writeRecord_cells thread level writer text
    rw [cells]
    cases setting <;> rfl
  | claim | isClaimed | settings | putFlush | putShowTime | putThreshold | start | flush | threshold | write =>
    cases setting <;> rfl

private theorem claimed_logAccess {access : Access} (other : access ≠ .claim) :
    (logAccess thread access kernel).2.log.claimed = kernel.log.claimed := by
  cases access with
  | claim => exact absurd rfl other
  | identify => exact congrArg Cells.claimed (kernel.identify_cells thread)
  | writeRecord level writer text =>
    obtain ⟨started, cells⟩ := kernel.writeRecord_cells thread level writer text
    rw [cells]
  | isClaimed | settings | putFlush | putShowTime | putThreshold | start | flush | threshold | write => rfl

private theorem claimed_lasts (access : Access) (claimed : kernel.log.claimed = true) :
    (logAccess thread access kernel).2.log.claimed = true := by
  by_cases claims : access = .claim
  · subst claims
    rfl
  · rw [claimed_logAccess kernel thread claims, claimed]

private theorem unclaimed_before {access : Access} (free : (logAccess thread access kernel).2.log.claimed = false) :
    kernel.log.claimed = false :=
  Bool.eq_false_iff.mpr fun claimed => Bool.false_ne_true (free.symm.trans (claimed_lasts kernel thread access claimed))

private theorem guarded_answer {α : Type} {access : Access} {next : access.Answer → Program α}
    (guarded : Guarded (.ask access next)) (free : (logAccess thread access kernel).2.log.claimed = false) :
    Guarded (next (logAccess thread access kernel).1) := by
  cases access with
  | claim => cases free
  | isClaimed =>
    have answer : (logAccess thread .isClaimed kernel).1 = false := free
    rw [answer]
    exact guarded
  | write text => exact guarded
  | settings | putFlush | putShowTime | putThreshold | start | flush | threshold | identify | writeRecord =>
    exact guarded.elim

end TaskKernel.Kernel

namespace TaskKernel.Log

/-- Threads that use the log at once, each with what it has left to do of its use. -/
structure Race where
  kernel : Kernel
  left : ThreadKey → Program Unit

namespace Race

inductive Move
  | use (thread : ThreadKey) (request : Use)
  | access (thread : ThreadKey)

def Move.sets? : Move → (setting : Setting) → Option setting.Value
  | use _ request, setting => request.sets? setting
  | access _, _ => none

def fresh (environment : Environment) (now : Instant) : Race := ⟨.fresh environment now, fun _ => .done ()⟩

def leaving (race : Race) (thread : ThreadKey) (left : Program Unit) : Race :=
  { race with left := fun other => if other = thread then left else race.left other }

def move (race : Race) : Move → Race
  | .use thread request =>
    match race.left thread with
    | .done _ => race.leaving thread request.program
    | .ask .. => race
  | .access thread =>
    match race.left thread with
    | .done _ => race
    | .ask access next =>
      let (answer, kernel) := Kernel.logAccess thread access race.kernel
      { race with kernel }.leaving thread (next answer)

def moves (race : Race) (list : List Move) : Race := list.foldl move race

/-- Whether a thread has nothing left to do. -/
def idle (race : Race) (thread : ThreadKey) : Bool :=
  match race.left thread with
  | .done _ => true
  | .ask .. => false

/-- What the cells are to be filled with. -/
def settings (race : Race) : Settings := .ofEnvironment race.kernel.environment

variable {race : Race} {setting : Setting} {filler : Option ThreadKey} {debts : ThreadKey → List setting.Value}

theorem left_leaving_self (race : Race) (thread : ThreadKey) (left : Program Unit) :
    (race.leaving thread left).left thread = left :=
  if_pos rfl

theorem left_leaving_of_ne {thread other : ThreadKey} (apart : other ≠ thread) (left : Program Unit) :
    (race.leaving thread left).left other = race.left other :=
  if_neg apart

/-- What a thread has still to store in a cell, when one thread fills the cells. -/
def due (race : Race) (setting : Setting) (filler : Option ThreadKey) (debts : ThreadKey → List setting.Value)
    (thread : ThreadKey) : List setting.Value :=
  (if filler = some thread then [setting.asked race.settings] else []) ++ debts thread

private theorem due_filler (race : Race) (debts : ThreadKey → List setting.Value) (thread : ThreadKey) :
    race.due setting (some thread) debts thread = setting.asked race.settings :: debts thread := by
  rw [due, if_pos rfl, List.singleton_append]

private theorem due_other {thread : ThreadKey} (other : filler ≠ some thread) :
    race.due setting filler debts thread = debts thread := by
  rw [due, if_neg other, List.nil_append]

private theorem due_vacant (race : Race) (debts : ThreadKey → List setting.Value) (thread : ThreadKey) :
    race.due setting none debts thread = debts thread :=
  due_other nofun

/-- All that is still to be stored in a cell. -/
structure Owes (race : Race) (setting : Setting) (filler : Option ThreadKey)
    (debts : ThreadKey → List setting.Value) : Prop where
  stores : ∀ thread, Stores race.settings setting (race.left thread) (race.due setting filler debts thread)
  guarded : race.kernel.log.claimed = false → ∀ thread, Guarded (race.left thread)
  claimed : filler ≠ none → race.kernel.log.claimed = true

/-- What an access of a thread comes to. -/
inductive Turn (race : Race) (setting : Setting) (filler : Option ThreadKey) (debts : ThreadKey → List setting.Value)
    (thread : ThreadKey) (after : Race) : Prop
  | passes (owes : after.Owes setting filler debts)
      (held : setting.held after.kernel.log = setting.held race.kernel.log)
  | claims (free : race.kernel.log.claimed = false) (owes : after.Owes setting (some thread) debts)
      (held : setting.held after.kernel.log = setting.held race.kernel.log)
  | fills (filling : filler = some thread) (owes : after.Owes setting none debts)
      (held : setting.held after.kernel.log = setting.asked race.settings)
  | sets (value : setting.Value) (rest : List setting.Value) (claimed : race.kernel.log.claimed = true)
      (past : filler ≠ some thread) (first : debts thread = value :: rest)
      (owes : after.Owes setting filler fun other => if other = thread then rest else debts other)
      (held : setting.held after.kernel.log = value)

variable {thread : ThreadKey} {access : Access} {next : access.Answer → Program Unit}

private theorem move_access (left : race.left thread = .ask access next) : race.move (.access thread) =
    { race with kernel := (Kernel.logAccess thread access race.kernel).2 }.leaving thread
      (next (Kernel.logAccess thread access race.kernel).1) := by
  simp only [move, left]

private theorem held_access (left : race.left thread = .ask access next) :
    setting.held (race.move (.access thread)).kernel.log =
      (access.puts? setting).getD (setting.held race.kernel.log) := by
  rw [move_access left]
  exact race.kernel.held_logAccess thread access setting

private theorem settings_access (left : race.left thread = .ask access next) :
    (race.move (.access thread)).settings = race.settings := by
  rw [move_access left]
  exact congrArg Settings.ofEnvironment (race.kernel.logAccess_still thread access).environment

private theorem Owes.answered {newFiller : Option ThreadKey} {newDebts : ThreadKey → List setting.Value}
    (owes : race.Owes setting filler debts) (left : race.left thread = .ask access next)
    (stores : Stores race.settings setting (next (Kernel.logAccess thread access race.kernel).1)
      (race.due setting newFiller newDebts thread))
    (others : ∀ other, other ≠ thread →
      race.due setting newFiller newDebts other = race.due setting filler debts other)
    (claimed : newFiller ≠ none → (Kernel.logAccess thread access race.kernel).2.log.claimed = true) :
    (race.move (.access thread)).Owes setting newFiller newDebts := by
  have same (other : ThreadKey) : (race.move (.access thread)).due setting newFiller newDebts other =
      race.due setting newFiller newDebts other := by
    rw [due, settings_access left, due]
  refine ⟨fun other => ?_, fun free other => ?_, fun filling => ?_⟩
  · rw [same, settings_access left, move_access left]
    by_cases own : other = thread
    · subst own
      rwa [left_leaving_self]
    · rw [left_leaving_of_ne own, others other own]
      exact owes.stores other
  · rw [move_access left] at free ⊢
    have before := owes.guarded (race.kernel.unclaimed_before thread free)
    by_cases own : other = thread
    · subst own
      rw [left_leaving_self]
      exact race.kernel.guarded_answer other (left ▸ before other) free
    · rw [left_leaving_of_ne own]
      exact before other
  · rw [move_access left]
    exact claimed filling

private theorem Owes.claim {next : Bool → Program Unit} (owes : race.Owes setting filler debts)
    (left : race.left thread = .ask .claim next)
    (taken : Stores race.settings setting (next true) (race.due setting filler debts thread))
    (free : Stores race.settings setting (next false)
      (setting.asked race.settings :: race.due setting filler debts thread)) :
    race.Turn setting filler debts thread (race.move (.access thread)) := by
  have held : setting.held (race.move (.access thread)).kernel.log = setting.held race.kernel.log :=
    held_access left
  cases answer : race.kernel.log.claimed with
  | true =>
    refine .passes (owes.answered left ?_ (fun _ _ => rfl) fun _ => rfl) held
    exact (congrArg next answer) ▸ taken
  | false =>
    have vacant : filler = none := by
      cases filler with
      | none => rfl
      | some other => cases answer.symm.trans (owes.claimed nofun)
    subst vacant
    refine .claims answer (owes.answered left ?_ (fun other apart => ?_) fun _ => rfl) held
    · rw [due_vacant] at free
      rw [due_filler]
      exact (congrArg next answer) ▸ free
    · rw [due_vacant, due_other fun own => apart (Option.some.inj own).symm]

private theorem Owes.store {first rest : List setting.Value} (owes : race.Owes setting filler debts)
    (left : race.left thread = .ask access next) (puts : first = (access.puts? setting).toList)
    (all : race.due setting filler debts thread = first ++ rest)
    (answered : Stores race.settings setting (next (Kernel.logAccess thread access race.kernel).1) rest) :
    race.Turn setting filler debts thread (race.move (.access thread)) := by
  have held : setting.held (race.move (.access thread)).kernel.log =
      (access.puts? setting).getD (setting.held race.kernel.log) := held_access left
  have lasts (claimed : race.kernel.log.claimed = true) := race.kernel.claimed_lasts thread access claimed
  cases stored : access.puts? setting with
  | none =>
    rw [stored] at held puts
    subst puts
    refine .passes (owes.answered left (all ▸ answered) (fun _ _ => rfl) fun filling => ?_) held
    exact lasts (owes.claimed filling)
  | some value =>
    rw [stored] at held puts
    subst puts
    have claimed : race.kernel.log.claimed = true := by
      cases free : race.kernel.log.claimed with
      | true => rfl
      | false => exact absurd (left ▸ owes.guarded free thread) (Guarded.not_puts stored)
    by_cases filling : filler = some thread
    -- What is asked for comes before anything that the filler sets itself.
    · subst filling
      rw [due_filler] at all
      obtain ⟨asked, rfl⟩ := List.cons.inj all
      refine .fills rfl (owes.answered left ?_ (fun other apart => ?_) nofun) (held.trans asked.symm)
      · rw [due_vacant]
        exact answered
      · rw [due_vacant, due_other fun own => apart (Option.some.inj own).symm]
    · rw [due_other filling] at all
      refine .sets value rest claimed filling all (owes.answered left ?_ (fun other apart => ?_) fun _ => lasts claimed)
        held
      · rw [due_other filling, if_pos rfl]
        exact answered
      · simp only [due, if_neg apart]

private theorem Owes.turn (owes : race.Owes setting filler debts) (thread : ThreadKey) :
    race.Turn setting filler debts thread (race.move (.access thread)) := by
  have stores := owes.stores thread
  cases left : race.left thread with
  | done value =>
    have same : race.move (.access thread) = race := by simp only [move, left]
    rw [same]
    exact .passes owes rfl
  | ask access next =>
    rw [left] at stores
    generalize values : race.due setting filler debts thread = all at stores
    cases stores with
    | claim taken free => exact owes.claim left (values ▸ taken) (values ▸ free)
    | settings answered => exact owes.store left rfl values answered
    | access other puts all answered => exact owes.store left puts (values.trans all) (answered _)

private theorem left_of_idle (idle : race.idle thread = true) : ∃ value, race.left thread = .done value := by
  rw [Race.idle] at idle
  split at idle
  · next left => exact ⟨_, left⟩
  · cases idle

private theorem Owes.clear (owes : race.Owes setting filler debts) {value : Unit}
    (left : race.left thread = .done value) : filler ≠ some thread ∧ debts thread = [] := by
  have stores := owes.stores thread
  rw [left] at stores
  generalize dues : race.due setting filler debts thread = all at stores
  cases stores
  obtain ⟨unfilled, paid⟩ := List.append_eq_nil_iff.mp dues
  refine ⟨fun filling => ?_, paid⟩
  rw [if_pos filling] at unfilled
  cases unfilled

private theorem Owes.begun (owes : race.Owes setting filler debts) {value : Unit}
    (left : race.left thread = .done value)
    (request : Use) : (race.leaving thread request.program).Owes setting filler
      fun other => if other = thread then (request.sets? setting).toList else debts other := by
  refine ⟨fun other => ?_, fun free other => ?_, owes.claimed⟩
  · show Stores race.settings setting _ _
    by_cases own : other = thread
    · subst own
      rw [due_other (owes.clear left).1, left_leaving_self, if_pos rfl]
      exact request.stores
    · rw [left_leaving_of_ne own, due, if_neg own]
      exact owes.stores other
  · by_cases own : other = thread
    · subst own
      rw [left_leaving_self]
      exact request.guarded
    · rw [left_leaving_of_ne own]
      exact owes.guarded free other

private theorem move_use {value : Unit} (left : race.left thread = .done value) (request : Use) :
    race.move (.use thread request) = race.leaving thread request.program := by
  simp only [move, left]

private theorem use_kernel (thread : ThreadKey) (request : Use) :
    (race.move (.use thread request)).kernel = race.kernel := by
  simp only [move]
  split <;> rfl

private theorem Owes.use (owes : race.Owes setting filler debts) (thread : ThreadKey) {request : Use}
    (unset : request.sets? setting = none) : (race.move (.use thread request)).Owes setting filler debts := by
  cases left : race.left thread with
  | done value =>
    have begun := owes.begun left request
    have same : (fun other => if other = thread then (request.sets? setting).toList else debts other) = debts := by
      funext other
      split
      · next own => rw [own, unset, (owes.clear left).2]; rfl
      · rfl
    rw [same] at begun
    rw [move_use left]
    exact begun
  | ask access next =>
    have same : race.move (.use thread request) = race := by simp only [move, left]
    rw [same]
    exact owes

/-- The cells are claimed, and nothing that has begun is still to be stored. -/
structure Full (race : Race) (setting : Setting) : Prop where
  claimed : race.kernel.log.claimed = true
  owes : race.Owes setting none fun _ => []

private theorem claimed_move (claimed : race.kernel.log.claimed = true) (move : Move) :
    (race.move move).kernel.log.claimed = true := by
  cases move with
  | use thread request => rwa [use_kernel]
  | access thread =>
    cases left : race.left thread with
    | done value => simpa only [Race.move, left] using claimed
    | ask access next =>
      rw [move_access left]
      exact race.kernel.claimed_lasts thread access claimed

private theorem settings_move (race : Race) (move : Move) : (race.move move).settings = race.settings := by
  cases move with
  | use thread request => exact congrArg (fun kernel => Settings.ofEnvironment kernel.environment) (use_kernel ..)
  | access thread =>
    cases left : race.left thread with
    | done value => simp only [Race.move, left]
    | ask access next => exact settings_access left

/-- Only a use that sets it changes a value in full cells. -/
theorem Full.move (full : race.Full setting) (move : Move) (unset : move.sets? setting = none) :
    (race.move move).Full setting ∧
      setting.held (race.move move).kernel.log = setting.held race.kernel.log := by
  have claimed := claimed_move full.claimed move
  cases move with
  | use thread request => exact ⟨⟨claimed, full.owes.use thread unset⟩, by rw [use_kernel]⟩
  | access thread =>
    cases full.owes.turn thread with
    | passes owes held => exact ⟨⟨claimed, owes⟩, held⟩
    | claims free => cases free.symm.trans full.claimed
    | fills filling => cases filling
    | sets value rest _ _ first => cases first

theorem Full.moves {list : List Move} (full : race.Full setting) (unset : ∀ move ∈ list, move.sets? setting = none) :
    (race.moves list).Full setting ∧
      setting.held (race.moves list).kernel.log = setting.held race.kernel.log := by
  induction list generalizing race with
  | nil => exact ⟨full, rfl⟩
  | cons move rest ih =>
    rw [List.forall_mem_cons] at unset
    obtain ⟨next, held⟩ := full.move move unset.1
    obtain ⟨last, same⟩ := ih next unset.2
    exact ⟨last, same.trans held⟩

/-- What has become of a value that one use of a thread sets, where the cells may have been full before: it is
still to be stored, it stays, or it stays until the cells are filled. -/
inductive Outcome (race : Race) (setting : Setting) (thread : ThreadKey) (value : setting.Value) (full : Prop) : Prop
  | ahead (filler : Option ThreadKey)
      (owes : race.Owes setting filler fun other => if other = thread then [value] else [])
      (settled : full → filler = none ∧ race.kernel.log.claimed = true)
  | kept (filled : race.Full setting) (held : setting.held race.kernel.log = value)
  | exposed (filler : ThreadKey) (early : ¬ full) (owes : race.Owes setting (some filler) fun _ => [])
      (held : setting.held race.kernel.log = value)
  | lost (early : ¬ full) (filled : race.Full setting)
      (held : setting.held race.kernel.log = setting.asked race.settings)

variable {value : setting.Value} {full : Prop}

private theorem Outcome.stored {after : Race} {filler : Option ThreadKey} (lasting : after.kernel.log.claimed = true)
    (owes : after.Owes setting filler fun _ => []) (settled : full → filler = none)
    (held : setting.held after.kernel.log = value) : after.Outcome setting thread value full := by
  cases filler with
  | none => exact .kept ⟨lasting, owes⟩ held
  | some filler => exact .exposed filler (fun early => nomatch settled early) owes held

private theorem Outcome.turn (thread : ThreadKey) {setter : ThreadKey}
    (outcome : race.Outcome setting setter value full) :
    (race.move (.access thread)).Outcome setting setter value full := by
  have lasting (claimed : race.kernel.log.claimed = true) := claimed_move claimed (.access thread)
  cases outcome with
  | ahead filler owes settled =>
    cases owes.turn thread with
    | passes owes => exact .ahead filler owes fun early => ⟨(settled early).1, lasting (settled early).2⟩
    | claims free owes => exact .ahead (some thread) owes fun early => nomatch free.symm.trans (settled early).2
    | fills filling owes => exact .ahead none owes fun early => nomatch filling.symm.trans (settled early).1
    | sets stored rest claimed past first owes held =>
      split at first
      · next own =>
        cases first
        have paid : (fun other => if other = thread then [] else if other = setter then [value] else []) =
            (fun _ => [] : ThreadKey → List setting.Value) := by
          funext other
          rw [own]
          split <;> rfl
        rw [paid] at owes
        exact .stored (lasting claimed) owes (fun early => (settled early).1) held
      · cases first
  | kept filled held =>
    obtain ⟨filled, same⟩ := filled.move (.access thread) rfl
    exact .kept filled (same.trans held)
  | exposed filler early owes held =>
    have claimed := lasting (owes.claimed nofun)
    cases owes.turn thread with
    | passes owes same => exact .exposed filler early owes (same.trans held)
    | claims free => cases free.symm.trans (owes.claimed nofun)
    | fills filling owes asked => exact .lost early ⟨claimed, owes⟩ (asked.trans (by rw [settings_move]))
    | sets stored rest _ past first => cases first
  | lost early filled held =>
    obtain ⟨filled, same⟩ := filled.move (.access thread) rfl
    exact .lost early filled (same.trans (held.trans (by rw [settings_move])))

theorem Outcome.move {move : Move} (outcome : race.Outcome setting thread value full)
    (unset : move.sets? setting = none) : (race.move move).Outcome setting thread value full := by
  cases move with
  | access other => exact outcome.turn other
  | use other request =>
    have kernel : (race.move (.use other request)).kernel = race.kernel := use_kernel other request
    cases outcome with
    | ahead filler owes settled => exact .ahead filler (owes.use other unset) (by rwa [kernel])
    | kept filled held => exact .kept (filled.move _ unset).1 (by rwa [kernel])
    | exposed filler early owes held => exact .exposed filler early (owes.use other unset) (by rwa [kernel])
    | lost early filled held => exact .lost early (filled.move _ unset).1 (by rwa [kernel, settings_move])

theorem Outcome.moves {list : List Move} (outcome : race.Outcome setting thread value full)
    (unset : ∀ move ∈ list, move.sets? setting = none) :
    (race.moves list).Outcome setting thread value full := by
  induction list generalizing race with
  | nil => exact outcome
  | cons move rest ih =>
    rw [List.forall_mem_cons] at unset
    exact ih (outcome.move unset.1) unset.2

variable {environment : Environment} {now : Instant} {before after : List Move} {request : Use}

theorem moves_append (race : Race) (first second : List Move) :
    race.moves (first ++ second) = (race.moves first).moves second :=
  List.foldl_append

private theorem settings_moves (race : Race) (list : List Move) : (race.moves list).settings = race.settings := by
  induction list generalizing race with
  | nil => rfl
  | cons move rest ih => exact (ih (race.move move)).trans (race.settings_move move)

private theorem Owes.unset {list : List Move} (owes : race.Owes setting filler fun _ => [])
    (unset : ∀ move ∈ list, move.sets? setting = none) :
    ∃ filler, (race.moves list).Owes setting filler fun _ => [] := by
  induction list generalizing race filler with
  | nil => exact ⟨filler, owes⟩
  | cons move rest ih =>
    rw [List.forall_mem_cons] at unset
    cases move with
    | use thread request => exact ih (owes.use thread unset.1) unset.2
    | access thread =>
      cases owes.turn thread with
      | passes owes | claims _ owes | fills _ owes => exact ih owes unset.2
      | sets _ _ _ _ first => cases first

private theorem fresh_owes : (fresh environment now).Owes setting none fun _ => [] :=
  ⟨fun _ => .done (), fun _ _ => trivial, fun filling => absurd rfl filling⟩

/-- The cells are full when they have been claimed and no thread does anything. -/
theorem full_of_idle (unset : ∀ move ∈ before, move.sets? setting = none)
    (claimed : ((fresh environment now).moves before).kernel.log.claimed = true)
    (idle : ∀ thread, ((fresh environment now).moves before).idle thread = true) :
    ((fresh environment now).moves before).Full setting := by
  obtain ⟨filler, owes⟩ := fresh_owes.unset unset
  cases filler with
  | none => exact ⟨claimed, owes⟩
  | some filler =>
    obtain ⟨_, left⟩ := left_of_idle (idle filler)
    exact absurd rfl (owes.clear left).1

private theorem Outcome.begun (owes : race.Owes setting filler fun _ => []) {done : Unit}
    (left : race.left thread = .done done) (sets : request.sets? setting = some value) :
    (race.move (.use thread request)).Outcome setting thread value (race.Full setting) := by
  have ahead {filler : Option ThreadKey} (owes : race.Owes setting filler fun _ => [])
      (settled : race.Full setting → filler = none) :
      (race.leaving thread request.program).Outcome setting thread value (race.Full setting) := by
    have begun := owes.begun left request
    rw [sets] at begun
    exact .ahead filler begun fun full => ⟨settled full, full.claimed⟩
  rw [move_use left]
  -- Only of full cells is it known that nobody fills them any more.
  by_cases full : race.Full setting
  · exact ahead full.owes fun _ => rfl
  · exact ahead owes fun early => absurd early full

/-- A value that is set once is lost only to a filling of the cells that had begun and was not over. -/
theorem value_set_kept_or_filled_over (sets : request.sets? setting = some value)
    (single : ∀ move ∈ before ++ after, move.sets? setting = none)
    (ready : ((fresh environment now).moves before).idle thread = true)
    (returned : ((fresh environment now).moves (before ++ .use thread request :: after)).idle thread = true) :
    let cells := ((fresh environment now).moves (before ++ .use thread request :: after)).kernel.log
    (setting.held cells = value ∨ setting.held cells = setting.asked (.ofEnvironment environment)) ∧
      (((fresh environment now).moves before).Full setting → setting.held cells = value) := by
  intro cells
  rw [List.forall_mem_append] at single
  obtain ⟨filler, owes⟩ := fresh_owes.unset single.1
  obtain ⟨_, left⟩ := left_of_idle ready
  have outcome := (Outcome.begun owes left sets).moves single.2
  have whole : (((fresh environment now).moves before).move (.use thread request)).moves after =
      (fresh environment now).moves (before ++ .use thread request :: after) :=
    (moves_append (fresh environment now) before (.use thread request :: after)).symm
  rw [whole] at outcome
  cases outcome with
  | ahead filler owes =>
    obtain ⟨_, left⟩ := left_of_idle returned
    have paid := (owes.clear left).2
    rw [if_pos rfl] at paid
    cases paid
  | kept _ held => exact ⟨.inl held, fun _ => held⟩
  | exposed _ early _ held => exact ⟨.inl held, fun full => absurd full early⟩
  | lost early _ held =>
    rw [settings_moves] at held
    exact ⟨.inr held, fun full => absurd full early⟩

/-- A thread claims the cells; another sets the threshold and returns; then the first one fills the cells. -/
theorem value_set_lost_to_late_filling :
    let claimed := (fresh .empty .zero).moves [.use 1 .begin, .access 1]
    let set := claimed.moves [.use 2 (.call (.setThreshold .trace)), .access 2, .access 2]
    let filled := set.moves [.access 1, .access 1, .access 1, .access 1, .access 1]
    set.idle 2 = true ∧ set.kernel.log.threshold = .trace ∧
      filled.idle 1 = true ∧ (filled.kernel.perform 3 Log.threshold).1 = .warn := by
  decide +kernel

end Race

end TaskKernel.Log
