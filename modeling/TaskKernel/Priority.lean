/-!
The four levels of urgency, of threads and of messages. `rank` is the order: a more urgent level has
the higher rank.

Each level has its scheduling parameters. The time-sharing policy has one value only, so its three levels
coincide, and only the realtime level is told apart.
-/
namespace TaskKernel

inductive Priority
  | low
  | normal
  | high
  | realtime
deriving DecidableEq, Inhabited

namespace Priority

def rank : Priority → Nat
  | low => 0
  | normal => 1
  | high => 2
  | realtime => 3

/-- From the least urgent to the most urgent. -/
def all : List Priority := [low, normal, high, realtime]

def ofRank? (rank : Nat) : Option Priority := all[rank]?

instance : LT Priority := ⟨fun left right => left.rank < right.rank⟩

instance : LE Priority := ⟨fun left right => left.rank ≤ right.rank⟩

instance (left right : Priority) : Decidable (left < right) :=
  inferInstanceAs (Decidable (left.rank < right.rank))

instance (left right : Priority) : Decidable (left ≤ right) :=
  inferInstanceAs (Decidable (left.rank ≤ right.rank))

instance : Max Priority := ⟨fun left right => if left ≤ right then right else left⟩

def text : Priority → String
  | low => "LOW"
  | normal => "NORMAL"
  | high => "HIGH"
  | realtime => "REALTIME"

def name : Priority → String
  | low => "Low"
  | normal => "Normal"
  | high => "High"
  | realtime => "Realtime"

/-- A name or a rank in any case. No character outside ASCII has one of these names as its lower
case, so lowering ASCII letters is enough. -/
def ofText? (text : String) : Option Priority :=
  match text.toLower with
  | "low" | "0" => some low
  | "normal" | "1" => some normal
  | "high" | "2" => some high
  | "realtime" | "rt" | "3" => some realtime
  | _ => none

theorem rank_injective {left right : Priority} (same : left.rank = right.rank) : left = right := by
  cases left <;> cases right <;> simp_all [rank]

end Priority

/-- A scheduling policy and a value within it. -/
structure SchedulingParameters where
  policy : Nat
  value : Nat
deriving DecidableEq

namespace SchedulingParameters

def describe (parameters : SchedulingParameters) : String :=
  "SchedParams \x7b policy: " ++ toString parameters.policy ++ ", priority: " ++
    toString parameters.value ++ " \x7d"

end SchedulingParameters

namespace Priority

/-- The range of values of the time-sharing policy. -/
def timeSharingRange : Nat × Nat := (0, 0)

/-- The smallest value of the first-in first-out policy. -/
def firstInFirstOutLeast : Nat := 1

def parameters (priority : Priority) : SchedulingParameters :=
  let (least, most) := timeSharingRange
  match priority with
  | low => ⟨0, least⟩
  | normal => ⟨0, least + (most - least) / 2⟩
  | high => ⟨0, most⟩
  | realtime => ⟨1, firstInFirstOutLeast⟩

def isDistinct (left right : Priority) : Bool := left.parameters != right.parameters

/-- How many different settings the levels have. -/
def distinctLevels : Nat := (all.map parameters).eraseDups.length

def tableText : String := "[" ++ ", ".intercalate (all.map fun level => level.parameters.describe) ++ "]"

end Priority

end TaskKernel
