import ShuffleWatch.Error

/-!
# Game status

How far a game has come. The statuses are ordered as the game goes through
them, and `uninitialized` comes before all those that the contract reports.
-/

namespace ShuffleWatch

/-- How far a game has come, as one client knows. -/
inductive Status
  /-- Nothing is known yet. The contract never reports this status. -/
  | uninitialized
  | waitingForStart
  | waitingForJoin
  | shuffling
  | inProgress
  | finished
  deriving DecidableEq

namespace Status

/-- The place of the status in the course of a game. -/
def rank : Status → Nat
  | uninitialized => 0
  | waitingForStart => 1
  | waitingForJoin => 2
  | shuffling => 3
  | inProgress => 4
  | finished => 5

/-- Earlier in the course of a game. -/
instance : LT Status := ⟨fun s t => s.rank < t.rank⟩

/-- Earlier in the course of a game, or the same. -/
instance : LE Status := ⟨fun s t => s.rank ≤ t.rank⟩

instance (s t : Status) : Decidable (s < t) := inferInstanceAs (Decidable (s.rank < t.rank))

instance (s t : Status) : Decidable (s ≤ t) := inferInstanceAs (Decidable (s.rank ≤ t.rank))

theorem lt_iff_rank {s t : Status} : s < t ↔ s.rank < t.rank := Iff.rfl

theorem le_iff_rank {s t : Status} : s ≤ t ↔ s.rank ≤ t.rank := Iff.rfl

theorem eq_of_rank_eq {s t : Status} (h : s.rank = t.rank) : s = t := by
  cases s <;> cases t <;> first | rfl | exact absurd h (by decide)

/-- The later of two statuses. -/
instance : Max Status := ⟨fun s t => if s ≤ t then t else s⟩

/-- Every status, in the order of the game. -/
def all : List Status :=
  [uninitialized, waitingForStart, waitingForJoin, shuffling, inProgress, finished]

/-- The name of the status. -/
def name : Status → String
  | uninitialized => "UNINITIALIZED"
  | waitingForStart => "WAITING_FOR_START"
  | waitingForJoin => "WAITING_FOR_JOIN"
  | shuffling => "SHUFFLING"
  | inProgress => "IN_PROGRESS"
  | finished => "FINISHED"

/-- The status of this name. -/
def ofName? (name : String) : Option Status := all.find? (·.name == name)

theorem ofName?_name (s : Status) : ofName? s.name = some s := by
  cases s <;> decide

/-- A status has been read from the contract. -/
def isKnown (s : Status) : Bool := s != uninitialized

/-- The game is over. -/
def isOver (s : Status) : Bool := s == finished

/-- The status the contract stores under this code. -/
def ofCode (code : UInt8) : Except Error Status :=
  match code with
  | 0 => .ok waitingForStart
  | 1 => .ok waitingForJoin
  | 2 => .ok shuffling
  | 3 => .ok inProgress
  | 4 => .ok finished
  | code => .error (.unknownStatus code)

end Status

end ShuffleWatch
