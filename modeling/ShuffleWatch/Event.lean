import ShuffleWatch.Address
import ShuffleWatch.GameId
import ShuffleWatch.Position

/-!
# Events of a game

What the contract logs about its games. Every event names its game, since all
games share one log.
-/

namespace ShuffleWatch

/-- The kinds of events. -/
inductive EventKind
  | created
  | joined
  | shuffled
  | ended
  | rematch
  deriving DecidableEq

namespace EventKind

/-- Every kind of event. -/
def all : List EventKind := [created, joined, shuffled, ended, rematch]

/-- The name under which the contract logs events of this kind. -/
def name : EventKind → String
  | created => "GameCreated"
  | joined => "GameJoined"
  | shuffled => "ShuffleDeck"
  | ended => "GameEnded"
  | rematch => "Rematch"

/-- The kind of events logged under this name. -/
def ofName? (name : String) : Option EventKind := all.find? (·.name == name)

theorem ofName?_name (k : EventKind) : ofName? k.name = some k := by
  cases k <;> decide

/-- The kind of events logged under this name, or the name that is none. -/
def parse (name : String) : Except Error EventKind :=
  match ofName? name with
  | some k => .ok k
  | none => .error (.malformedEvent (.unknownName name))

end EventKind

/-- What can happen in a game. -/
inductive Event
  /-- The creator opened the game. -/
  | created (game : GameId) (creator : Address)
  /-- The joiner joined it. -/
  | joined (game : GameId) (joiner : Address)
  /-- The player finished shuffling the deck. -/
  | shuffled (game : GameId) (player : Address)
  /-- The game is over, perhaps without a winner. -/
  | ended (game : GameId) (winner : Option Address)
  /-- The players agreed to play again, and what happened before is past. -/
  | rematch (game : GameId)
  deriving DecidableEq

namespace Event

/-- The game the event belongs to. -/
def game : Event → GameId
  | created g _ => g
  | joined g _ => g
  | shuffled g _ => g
  | ended g _ => g
  | rematch g => g

/-- The kind of the event. -/
def kind : Event → EventKind
  | created .. => .created
  | joined .. => .joined
  | shuffled .. => .shuffled
  | ended .. => .ended
  | rematch _ => .rematch

/-- The address the event names, if it names one. -/
def address? : Event → Option Address
  | created _ a => some a
  | joined _ a => some a
  | shuffled _ a => some a
  | ended _ w => w
  | rematch _ => none

end Event

/-- An entry of the chain's log: an event, and where it was logged. -/
structure Entry where
  position : Position
  event : Event
  deriving DecidableEq

end ShuffleWatch
