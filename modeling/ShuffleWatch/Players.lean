import ShuffleWatch.Address

/-!
# Players and roles

A game is played by two: the *creator*, who opened it, and the *joiner*. Anyone
else who watches is a spectator.
-/

namespace ShuffleWatch

/-- What the local client is in a game. -/
inductive Role
  | creator
  | joiner
  | spectator
  deriving DecidableEq

namespace Role

/-- Every role. -/
def all : List Role := [creator, joiner, spectator]

/-- The name of the role. -/
def name : Role → String
  | creator => "creator"
  | joiner => "joiner"
  | spectator => "spectator"

/-- The role of this name. -/
def ofName? (name : String) : Option Role := all.find? (·.name == name)

theorem ofName?_name (r : Role) : ofName? r.name = some r := by
  cases r <;> decide

end Role

/-- The two players a game is set up for. -/
structure Players where
  creator : Address
  joiner : Address
  deriving DecidableEq

namespace Players

/-- The address is one of the two players. -/
def contains (ps : Players) (a : Address) : Bool := a == ps.creator || a == ps.joiner

/-- The role of the client with this identity. The creator is looked for first,
    and a client without an identity has no role. -/
def roleOf (ps : Players) : Option Address → Except Error Role
  | none => .error .noIdentity
  | some a =>
    if a = ps.creator then .ok .creator
    else if a = ps.joiner then .ok .joiner
    else .ok .spectator

end Players

end ShuffleWatch
