import ShuffleWatch.Event
import ShuffleWatch.Players
import ShuffleWatch.Status

/-!
# Sessions

What one client knows about one game, and when it has to act. The client learns
the status from the contract and from events, which may come repeatedly and in
any order. So flags are only set, the status only moves forward, and the client
is asked to shuffle at most once per *epoch*: the time between two resets.

An epoch begins when the players agree to a rematch, when another pair of
players or another identity is bound, or when the application asks for it. The
position of the latest rematch is the *floor* of the epoch: what happened at or
below it is past.

While a feed still delivers what is on chain already, requests are held back,
as the client's own shuffle may yet be delivered.
-/

namespace ShuffleWatch

/-- What the local player should do on chain. -/
inductive Action
  /-- Shuffle the deck of the game, in this role. -/
  | shuffle (game : GameId) (role : Role)
  deriving DecidableEq

/-- Who has shuffled in the current epoch. -/
structure Progress where
  creator : Bool
  joiner : Bool
  deriving DecidableEq

namespace Progress

/-- Nobody has shuffled. -/
def none : Progress := ⟨false, false⟩

/-- Both players have shuffled. -/
def isComplete (p : Progress) : Bool := p.creator && p.joiner

end Progress

/-- The state of the feed behind a session. -/
inductive Link
  | live
  /-- What is known is kept, but may be out of date until the status is read
      again. -/
  | lost
  deriving DecidableEq

/-- Why players and an identity make no session. -/
inductive Refusal
  /-- The two players are the same. -/
  | duplicatePlayers (player : Address)
  /-- The role of the client is not known. -/
  | noRole (error : Error)
  deriving DecidableEq

/-- The refusal in words. -/
def Refusal.message : Refusal → String
  | duplicatePlayers player =>
    "creator and joiner are the same address: " ++ player.render
  | noRole error => error.message

/-- What one client knows about one game. -/
structure Session where
  game : GameId
  players : Players
  role : Role
  status : Status
  progress : Progress
  /-- Where the creator shuffled last in this epoch. -/
  creatorShuffle : Option Position
  /-- Where the joiner shuffled last in this epoch. -/
  joinerShuffle : Option Position
  /-- The client was asked to shuffle as the creator in this epoch. -/
  creatorAsked : Bool
  /-- The client was asked to shuffle as the joiner in this epoch. -/
  joinerAsked : Bool
  /-- The number of resets so far. -/
  epoch : Nat
  /-- The position of the latest rematch. -/
  floor : Option Position
  /-- Requests are held back. -/
  holding : Bool
  link : Link
  deriving DecidableEq

namespace Session

/-- The role that the identity has among the players, who have to differ. -/
def bind (players : Players) (self : Option Address) : Except Refusal Role :=
  if players.creator = players.joiner then .error (.duplicatePlayers players.creator)
  else (players.roleOf self).mapError .noRole

/-- The session of a client that knows nothing about the game yet. -/
def fresh (game : GameId) (players : Players) (role : Role) : Session where
  game := game
  players := players
  role := role
  status := .uninitialized
  progress := .none
  creatorShuffle := none
  joinerShuffle := none
  creatorAsked := false
  joinerAsked := false
  epoch := 0
  floor := none
  holding := false
  link := .live

/-- A session for the game, the players and the identity of the client. -/
def create (game : GameId) (players : Players) (self : Option Address) :
    Except Refusal Session :=
  (bind players self).map (fresh game players)

/-! ## When to act -/

/-- A player of this role should shuffle now. The creator shuffles first, once
    the game is at the shuffle, and the joiner follows. -/
def shouldAct (s : Session) : Role → Bool
  | .creator => s.status == .shuffling && !s.progress.creator
  | .joiner => s.progress.creator && !s.progress.joiner
  | .spectator => false

/-- The client was asked to shuffle in this role. -/
def asked (s : Session) : Role → Bool
  | .creator => s.creatorAsked
  | .joiner => s.joinerAsked
  | .spectator => false

/-- The session after the client was asked to shuffle in this role. -/
def markAsked (s : Session) : Role → Session
  | .creator => { s with creatorAsked := true }
  | .joiner => { s with joinerAsked := true }
  | .spectator => s

/-- The client has to be asked now: it should act, has not been asked in this
    epoch, requests are not held back, and the game is not over. -/
def mustAsk (s : Session) : Bool :=
  !s.holding && !s.status.isOver && s.shouldAct s.role && !s.asked s.role

/-- Asks the client to shuffle, if it has to be asked. -/
def takeAction (s : Session) : Session × Option Action :=
  if s.mustAsk then (s.markAsked s.role, some (.shuffle s.game s.role)) else (s, none)

/-! ## What is learned -/

/-- An event moves the status forward to `target`: it is known, and earlier. -/
def advancesTo (s : Session) (target : Status) : Bool :=
  s.status.isKnown && decide (s.status < target)

/-- Moves the status forward to `target`, if it is known and earlier. -/
def advance (s : Session) (target : Status) : Session :=
  if s.advancesTo target then { s with status := target } else s

/-- Once both players have shuffled, the game is in progress. -/
def settle (s : Session) : Session :=
  if s.progress.isComplete then s.advance .inProgress else s

/-- Records a shuffle of one of the players, the latest position for each. -/
def recordShuffle (s : Session) (player : Address) (p : Position) : Session :=
  if player = s.players.creator then
    { s with
      progress := { s.progress with creator := true }
      creatorShuffle := some (s.creatorShuffle.elim p (max · p)) }
  else
    { s with
      progress := { s.progress with joiner := true }
      joinerShuffle := some (s.joinerShuffle.elim p (max · p)) }

/-! ## Operations -/

/-- Adopts the status read from the contract. -/
def seed (s : Session) (status : Status) : Session × Option Action :=
  if status.isKnown then { s with status := status, link := .live }.settle.takeAction
  else (s, none)

/-- Records that the feed is gone. -/
def loseLink (s : Session) : Session := { s with link := .lost }

/-- Holds requests back until the feed has caught up with the chain. -/
def awaitBacklog (s : Session) : Session := { s with holding := true }

/-- Ends the holding back of requests, now that the feed has caught up. -/
def catchUp (s : Session) : Session × Option Action := { s with holding := false }.takeAction

/-- Forgets what was learned in this epoch and begins the next one. -/
def restart (s : Session) : Session :=
  { s with
    status := .uninitialized
    progress := .none
    creatorShuffle := none
    joinerShuffle := none
    creatorAsked := false
    joinerAsked := false
    epoch := s.epoch + 1 }

/-- Begins an epoch with another pair of players or another identity. -/
def rebind (s : Session) (players : Players) (self : Option Address) :
    Except Refusal Session :=
  (bind players self).map fun role => { s with players := players, role := role }.restart

end Session

end ShuffleWatch
