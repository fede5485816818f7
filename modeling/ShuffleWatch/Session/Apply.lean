import ShuffleWatch.Feed
import ShuffleWatch.Session.Basic

/-!
# What a feed tells a session

How a session takes in the entries of the chain's log. Entries of other games,
of past epochs and about strangers are filtered out. A rematch begins an epoch
at its position, and shuffles above that position, which overtook it on their
way, belong to the new epoch already.
-/

namespace ShuffleWatch

/-- Why an entry left a session as it was. -/
inductive Filtered
  | otherGame
  /-- It was logged before the latest rematch. -/
  | stale
  /-- It names somebody who is not the player that such an event is about. -/
  | unknownPlayer
  deriving DecidableEq

/-- What became of something that a feed delivered. -/
inductive Verdict
  /-- The session changed, or the client has to act. -/
  | changed (action : Option Action)
  /-- Nothing new was learned. -/
  | unchanged
  | filtered (why : Filtered)
  /-- A new epoch began, and the status has to be read again. -/
  | reset
  /-- It was undecodable. -/
  | malformed
  /-- The feed is gone, and the status has to be read again. -/
  | disconnected
  deriving DecidableEq

/-- The action that the client has to take. -/
def Verdict.action? : Verdict → Option Action
  | changed action => action
  | _ => none

/-- The event is about the right player: the creator creates, the joiner joins,
    and either of them shuffles. -/
def Players.accept (ps : Players) : Event → Bool
  | .created _ a => a == ps.creator
  | .joined _ a => a == ps.joiner
  | .shuffled _ a => ps.contains a
  | .ended .. => true
  | .rematch _ => true

namespace Session

/-- The position is at or below the floor. -/
def isStale (s : Session) (p : Position) : Bool := s.floor.any (p ≤ ·)

/-- Why the entry is filtered out, if it is. -/
def filtered? (s : Session) (e : Entry) : Option Filtered :=
  if e.event.game ≠ s.game then some .otherGame
  else if s.isStale e.position then some .stale
  else if s.players.accept e.event then none
  else some .unknownPlayer

/-- Records a shuffle that happened above position `p`. -/
def carryShuffle (p : Position) (s : Session) (player : Address) :
    Option Position → Session
  | some q => if p < q then s.recordShuffle player q else s
  | none => s

/-- Begins the epoch of the rematch at position `p`. -/
def rematch (s : Session) (p : Position) : Session :=
  let fresh := { s with floor := some p }.restart
  let carried := carryShuffle p fresh s.players.creator s.creatorShuffle
  carryShuffle p carried s.players.joiner s.joinerShuffle

/-- Learns from an event at position `p`. -/
def learn (s : Session) (p : Position) : Event → Session
  | .created .. => s.advance .waitingForJoin
  | .joined .. => if s.advancesTo .shuffling then (s.advance .shuffling).settle else s
  | .shuffled _ player => (s.recordShuffle player p).settle
  | .ended .. => s.advance .finished
  | .rematch _ => s.rematch p

/-- Two sessions agree on the status and on who has shuffled. -/
def looksLike (s t : Session) : Bool := s.status == t.status && s.progress == t.progress

/-- Takes in an entry of the log. -/
def apply (s : Session) (e : Entry) : Session × Verdict :=
  match s.filtered? e with
  | some why => (s, .filtered why)
  | none =>
    let learned := s.learn e.position e.event
    if e.event.kind = .rematch then (learned, .reset)
    else
      let (t, action) := learned.takeAction
      (t, if s.looksLike t && action.isNone then .unchanged else .changed action)

/-- Takes in what the feed delivered. -/
def receive (s : Session) : Item → Session × Verdict
  | .entry e => s.apply e
  | .caughtUp =>
    let (t, action) := s.catchUp
    (t, if action.isNone then .unchanged else .changed action)
  | .fault f => if f.losesConnection then (s.loseLink, .disconnected) else (s, .malformed)

end Session

end ShuffleWatch
