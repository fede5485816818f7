import ShuffleWatch.Session.Basic

/-!
# What the application is shown

The view of a session that an application renders, the conditions it shows
instead of a game, and the settings a session is set up from.
-/

namespace ShuffleWatch

/-- What to tell the user instead of, or besides, the state of the game. -/
inductive Condition
  | noGameSpecified
  | walletNotConnected
  | duplicatePlayers
  | connectionLost
  | unknownGame (game : GameId)
  deriving DecidableEq

namespace Condition

/-- The condition in words. -/
def message : Condition → String
  | noGameSpecified => "no game specified"
  | walletNotConnected => "wallet not connected"
  | duplicatePlayers => "creator and joiner must be different players"
  | connectionLost => "connection lost, reconnecting"
  | unknownGame _ => "game not found"

/-- The name of the condition. -/
def name : Condition → String
  | noGameSpecified => "no_game_specified"
  | walletNotConnected => "wallet_not_connected"
  | duplicatePlayers => "duplicate_players"
  | connectionLost => "connection_lost"
  | unknownGame _ => "unknown_game"

/-- What the user is told about a refusal. -/
def ofRefusal : Refusal → Condition
  | .duplicatePlayers _ => duplicatePlayers
  | .noRole _ => walletNotConnected

end Condition

/-- What an application shows of a session. -/
structure Snapshot where
  game : GameId
  role : Role
  status : Status
  progress : Progress
  /-- The client was asked to shuffle as the joiner. -/
  joinerAsked : Bool
  epoch : Nat
  link : Link
  condition : Option Condition
  deriving DecidableEq

/-- What an application shows of the session, under the condition. -/
def Session.snapshot (s : Session) (condition : Option Condition) : Snapshot where
  game := s.game
  role := s.role
  status := s.status
  progress := s.progress
  joinerAsked := s.joinerAsked
  epoch := s.epoch
  link := s.link
  condition := condition

/-- What a session is set up from, as far as it is known. -/
structure Setup where
  game : Option GameId
  creator : Option Address
  joiner : Option Address
  self : Option Address
  deriving DecidableEq

/-- The new session, for which the game and both players have to be known. -/
def Setup.session (setup : Setup) : Except Condition Session :=
  match setup.game, setup.creator, setup.joiner with
  | some game, some creator, some joiner =>
    (Session.create game ⟨creator, joiner⟩ setup.self).mapError .ofRefusal
  | _, _, _ => .error .noGameSpecified

end ShuffleWatch
