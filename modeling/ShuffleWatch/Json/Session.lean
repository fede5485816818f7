import ShuffleWatch.Json.Game
import ShuffleWatch.Snapshot

/-!
# Sessions in JSON

How actions are written in JSON and read from it, and how conditions and
snapshots are written.
-/

namespace ShuffleWatch

open Json (fields? required)

namespace Action

def ofJson? (j : Json) : Option Action := do
  let ("Shuffle", content) ← j.alternative? | none
  let [game, role] ← fields? ["game_id", "role"] 2 content | none
  return .shuffle (← required GameId.ofJson? game) (← required Role.ofJson? role)

def toJson : Action → Json
  | shuffle game role =>
    .record [("Shuffle", .record [("game_id", game.toJson), ("role", role.toJson)])]

end Action

namespace Link

/-- The name of the state of a feed. -/
def name : Link → String
  | live => "live"
  | lost => "lost"

end Link

namespace Condition

/-- The condition, and the game it is about. -/
def toJson (c : Condition) : Json :=
  .record (("condition", .text c.name) ::
    match c with
    | unknownGame game => [("game_id", game.toJson)]
    | _ => [])

end Condition

namespace Snapshot

def toJson (s : Snapshot) : Json :=
  .record [
    ("game_id", s.game.toJson),
    ("role", s.role.toJson),
    ("status", s.status.toJson),
    ("shuffle", .record [
      ("creator", .bool s.progress.creator),
      ("joiner", .bool s.progress.joiner),
      ("should_trigger_joiner_shuffle", .bool s.joinerAsked)]),
    ("epoch", .natural s.epoch),
    ("link", .text s.link.name),
    ("condition", .orNull Condition.toJson s.condition)]

end Snapshot

end ShuffleWatch
