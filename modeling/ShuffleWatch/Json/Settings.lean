import ShuffleWatch.Json.Game
import ShuffleWatch.Settings

/-!
# Settings in JSON

How settings, and what is made of them for a contract, are written in JSON.
-/

namespace ShuffleWatch

namespace Settings

def toJson (s : Settings) : Json :=
  .record [
    ("rpc_url", .text s.rpcUrl),
    ("contract", .orNull .text s.contract),
    ("game_id", .orNull GameId.toJson s.game),
    ("creator", .orNull .text s.creator),
    ("joiner", .orNull .text s.joiner),
    ("local", .orNull .text s.self),
    ("start_block", .word s.startBlock),
    ("poll_interval_ms", .word s.pollMillis),
    ("log_range", .word s.logRange),
    ("log_level", .text s.logLevel),
    ("json_logs", .bool s.jsonLogs),
    ("initial_status", .orNull Status.toJson s.initialStatus)]

end Settings

namespace Contract.Endpoint

def toJson (e : Endpoint) : Json :=
  .record [
    ("rpc_url", .text e.url),
    ("contract", e.contract.toJson),
    ("start_block", .word e.startBlock),
    ("log_range", .word e.logRange),
    ("poll_interval_ms", .word e.pollMillis),
    ("channel_capacity", .natural e.capacity)]

end Contract.Endpoint

end ShuffleWatch
