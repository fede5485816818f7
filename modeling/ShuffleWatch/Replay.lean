import ShuffleWatch.Chain
import ShuffleWatch.Json.Game
import ShuffleWatch.Json.Reader
import ShuffleWatch.Session.Apply
import ShuffleWatch.Snapshot
import ShuffleWatch.Text.Blank
import ShuffleWatch.Text.Lines

/-!
# Replays

What a session makes of events that were recorded in a file, one written event
in JSON on each line. Blank lines and lines that begin with `#` are skipped.
The events are published on a chain in memory, one after the other, and the
session takes in what a feed of that chain delivers.

`Replay.direct` says the same without a chain: the event on the `k`-th line
that has one is logged at the start of block `k`.
-/

namespace ShuffleWatch

/-- What a replay has produced so far. -/
structure Replay where
  session : Session
  /-- The session after each line with a written event, the latest first. -/
  shown : List Snapshot
  /-- The requested actions, the latest first. -/
  requested : List Action
  /-- The number of lines that were no events. -/
  malformed : Nat
  deriving DecidableEq

/-- What makes a replay impossible: a line that is no text. -/
structure UnreadableLine where
  number : Nat
  deriving DecidableEq

/-- The cause in words. -/
def UnreadableLine.message (e : UnreadableLine) : String :=
  "failed to read line " ++ Text.Decimal.render e.number

namespace Replay

/-- The session after each line with a written event. -/
def snapshots (r : Replay) : List Snapshot := r.shown.reverse

/-- The requested actions, in their order. -/
def actions (r : Replay) : List Action := r.requested.reverse

/-! ## Lines -/

/-- The text on a line, unless it is blank or a comment. -/
def content? (line : String) : Option (List Char) :=
  match Text.trim line.toList with
  | [] => none
  | '#' :: _ => none
  | cs => some cs

/-- The written event in a text. -/
def written? (cs : List Char) : Option WrittenEvent := (Json.read? cs).bind WrittenEvent.ofJson?

/-- The written events of a file, where `none` stands for a line that has none;
    or the first line that is no text. -/
def readFile (bytes : List UInt8) : Except UnreadableLine (List (Option WrittenEvent)) :=
  match Text.decodeLines 1 (Text.lines bytes) with
  | .ok texts => .ok ((texts.filterMap content?).map written?)
  | .error number => .error ⟨number⟩

/-! ## What a line does -/

/-- Adopts the initial status, as at the beginning of each epoch. -/
def seed (initial : Status) (r : Replay) : Replay :=
  let (session, action) := r.session.seed initial
  { r with session := session, requested := action.toList ++ r.requested }

/-- The beginning of a replay. -/
def start (initial : Status) (s : Session) : Replay := seed initial ⟨s, [], [], 0⟩

/-- Counts a line that is no event. -/
def miss (r : Replay) : Replay := { r with malformed := r.malformed + 1 }

/-- Shows the session. -/
def display (r : Replay) : Replay := { r with shown := r.session.snapshot none :: r.shown }

/-- Takes in what came of a line. -/
def receive (initial : Status) (r : Replay) (item : Item) : Replay :=
  let (session, verdict) := r.session.receive item
  let r := { r with session := session }
  display <|
    match verdict with
    | .changed action => { r with requested := action.toList ++ r.requested }
    | .reset => r.seed initial
    | .malformed => r.miss
    | _ => r

/-! ## Replaying on a chain -/

/-- Publishes the events of the lines one after the other, and takes in what the
    feed delivers. -/
def onChain (initial : Status) (feed : Nat) :
    Chain → Replay → List (Option WrittenEvent) → Replay
  | _, r, [] => r
  | c, r, none :: rest => onChain initial feed c r.miss rest
  | c, r, some w :: rest =>
    match (c.publishWritten w).1.next feed with
    | (c, .item item) => onChain initial feed c (r.receive initial item) rest
    | _ => r

/-- Replays lines on a new chain. Its feed delivers every event of every game,
    and first of all that nothing is on chain yet. -/
def ofLines (s : Session) (initial : Status) (lines : List (Option WrittenEvent)) : Replay :=
  let (c, feed) := Chain.empty.subscribe .everything
  onChain initial feed (c.next feed).1 (start initial s) lines

/-! ## Replaying directly -/

/-- Takes in the events of the lines, the first of which is logged in the block
    after `block`. -/
def directFrom (initial : Status) : Nat → Replay → List (Option WrittenEvent) → Replay
  | _, r, [] => r
  | block, r, none :: rest => directFrom initial block r.miss rest
  | block, r, some w :: rest =>
    match w.event with
    | .ok e =>
      let p := Position.blockStart (UInt64.ofNat (block + 1))
      directFrom initial (block + 1) (r.receive initial (.entry ⟨p, e⟩)) rest
    | .error _ => directFrom initial block r.miss.display rest

/-- Replays lines without a chain. -/
def direct (s : Session) (initial : Status) (lines : List (Option WrittenEvent)) : Replay :=
  directFrom initial 0 (start initial s) lines

end Replay

/-- Replays a file. -/
def replay (s : Session) (initial : Status) (bytes : List UInt8) :
    Except UnreadableLine Replay :=
  (Replay.readFile bytes).map (Replay.ofLines s initial)

end ShuffleWatch
