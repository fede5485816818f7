import ShuffleWatch.Event.Written
import ShuffleWatch.Feed
import ShuffleWatch.Status

/-!
# Chains in memory

A chain that lives in memory: it logs the events that are published on it,
knows the status of games, and feeds its subscribers. Like a real chain it
keeps its history and delivers it to every new subscriber first. What the
subscribers see is exactly what was published, in that order, except for what
finds their queues full.
-/

namespace ShuffleWatch

/-- How many items a subscription may have waiting besides its backlog and the
    mark at the end of it. -/
def liveCapacity : Nat := 1024

/-- An open feed of a chain. -/
structure Subscription where
  id : Nat
  filter : Filter
  /-- The items that wait to be taken. -/
  queue : List Item
  /-- The most items that may wait. -/
  capacity : Nat
  /-- The chain still delivers to it. -/
  isLive : Bool
  deriving DecidableEq

namespace Subscription

/-- Puts an item into the queue, if the chain still delivers and there is room. -/
def offer (sub : Subscription) (item : Item) : Subscription :=
  if sub.isLive && decide (sub.queue.length < sub.capacity) then
    { sub with queue := sub.queue ++ [item] }
  else sub

/-- Delivers an entry that the filter admits. -/
def deliver (sub : Subscription) (e : Entry) : Subscription :=
  if sub.filter.admits e.event then sub.offer (.entry e) else sub

/-- Delivers that the connection is lost, and nothing after it. -/
def disconnect (sub : Subscription) : Subscription :=
  { sub.offer (.fault (.connectionLost .disconnected)) with isLive := false }

end Subscription

/-- A chain in memory. -/
structure Chain where
  /-- The entries, in the order in which they were delivered. -/
  history : List Entry
  /-- The greatest block so far. -/
  lastBlock : UInt64
  /-- The status that is reported for a game. -/
  statusOf : GameId → Option Status
  /-- The feeds that somebody still holds, in the order in which they were opened. -/
  subscriptions : List Subscription
  /-- The number of feeds opened so far. -/
  opened : Nat

/-- What became of a publication. -/
inductive Published
  /-- The event was logged at this position. -/
  | logged (p : Position)
  /-- The event was undecodable, which every subscriber is told. -/
  | undecodable
  /-- There is no block after the last one. -/
  | noBlockLeft
  deriving DecidableEq

/-- What a look at a feed finds. -/
inductive Next
  | item (item : Item)
  /-- Nothing waits yet. -/
  | pending
  /-- Nothing waits, and nothing will. -/
  | ended
  deriving DecidableEq

namespace Chain

/-- A chain on which nothing has happened. -/
def empty : Chain := ⟨[], 0, fun _ => none, [], 0⟩

/-- Sets the status that is reported for a game. -/
def setStatus (c : Chain) (game : GameId) (status : Status) : Chain :=
  { c with statusOf := fun g => if g = game then some status else c.statusOf g }

/-- Forgets the game. -/
def removeGame (c : Chain) (game : GameId) : Chain :=
  { c with statusOf := fun g => if g = game then none else c.statusOf g }

/-- The number of feeds to which the chain still delivers. -/
def subscriberCount (c : Chain) : Nat := c.subscriptions.countP (·.isLive)

/-- Logs an entry as it is, and delivers it. -/
def deliver (c : Chain) (e : Entry) : Chain :=
  { c with
    history := c.history ++ [e]
    lastBlock := max c.lastBlock e.position.block
    subscriptions := c.subscriptions.map (·.deliver e) }

/-- Logs an event at the start of a new block, and delivers it. -/
def publish (c : Chain) (e : Event) : Chain × Published :=
  if c.lastBlock.toNat + 1 < UInt64.size then
    let p := Position.blockStart (c.lastBlock + 1)
    (c.deliver ⟨p, e⟩, .logged p)
  else (c, .noBlockLeft)

/-- Tells every subscriber about a fault. -/
def broadcast (c : Chain) (f : Fault) : Chain :=
  { c with subscriptions := c.subscriptions.map (·.offer (.fault f)) }

/-- Publishes a written event, or tells every subscriber why it is none. -/
def publishWritten (c : Chain) (w : WrittenEvent) : Chain × Published :=
  match w.event with
  | .ok e => c.publish e
  | .error error => (c.broadcast (.malformedEvent (.misread error)), .undecodable)

/-- Closes all feeds, which end after what waits in them. -/
def disconnect (c : Chain) : Chain :=
  { c with subscriptions := c.subscriptions.map (·.disconnect) }

/-- The entries of the history that the filter admits. -/
def backlog (c : Chain) (filter : Filter) : List Entry :=
  c.history.filter fun e => filter.admits e.event

/-- A new feed, in which the backlog and the mark at the end of it wait. -/
def feed (c : Chain) (filter : Filter) : Subscription where
  id := c.opened
  filter := filter
  queue := (c.backlog filter).map .entry ++ [.caughtUp]
  capacity := (c.backlog filter).length + 1 + liveCapacity
  isLive := true

/-- Opens a feed, and tells by which number it is held. -/
def subscribe (c : Chain) (filter : Filter) : Chain × Nat :=
  ({ c with subscriptions := c.subscriptions ++ [c.feed filter], opened := c.opened + 1 },
    c.opened)

/-- The feed held by this number. -/
def subscription? (c : Chain) (id : Nat) : Option Subscription :=
  c.subscriptions.find? (·.id == id)

/-- Replaces the queue of the feed held by this number. -/
def setQueue (c : Chain) (id : Nat) (queue : List Item) : Chain :=
  { c with
    subscriptions :=
      c.subscriptions.map fun sub => if sub.id = id then { sub with queue := queue } else sub }

/-- Takes the next item from a feed, without waiting for it. -/
def next (c : Chain) (id : Nat) : Chain × Next :=
  match c.subscription? id with
  | none => (c, .ended)
  | some sub =>
    match sub.queue with
    | item :: rest => (c.setQueue id rest, .item item)
    | [] => (c, if sub.isLive then .pending else .ended)

/-- Takes all the items that wait in a feed, and tells what is found after them:
    `pending` or `ended`. -/
def drain (c : Chain) (id : Nat) : Chain × List Item × Next :=
  match c.subscription? id with
  | none => (c, [], .ended)
  | some sub => (c.setQueue id [], sub.queue, if sub.isLive then .pending else .ended)

/-- Gives up a feed, with all that waits in it. -/
def release (c : Chain) (id : Nat) : Chain :=
  { c with subscriptions := c.subscriptions.filter (·.id != id) }

end Chain

end ShuffleWatch
