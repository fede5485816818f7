import ShuffleWatch.Backoff
import ShuffleWatch.Chain
import ShuffleWatch.Outlet
import ShuffleWatch.Session.Apply
import ShuffleWatch.Snapshot

/-!
# Watches

A *watch* keeps one session in step with a chain. It opens a feed, reads the
status of the game, and follows the feed from then on. When the feed or a
status read fails, it waits and starts over; when a new epoch begins at the
wish of the application, it starts over at once, since the feed has to deliver
what is on chain again. In between it serves the requests of the application.

A watch does one thing at a time. Its state says what it does
(`Watch.Phase`), and includes what it has to do with: the chain, the mailbox
of requests, the outlet for actions, and the clock.
-/

namespace ShuffleWatch

/-- The access to a chain: every call is counted, and calls can be made to fail. -/
structure Access where
  chain : Chain
  /-- With what opening a feed fails. -/
  subscribeFault : Option Fault
  /-- With what reading a status fails. -/
  statusFault : Option Fault
  /-- The number of attempts to open a feed. -/
  subscribes : Nat
  /-- The number of attempts to read a status. -/
  reads : Nat

namespace Access

/-- The working access to a chain. -/
def ofChain (chain : Chain) : Access := ⟨chain, none, none, 0, 0⟩

/-- Opens a feed. -/
def subscribe (a : Access) (filter : Filter) : Access × Except Fault Nat :=
  match a.subscribeFault with
  | some fault => ({ a with subscribes := a.subscribes + 1 }, .error fault)
  | none =>
    let (chain, id) := a.chain.subscribe filter
    ({ a with chain := chain, subscribes := a.subscribes + 1 }, .ok id)

/-- Reads the status of a game, which there may not be. -/
def readStatus (a : Access) (game : GameId) : Access × Except Fault (Option Status) :=
  ({ a with reads := a.reads + 1 },
    match a.statusFault with
    | some fault => .error fault
    | none => .ok (a.chain.statusOf game))

/-- Takes the next item from a feed. -/
def next (a : Access) (id : Nat) : Access × Next :=
  let (chain, found) := a.chain.next id
  ({ a with chain := chain }, found)

/-- Gives up a feed. -/
def release (a : Access) (id : Nat) : Access := { a with chain := a.chain.release id }

end Access

/-- What the application asks of a watch. -/
inductive Request
  /-- Begin a new epoch. -/
  | restart
  /-- Follow other players, or the same ones with another identity. -/
  | rebind (players : Players) (self : Option Address)
  /-- Show the session. -/
  | snapshot
  deriving DecidableEq

/-- What a watch answers to a request. -/
inductive Reply
  | done
  | refused (why : Condition)
  | shown (snapshot : Snapshot)
  deriving DecidableEq

/-- The requests to a watch and its answers, each under the number that its
    request was given. -/
structure Mailbox where
  /-- The requests that wait, the oldest first. -/
  waiting : List (Nat × Request)
  /-- The answers, the latest first. -/
  replies : List (Nat × Reply)
  /-- The number of requests so far. -/
  posted : Nat
  /-- There may be further requests. -/
  isOpen : Bool
  deriving DecidableEq

namespace Mailbox

/-- A mailbox without requests. -/
def empty : Mailbox := ⟨[], [], 0, true⟩

/-- Posts a request, and tells under which number. -/
def post (m : Mailbox) (r : Request) : Mailbox × Nat :=
  ({ m with waiting := m.waiting ++ [(m.posted, r)], posted := m.posted + 1 }, m.posted)

/-- Answers a request. -/
def answer (m : Mailbox) (ticket : Nat) (reply : Reply) : Mailbox :=
  { m with replies := (ticket, reply) :: m.replies }

/-- The answer to a request. -/
def reply? (m : Mailbox) (ticket : Nat) : Option Reply :=
  (m.replies.find? (·.1 == ticket)).map (·.2)

end Mailbox

/-- What a watch does. -/
inductive Watch.Phase
  /-- It has not been started. -/
  | idle
  /-- It is about to open a feed. -/
  | connecting
  /-- It follows the feed held by this number. -/
  | following (feed : Nat)
  /-- It waits until this time before it starts over. -/
  | waiting (due : Duration)
  /-- It has ended. -/
  | stopped
  deriving DecidableEq

/-- A watch over a session, and what it has to do with. -/
structure Watch where
  session : Session
  /-- What the application should show of the watch itself. -/
  condition : Option Condition
  backoff : Backoff
  /-- The random draws to come. -/
  draws : List UInt64
  phase : Watch.Phase
  /-- An action on its way to the outlet. -/
  outbox : Option Action
  access : Access
  mailbox : Mailbox
  outlet : Outlet
  /-- The time since the beginning. -/
  clock : Duration
  /-- The watch is to be aborted. -/
  isKilled : Bool

namespace Watch

/-- A watch that is not started yet. -/
def create (session : Session) (backoff : Backoff) (chain : Chain) (outlet : Outlet)
    (draws : List UInt64) : Watch where
  session := session
  condition := none
  backoff := backoff
  draws := draws
  phase := .idle
  outbox := none
  access := .ofChain chain
  mailbox := .empty
  outlet := outlet
  clock := 0
  isKilled := false

/-- What the application shows. -/
def snapshot (w : Watch) : Snapshot := w.session.snapshot w.condition

/-- The watch has ended. -/
def hasStopped (w : Watch) : Bool := w.phase == .stopped

/-- The events of the game, of every kind. -/
def filter (w : Watch) : Filter := ⟨some w.session.game, EventKind.all⟩

end Watch

end ShuffleWatch
