import ShuffleWatch.Contract.Log

/-!
# Polling the contract

How a feed is made of the logs of the contract: a node is asked, again and
again, for its latest block, and then for the logs of the next blocks up to it,
of which it gives out only so many at once. When the blocks up to the latest
one have been asked for, the feed has caught up with the chain. It ends with
the first call that fails.
-/

namespace ShuffleWatch.Contract

/-- Where and how the contract is watched. -/
structure Endpoint where
  url : String
  contract : Address
  /-- The first block that is asked for. -/
  startBlock : UInt64 := 0
  /-- The most blocks to ask for at once, where zero counts as one. -/
  logRange : UInt64 := 2000
  /-- The time between two looks at a chain that has not grown. -/
  pollMillis : UInt64 := 2000
  /-- The most items that may wait in a feed. -/
  capacity : Nat := 1024
  deriving DecidableEq

/-- A call for the logs of the contract in a range of blocks. -/
structure Query where
  first : Nat
  last : Nat
  contract : Address
  /-- The game the logs have to be about, if there is one. -/
  game : Option GameId
  deriving DecidableEq

/-- The topics that a log must have, where `none` admits any. -/
def Query.topics (q : Query) : Option (List (Option Word)) :=
  q.game.map fun g => [none, some (.ofNat g.val.toNat)]

/-- A node, as it answers calls. A call that fails has no answer. -/
structure Node where
  /-- The latest blocks that are reported, one after the other. -/
  heads : List (Option UInt64)
  /-- The answer to a query, which may depend on how many came before it. -/
  logs : Nat → Query → Option (List Log)

/-- The node that nobody reaches. -/
def Node.unreachable : Node := ⟨[], fun _ _ => none⟩

/-- What the poll does that can be seen from outside. -/
inductive Move
  | query (q : Query)
  | deliver (item : Item)
  deriving DecidableEq

/-- The state of a poll. -/
structure Poll where
  /-- The first block that has not been asked for. -/
  next : Nat
  /-- The number of queries so far. -/
  queries : Nat
  hasCaughtUp : Bool
  deriving DecidableEq

namespace Poll

/-- The greatest number a block can have. -/
def lastBlock : Nat := UInt64.size - 1

/-- The beginning of a poll. -/
def start (e : Endpoint) : Poll := ⟨e.startBlock.toNat, 0, false⟩

/-- The query for the next blocks, up to the head. -/
def query (p : Poll) (e : Endpoint) (f : Filter) (head : Nat) : Query where
  first := p.next
  last := min head (min lastBlock (p.next + (max e.logRange.toNat 1 - 1)))
  contract := e.contract
  game := f.game

/-- What the feed delivers of a log. An event that the filter does not admit is
    passed over. -/
def item? (f : Filter) (l : Log) : Option Item :=
  match l.decode with
  | .ok entry => if f.admits entry.event then some (.entry entry) else none
  | .error garble => some (.fault (.malformedEvent garble))

/-- Says that the feed has caught up, if it has not been said before. -/
def catchUp (p : Poll) : List Move := if p.hasCaughtUp then [] else [.deliver .caughtUp]

/-- The last move of a feed whose node does not answer. -/
def lose : Move := .deliver (.fault (.connectionLost .callFailed))

/-- What the poll does when the node reports a head, and its next state, unless
    that was the end. -/
def step (p : Poll) (e : Endpoint) (f : Filter) (logs : Nat → Query → Option (List Log))
    (head : Nat) : List Move × Option Poll :=
  -- All blocks up to the head have been asked for.
  if head < p.next then (p.catchUp, some { p with hasCaughtUp := true })
  else
    let q := p.query e f head
    match logs p.queries q with
    | none => ([.query q, lose], none)
    | some found =>
      let moves := .query q :: ((Log.sort found).filterMap (item? f)).map .deliver
      let p' : Poll := ⟨min lastBlock (q.last + 1), p.queries + 1, p.hasCaughtUp⟩
      if q.last = head then (moves ++ p.catchUp, some { p' with hasCaughtUp := true })
      else (moves, some p')

/-- What the poll does as the node reports its heads. -/
def run (e : Endpoint) (f : Filter) (logs : Nat → Query → Option (List Log)) :
    Poll → List (Option UInt64) → List Move
  | _, [] => []
  | _, none :: _ => [lose]
  | p, some head :: heads =>
    match p.step e f logs head.toNat with
    | (moves, none) => moves
    | (moves, some p) => moves ++ run e f logs p heads

end Poll

/-- Opens a feed of the contract: what it does from then on, if the node answers
    a first call. -/
def subscribe (e : Endpoint) (f : Filter) (node : Node) : Except Fault (List Move) :=
  match node.heads with
  | some _ :: heads => .ok (Poll.run e f node.logs (.start e) heads)
  | _ => .error .provider

end ShuffleWatch.Contract
