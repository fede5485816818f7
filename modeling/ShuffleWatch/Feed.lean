import ShuffleWatch.Event

/-!
# Feeds

What a subscription to the events of a chain delivers, and how it is narrowed
down. A feed hands out each event at least once while it is open, in any order.
It first delivers what is on chain already, and then says so once
(`Item.caughtUp`).
-/

namespace ShuffleWatch

/-- Why the connection behind a feed is gone. -/
inductive Loss
  /-- The chain closed all its feeds. -/
  | disconnected
  /-- The feed came to an end without a word. -/
  | ended
  /-- A call to the node failed. -/
  | callFailed
  /-- The feed gave this reason. -/
  | reported (reason : String)
  deriving DecidableEq

/-- The reason in words. The reason of a failed call is left to the node. -/
def Loss.message? : Loss → Option String
  | disconnected => some "memory bridge disconnected"
  | ended => some "feed ended"
  | callFailed => none
  | reported reason => some reason

/-- Why something delivered as an event is no event. -/
inductive Garble
  /-- A written event was misread. -/
  | misread (error : Error)
  /-- The log is not part of a block yet. -/
  | pending
  /-- The topics and the data of the log at this position are those of no
      event. -/
  | undecodable (position : Position)
  /-- The log names a game by a number of more than 64 bits. -/
  | gameIdOutOfRange (id : Nat)
  /-- The feed gave this reason. -/
  | reported (reason : String)
  deriving DecidableEq

/-- The reason in words. -/
def Garble.message : Garble → String
  | misread error => error.message
  | pending => "log is still pending"
  | undecodable position => "Invalid data at " ++ position.render
  | gameIdOutOfRange id => "game id " ++ Text.Decimal.render id ++ " out of range"
  | reported reason => reason

/-- What can go wrong between a client and the chain. -/
inductive Fault
  /-- The feed is gone. -/
  | connectionLost (loss : Loss)
  /-- A single event is undecodable; the feed goes on. -/
  | malformedEvent (garble : Garble)
  /-- A call to the node failed. -/
  | provider
  /-- The contract gave an answer that makes no sense. -/
  | contract
  /-- Nobody takes the requested actions any more. -/
  | dispatcherClosed
  /-- Something read from the chain was misread. -/
  | misread (error : Error)
  deriving DecidableEq

namespace Fault

/-- The feed is gone, and what was learned from it may be out of date. -/
def losesConnection : Fault → Bool
  | connectionLost _ => true
  | provider => true
  | _ => false

/-- The fault in words, as far as they do not come from the node or the
    contract. -/
def message? : Fault → Option String
  | connectionLost loss => loss.message?.map ("connection lost: " ++ ·)
  | malformedEvent garble => some ("malformed event: " ++ garble.message)
  | provider => none
  | contract => none
  | dispatcherClosed => some "dispatcher closed"
  | misread error => some error.message

end Fault

/-- What a feed delivers. -/
inductive Item
  /-- An event of the chain. -/
  | entry (e : Entry)
  /-- All that was on chain when the feed was opened has been delivered. -/
  | caughtUp
  /-- Something went wrong. -/
  | fault (f : Fault)
  deriving DecidableEq

/-- Which events a feed delivers. -/
structure Filter where
  /-- Only those of this game, if there is one. -/
  game : Option GameId
  /-- Only those of these kinds, if there are any. -/
  kinds : List EventKind
  deriving DecidableEq

namespace Filter

/-- Every event. -/
def everything : Filter := ⟨none, []⟩

/-- The filter lets the event through. -/
def admits (f : Filter) (e : Event) : Bool :=
  f.game.all (· == e.game) && (f.kinds.isEmpty || f.kinds.contains e.kind)

theorem admits_everything (e : Event) : everything.admits e := rfl

end Filter

end ShuffleWatch
