import ShuffleWatch.Contract.Word
import ShuffleWatch.Feed

/-!
# Logs of the contract

How the contract logs its events. The first topic of a log is the signature of
the event, the second one the game. Who created or joined a game is a third
topic; who shuffled, and who won, is a word of data, in which the address zero
stands for nobody.
-/

namespace ShuffleWatch

/-- The number of the word by which logs of this kind are told. -/
def EventKind.signatureNumber : EventKind → Nat
  | created => 0xc3e0f84839dc888c892a013d10c8f9d6dc05a21a879d0ce468ca558013e9121c
  | joined => 0x45c4f9cbafe186141862608c493f28b823fde4c2142bedc3f5169961a73fdd22
  | shuffled => 0x030a50f6612d1c98ccd93fb94928fb7aa4c2101f7f861e0f3531f08ad38f02ab
  | ended => 0x3d5fcd8fa3235aeb3897f25c8ea49989174981afcb01b9d03189d1056a16775b
  | rematch => 0x88ca2e1a8342948f877859ec6ea3635943f3e7d1ea717bebb559541cdcc57ec4

namespace Contract

/-- The word by which logs of this kind are told. -/
def signature (k : EventKind) : Word := .ofNat k.signatureNumber

/-- The kind of the logs with this first topic. -/
def kindOf? (topic : Word) : Option EventKind :=
  EventKind.all.find? fun k => k.signatureNumber == topic.toNat

/-- A log, as a node reports it. -/
structure Log where
  /-- The block of the log, unless it is still pending. -/
  block : Option UInt64
  /-- The index of the log in its block, unless it is still pending. -/
  index : Option Nat
  topics : List Word
  data : List UInt8
  deriving DecidableEq

namespace Log

/-- Where the log is on chain. Of an index, 64 bits count. -/
def position? (l : Log) : Option Position :=
  match l.block, l.index with
  | some block, some index => some ⟨block, UInt64.ofNat index⟩
  | _, _ => none

/-- The address, unless it stands for nobody. -/
def somebody? (a : Address) : Option Address := if a = .zero then none else some a

/-- The number of the game that the log is about, and the event it logs in a
    game. -/
def content? (l : Log) : Option (Nat × (GameId → Event)) := do
  let signature :: game :: others := l.topics | none
  -- The number of topics has to be right, and there may be more data than is read.
  let make : GameId → Event ←
    match ← kindOf? signature, others with
    | .created, [who] => pure (.created · who.toAddress)
    | .joined, [who] => pure (.joined · who.toAddress)
    | .shuffled, [] =>
      let who ← Word.first? l.data
      pure (.shuffled · who.toAddress)
    | .ended, [] =>
      let winner ← Word.first? l.data
      pure (.ended · (somebody? winner.toAddress))
    | .rematch, [] => pure .rematch
    | _, _ => none
  return (game.toNat, make)

/-- The entry of the chain's log that a log is, or why it is none. -/
def decode (l : Log) : Except Garble Entry :=
  match l.position? with
  | none => .error .pending
  | some p =>
    match l.content? with
    | none => .error (.undecodable p)
    | some (n, event) =>
      if n < UInt64.size then .ok ⟨p, event ⟨UInt64.ofNat n⟩⟩ else .error (.gameIdOutOfRange n)

/-- The topics after the signature and the game. -/
def furtherTopics : Event → List Word
  | .created _ who => [.ofAddress who]
  | .joined _ who => [.ofAddress who]
  | _ => []

/-- The data of the log of an event. -/
def dataOf : Event → List UInt8
  | .shuffled _ who => (Word.ofAddress who).bytes
  | .ended _ winner => (Word.ofAddress (winner.getD .zero)).bytes
  | _ => []

/-- The log that the contract writes for an event of its `game`-th game. -/
def write (block : Option UInt64) (index : Option Nat) (game : Nat) (e : Event) : Log where
  block := block
  index := index
  topics := signature e.kind :: .ofNat game :: furtherTopics e
  data := dataOf e

/-- The log of an entry. -/
def ofEntry (e : Entry) : Log :=
  write (some e.position.block) (some e.position.index.toNat) e.event.game.val.toNat e.event

/-! ## The order of logs -/

/-- What is missing comes before what is there. -/
def optionLe : Option Nat → Option Nat → Bool
  | none, _ => true
  | some _, none => false
  | some m, some n => m ≤ n

/-- The log is in an earlier block, or is in the same one and comes no later. -/
def le (l m : Log) : Bool :=
  let b := l.block.map UInt64.toNat
  let c := m.block.map UInt64.toNat
  if b = c then optionLe l.index m.index else optionLe b c

/-- The logs in the order of the chain. -/
def sort (ls : List Log) : List Log := ls.mergeSort le

end Log

end Contract

end ShuffleWatch
