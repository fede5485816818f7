import ShuffleWatch.Contract.Word
import ShuffleWatch.Feed
import ShuffleWatch.Status

/-!
# The state of the contract

How the status of a game is read from the contract. A game that nobody created
is unknown; of any other one, the contract is asked for the code of the status.
-/

namespace ShuffleWatch.Contract

/-- A call of a function of the contract. -/
inductive Call
  /-- Who created and who joined the game. -/
  | players (game : GameId)
  /-- The code of the status of the game. -/
  | status (game : GameId)
  deriving DecidableEq

namespace Call

/-- The bytes by which the contract knows the function. -/
def selector : Call → List UInt8
  | players _ => [0xa2, 0xf7, 0x7b, 0xcc]
  | status _ => [0x0f, 0x1b, 0xf4, 0x54]

/-- The game that the call is about. -/
def game : Call → GameId
  | players g => g
  | status g => g

/-- The data that is sent to the contract. -/
def data (c : Call) : List UInt8 := c.selector ++ (Word.ofNat c.game.val.toNat).bytes

end Call

/-- The creator in the answer about the players of a game. The joiner has to be
    there too. -/
def creator? (answer : List UInt8) : Option Address := do
  let creator ← Word.first? answer
  let _ ← Word.first? (answer.drop 32)
  return creator.toAddress

/-- The code in the answer about the status of a game. -/
def code? (answer : List UInt8) : Option UInt8 := (Word.first? answer).map Word.lowByte

/-- What the answer of a call says. -/
def understand {α : Type} (read? : List UInt8 → Option α) :
    Option (List UInt8) → Except Fault α
  | none => .error .provider
  | some answer =>
    match read? answer with
    | none => .error .contract
    | some a => .ok a

/-- The status of the game, or none if the game is unknown; and the calls that
    were made for it. -/
def readStatus (answer : Call → Option (List UInt8)) (g : GameId) :
    List Call × Except Fault (Option Status) :=
  match understand creator? (answer (.players g)) with
  | .error fault => ([.players g], .error fault)
  | .ok creator =>
    if creator = .zero then ([.players g], .ok none)
    else
      ([.players g, .status g], do
        let code ← understand code? (answer (.status g))
        return some (← (Status.ofCode code).mapError .misread))

end ShuffleWatch.Contract
