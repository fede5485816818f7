import ShuffleWatch.Contract.Poll
import ShuffleWatch.Contract.State
import ShuffleWatch.Json.Fields

/-!
# The contract in JSON

How the answers of a node are read. Numbers and bytes are texts of hexadecimal
digits, after `0x`.
-/

namespace ShuffleWatch

open Text
open Json (required optional unrepeated?)

/-- The digits of a text, without the mark before them. -/
def Json.hexDigits? (j : Json) : Option (List Char) :=
  j.text?.map fun s =>
    match s.toList with
    | '0' :: 'x' :: cs => cs
    | cs => cs

/-- A number with one digit or more, of which there may be so many. -/
def Json.quantity? (most : Nat) (j : Json) : Option Nat := do
  let cs ← j.hexDigits?
  if cs = [] ∨ most < cs.length then none else Hex.number? cs

/-- A number of 64 bits. -/
def Json.hexWord? (j : Json) : Option UInt64 := (j.quantity? 16).map UInt64.ofNat

/-- Bytes of any number. -/
def Json.hexBytes? (j : Json) : Option (List UInt8) := j.hexDigits?.bind Hex.bytes?

namespace Contract

def Word.ofJson? (j : Json) : Option Word := j.hexBytes?.bind Word.ofBytes?

/-- The text of bytes, with the mark before them. -/
def hexText (bs : List UInt8) : Json := .text (String.ofList ('0' :: 'x' :: Hex.ofBytes bs))

def Word.toJson (w : Word) : Json := hexText w.bytes

/-- The text of a number, with the mark before it. -/
def quantity (n : Nat) : Json := .text (String.ofList ('0' :: 'x' :: Hex.ofNat n))

def Log.ofJson? : Json → Option Log
  | .object members => do
    let block ← optional Json.hexWord? (← unrepeated? members "blockNumber")
    let index ← optional (Json.quantity? 64) (← unrepeated? members "logIndex")
    let topics ← required Json.items (← unrepeated? members "topics")
    let data ← required Json.hexBytes? (← unrepeated? members "data")
    return ⟨block, index, ← topics.mapM Word.ofJson?, data⟩
  | _ => none

/-- The logs in the answer to a query. -/
def Log.listOfJson? (j : Json) : Option (List Log) := j.items.bind (·.mapM Log.ofJson?)

end Contract

end ShuffleWatch
