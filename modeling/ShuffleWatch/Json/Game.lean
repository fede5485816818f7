import ShuffleWatch.Card
import ShuffleWatch.Event.Written
import ShuffleWatch.Json.Fields
import ShuffleWatch.Json.Reader
import ShuffleWatch.Players
import ShuffleWatch.Status

/-!
# The game in JSON

How games, their events and their players are written in JSON, and read from
it. Numbers are naturals of 64 bits, addresses are forty digits of either case
with or without `0x` before them, and an event is an object whose only key is
the name of its kind. Blanks may take the place of digits in an address
(`Address.spaced?`).

* `Address.spaced?_digits`: the digits an address is written with are read back.
-/

namespace ShuffleWatch

open Json (fields? required optional)
open Text

/-- A number of 64 bits. -/
def Json.word (w : UInt64) : Json := .natural w.toNat

/-! ## Names -/

namespace Status

def ofJson? (j : Json) : Option Status := j.bareName?.bind ofName?

def toJson (s : Status) : Json := .text s.name

end Status

namespace Role

def ofJson? (j : Json) : Option Role := j.bareName?.bind ofName?

def toJson (r : Role) : Json := .text r.name

end Role

namespace EventKind

def ofJson? (j : Json) : Option EventKind := j.bareName?.bind ofName?

def toJson (k : EventKind) : Json := .text k.name

end EventKind

namespace Suit

def ofJson? (j : Json) : Option Suit := j.bareName?.bind ofName?

def toJson (s : Suit) : Json := .text s.name

end Suit

namespace Rank

def ofJson? (j : Json) : Option Rank := j.bareName?.bind ofName?

def toJson (r : Rank) : Json := .text r.name

end Rank

/-! ## Identifiers -/

namespace GameId

def ofJson? (j : Json) : Option GameId := j.word?.map mk

def toJson (g : GameId) : Json := .word g.val

end GameId

namespace Address

/-- The address in forty characters, each a digit or a blank. The pairs of
    digits spell the first bytes, over the blanks between them, and the bytes
    that are left are zero. A last digit without another one does not count. -/
def spaced? (cs : List Char) : Option Address :=
  let digits := cs.filter (!Json.isGap ·)
  if cs.length = 40 ∧ digits.all Hex.isDigit then
    (Hex.bytes? (digits.take (digits.length / 2 * 2))).bind fun bs =>
      ofBytes? (bs ++ List.replicate (20 - bs.length) 0)
  else none

/-- The address that is written with or without `0x` before it. -/
def unmarked? : List Char → Option Address
  | '0' :: 'x' :: cs => spaced? cs
  | cs => spaced? cs

def ofJson? (j : Json) : Option Address := j.text?.bind fun s => unmarked? s.toList

def toJson (a : Address) : Json := .text a.render

theorem isDigit_of_mem_digits {a : Address} {c : Char} (h : c ∈ a.digits) :
    Json.isGap c = false ∧ Hex.isDigit c = true := by
  obtain ⟨n, hn, rfl⟩ := Hex.exists_digit_of_mem_ofBytes h
  have : ∀ m : Fin 16,
      Json.isGap (Hex.digit m) = false ∧ Hex.isDigit (Hex.digit m) = true := by decide
  exact this ⟨n, hn⟩

theorem spaced?_digits (a : Address) : spaced? a.digits = some a := by
  have hd : a.digits.filter (!Json.isGap ·) = a.digits :=
    List.filter_eq_self.2 fun c hc => by simp [(isDigit_of_mem_digits hc).1]
  have hl := a.length_digits
  have hb : Hex.bytes? a.digits = some a.bytes := Hex.bytes?_ofBytes a.bytes
  have ha : a.digits.all Hex.isDigit :=
    List.all_eq_true.2 fun c hc => (isDigit_of_mem_digits hc).2
  have ht : a.digits.take (a.digits.length / 2 * 2) = a.digits :=
    List.take_of_length_le (by omega)
  rw [spaced?, hd, if_pos ⟨hl, ha⟩, ht, hb, Option.bind_some, a.length_bytes]
  simp [ofBytes?_bytes]

end Address

/-! ## Structures -/

namespace Position

def ofJson? (j : Json) : Option Position := do
  let [block, index] ← fields? ["block", "log_index"] 2 j | none
  return ⟨← required Json.word? block, ← required Json.word? index⟩

def toJson (p : Position) : Json :=
  .record [("block", .word p.block), ("log_index", .word p.index)]

end Position

namespace Players

def ofJson? (j : Json) : Option Players := do
  let [creator, joiner] ← fields? ["creator", "joiner"] 2 j | none
  return ⟨← required Address.ofJson? creator, ← required Address.ofJson? joiner⟩

def toJson (ps : Players) : Json :=
  .record [("creator", ps.creator.toJson), ("joiner", ps.joiner.toJson)]

end Players

namespace Card

def ofJson? (j : Json) : Option Card := do
  let [suit, rank] ← fields? ["suit", "rank"] 2 j | none
  return ⟨← required Suit.ofJson? suit, ← required Rank.ofJson? rank⟩

end Card

/-! ## Events -/

namespace Event

/-- The name of the field with the address of an event. -/
def addressField : EventKind → String
  | .created => "creator"
  | .joined => "joiner"
  | .shuffled => "shuffled"
  | .ended => "winner"
  | .rematch => ""

/-- The game and the address that an event of a kind has to name. -/
def named? (k : EventKind) (j : Json) : Option (GameId × Address) := do
  let [game, address] ← fields? ["game_id", addressField k] 2 j | none
  return (← required GameId.ofJson? game, ← required Address.ofJson? address)

/-- The event of this kind with this content. -/
def ofContent? (j : Json) : EventKind → Option Event
  | .created => (named? .created j).map fun (g, a) => .created g a
  | .joined => (named? .joined j).map fun (g, a) => .joined g a
  | .shuffled => (named? .shuffled j).map fun (g, a) => .shuffled g a
  | .ended => do
    let [game, winner] ← fields? ["game_id", addressField .ended] 2 j | none
    return .ended (← required GameId.ofJson? game) (← optional Address.ofJson? winner)
  | .rematch => do
    let [game] ← fields? ["game_id"] 1 j | none
    return .rematch (← required GameId.ofJson? game)

def ofJson? (j : Json) : Option Event := do
  let (name, content) ← j.alternative?
  ofContent? content (← EventKind.ofName? name)

/-- The content of an event. -/
def content : Event → List (String × Json)
  | created g a => [("game_id", g.toJson), (addressField .created, a.toJson)]
  | joined g a => [("game_id", g.toJson), (addressField .joined, a.toJson)]
  | shuffled g a => [("game_id", g.toJson), (addressField .shuffled, a.toJson)]
  | ended g w => [("game_id", g.toJson), (addressField .ended, .orNull Address.toJson w)]
  | rematch g => [("game_id", g.toJson)]

def toJson (e : Event) : Json := .record [(e.kind.name, .record e.content)]

end Event

namespace Entry

def ofJson? (j : Json) : Option Entry := do
  let [position, event] ← fields? ["position", "event"] 2 j | none
  return ⟨← required Position.ofJson? position, ← required Event.ofJson? event⟩

def toJson (e : Entry) : Json :=
  .record [("position", e.position.toJson), ("event", e.event.toJson)]

end Entry

namespace WrittenEvent

def ofJson? (j : Json) : Option WrittenEvent := do
  let [name, gameId, address] ← fields? ["name", "game_id", "address"] 2 j | none
  return ⟨← required Json.text? name, ← required Json.text? gameId,
    ← optional Json.text? address⟩

/-- The written event. A missing address is left out. -/
def toJson (w : WrittenEvent) : Json :=
  .record ([("name", .text w.name), ("game_id", .text w.gameId)] ++
    (w.address.map fun a => ("address", .text a)).toList)

end WrittenEvent

end ShuffleWatch
