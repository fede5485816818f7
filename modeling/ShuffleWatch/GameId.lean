import ShuffleWatch.Error
import ShuffleWatch.Text.Blank
import ShuffleWatch.Text.Decimal

/-!
# Game identifiers

The 64-bit numbers by which the contract tells its games apart.

* `parse_render`: the written form of an identifier is read back.
-/

namespace ShuffleWatch

open Text

/-- The number the contract gave to a game. -/
structure GameId where
  val : UInt64
  deriving DecidableEq

namespace GameId

/-- The decimal digits of the identifier. -/
def render (g : GameId) : String := Decimal.render g.val.toNat

/-- The text without the one plus sign it may begin with. -/
def withoutPlus : List Char → List Char
  | '+' :: cs => cs
  | cs => cs

/-- The identifier a person wrote: a decimal number of 64 bits, perhaps after a
    plus sign, perhaps between blanks. -/
def read? (cs : List Char) : Option GameId := (Decimal.word? (withoutPlus (trim cs))).map mk

/-- The identifier a person wrote, or the text that is none. -/
def parse (text : String) : Except Error GameId :=
  match read? text.toList with
  | some g => .ok g
  | none => .error (.badGameId text)

theorem withoutPlus_digits (n : Nat) : withoutPlus (Decimal.digits n) = Decimal.digits n := by
  have h := fun c => Decimal.isDigit_of_mem_digits (n := n) (c := c)
  rw [withoutPlus.eq_def]
  split
  · rename_i cs hcs
    exact absurd (h '+' (hcs ▸ List.mem_cons_self)) (by decide)
  · rfl

theorem read?_render (g : GameId) : read? g.render.toList = some g := by
  have h : trim (Decimal.digits g.val.toNat) = Decimal.digits g.val.toNat :=
    trim_of_forall fun _ hc => not_isBlank_of_isDigit (Decimal.isDigit_of_mem_digits hc)
  rw [read?, render, Decimal.render, String.toList_ofList, h, withoutPlus_digits,
    Decimal.word?_digits, Option.map_some]

theorem parse_render (g : GameId) : parse g.render = .ok g := by
  rw [parse, read?_render]

end GameId

end ShuffleWatch
