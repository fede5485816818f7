/-!
# Decimal numerals

Natural numbers written with the digits `0` to `9`. A numeral that is read may
carry leading zeros, the written one has none.

* `natural?_digits`: a written number is read back.
-/

namespace ShuffleWatch.Text.Decimal

/-- The decimal digits of `n`, without leading zeros. -/
def digits (n : Nat) : List Char := Nat.toDigits 10 n

/-- The number written by `cs`: one decimal digit or more, and nothing else. -/
def natural? (cs : List Char) : Option Nat :=
  if cs ≠ [] ∧ cs.all Char.isDigit then some (Nat.ofDigitChars 10 cs 0) else none

theorem digits_ne_nil (n : Nat) : digits n ≠ [] := Nat.toDigits_ne_nil

theorem isDigit_of_mem_digits {n : Nat} {c : Char} (h : c ∈ digits n) : c.isDigit :=
  Nat.isDigit_of_mem_toDigits (by decide) (by decide) h

theorem natural?_digits (n : Nat) : natural? (digits n) = some n := by
  rw [natural?, if_pos ⟨digits_ne_nil n, List.all_eq_true.2 fun _ => isDigit_of_mem_digits⟩]
  exact congrArg some Nat.ofDigitChars_ten_toDigits

/-- The number written by `cs`, if it is below `bound`. -/
def naturalBelow? (bound : Nat) (cs : List Char) : Option Nat :=
  (natural? cs).filter (· < bound)

/-- The 64-bit number written by `cs`. -/
def word? (cs : List Char) : Option UInt64 :=
  (naturalBelow? UInt64.size cs).map UInt64.ofNat

theorem word?_digits (w : UInt64) : word? (digits w.toNat) = some w := by
  have h : naturalBelow? UInt64.size (digits w.toNat) = some w.toNat := by
    rw [naturalBelow?, natural?_digits]
    exact Option.filter_some_pos (decide_eq_true w.toNat_lt_size)
  rw [word?, h, Option.map_some, UInt64.ofNat_toNat]

/-- The decimal text of `n`. -/
def render (n : Nat) : String := String.ofList (digits n)

end ShuffleWatch.Text.Decimal
