/-!
# Delays between attempts

How long to wait before a failed attempt is repeated. The *base delay* doubles
with every failure, up to a largest one, and the actual delay is drawn between
half the base delay and the base delay, in whole milliseconds. Durations count
nanoseconds, and there is a longest one.
-/

namespace ShuffleWatch

/-- A time span in nanoseconds. -/
abbrev Duration := Nat

namespace Duration

/-- A millisecond. -/
def millisecond : Duration := 1000000

/-- A second. -/
def second : Duration := 1000 * millisecond

/-- The longest duration: the whole seconds fit in 64 bits. -/
def longest : Duration := (UInt64.size - 1) * second + (second - 1)

/-- A number of milliseconds. -/
def ofMillis (n : Nat) : Duration := n * millisecond

/-- The whole milliseconds of the duration, of which 64 bits are kept. -/
def millis (d : Duration) : Nat := d / millisecond % UInt64.size

/-- Twice the duration, or the longest one. -/
def double (d : Duration) : Duration := min (2 * d) longest

end Duration

/-! ## Drawing a number -/

namespace Draw

/-- The number, doubled until it takes up 64 bits. -/
def scaled (range : Nat) : Nat := range <<< (63 - Nat.log2 range)

/-- A draw is kept if the low half of its product with the range is below the
    scaled range: so many draws are kept for each number of the range. -/
def isKept (range : Nat) (draw : UInt64) : Bool := draw.toNat * range % UInt64.size < scaled range

/-- A number below `range`, and the draws that are left: the first draw that is
    kept selects it. After the last draw only zeros are drawn. -/
def below (range : Nat) : List UInt64 → Nat × List UInt64
  | [] => (0, [])
  | draw :: draws =>
    if isKept range draw then (draw.toNat * range / UInt64.size, draws) else below range draws

theorem below_lt {range : Nat} (h : 0 < range) (draws : List UInt64) :
    (below range draws).1 < range := by
  induction draws with
  | nil => exact h
  | cons draw draws ih =>
    rw [below]
    split
    · have := draw.toNat_lt_size
      exact Nat.div_lt_of_lt_mul (Nat.mul_lt_mul_of_pos_right this h)
    · exact ih

end Draw

/-- The delay drawn for a base delay, and the draws that are left: between half
    of it and all of it, or exactly the base delay if that is a millisecond at
    most. -/
def jitter (base : Duration) (draws : List UInt64) : Duration × List UInt64 :=
  if base.millis ≤ 1 then (base, draws)
  else
    let half := base.millis / 2
    let (extra, rest) := Draw.below (half + 1) draws
    (.ofMillis (half + extra), rest)

/-- The base delays: the first one, the largest one, and the next one. -/
structure Backoff where
  min : Duration
  max : Duration
  base : Duration
  deriving DecidableEq

namespace Backoff

/-- Delays from `min` up to `max`, or always `min` if that is longer. -/
def ofRange (min max : Duration) : Backoff := ⟨min, Nat.max min max, min⟩

/-- The next delay, after which the base delay is doubled. -/
def next (b : Backoff) (draws : List UInt64) : Duration × Backoff × List UInt64 :=
  let (delay, rest) := jitter b.base draws
  (delay, { b with base := Nat.min b.base.double b.max }, rest)

/-- Starts over with the shortest delay. -/
def reset (b : Backoff) : Backoff := { b with base := b.min }

end Backoff

end ShuffleWatch
