import Mathlib.Algebra.Group.Nat.Defs
import ShuffleWatch.Backoff

/-!
# Delays of whole milliseconds

If the shortest and the longest delay are whole milliseconds, and 64 bits are enough for them,
so is every base delay: after `n` failures it is the shortest delay doubled `n` times, or the
longest one if that is less (`Duration.millisAfter`, `Backoff.next_afterFailures`). Nothing of it
is ever cut off (`Backoff.isExact_afterFailures`), and the delay that is drawn is between half of
it and all of it (`jitter_ofMillis`).

Whatever the delays are, none is shorter than a millisecond if the shortest is not
(`Backoff.TakesTime`).
-/

namespace ShuffleWatch

namespace Duration

/-- The base delay in milliseconds after so many failures, from `least` up to `most`. -/
def millisAfter (least most failures : Nat) : Nat := min (least * 2 ^ failures) (max least most)

variable {least most n : Nat}

theorem millisAfter_zero : millisAfter least most 0 = least := by
  rw [millisAfter, pow_zero, Nat.mul_one, Nat.min_eq_left (Nat.le_max_left least most)]

theorem millisAfter_succ :
    millisAfter least most (n + 1) = min (2 * millisAfter least most n) (max least most) := by
  rw [millisAfter, millisAfter, pow_succ, ← Nat.mul_assoc]
  omega

theorem millisAfter_lt (hleast : least < UInt64.size) (hmost : most < UInt64.size) :
    millisAfter least most n < UInt64.size :=
  Nat.lt_of_le_of_lt (Nat.min_le_right _ _) (Nat.max_lt.2 ⟨hleast, hmost⟩)

theorem ofMillis_min (m n : Nat) : min (ofMillis m) (ofMillis n) = ofMillis (min m n) :=
  Nat.mul_min_mul_right m n millisecond

theorem ofMillis_max (m n : Nat) : max (ofMillis m) (ofMillis n) = ofMillis (max m n) :=
  Nat.mul_max_mul_right m n millisecond

/-- So many milliseconds as fit in 64 bits can be doubled. -/
theorem double_ofMillis (h : n < UInt64.size) : (ofMillis n).double = ofMillis (2 * n) := by
  rw [double, ofMillis, ofMillis, Nat.mul_assoc, Nat.min_eq_left]
  rw [longest, second, millisecond]
  omega

theorem millis_ofMillis (h : n < UInt64.size) : (ofMillis n).millis = n := by
  rw [millis, ofMillis, Nat.mul_div_cancel n (by decide), Nat.mod_eq_of_lt h]

end Duration

open Duration

variable {d n least most : Nat}

/-! ## What is drawn -/

/-- Half of the base delay, and what is drawn in addition, are at most all of it. -/
theorem half_add_below_le (d : Nat) (draws : List UInt64) :
    d / 2 + (Draw.below (d / 2 + 1) draws).1 ≤ d := by
  have hextra : (Draw.below (d / 2 + 1) draws).1 < d / 2 + 1 := Draw.below_lt (Nat.succ_pos _) draws
  omega

/-- The delay that is drawn is of whole milliseconds, at least half of the base delay, and at
    most all of it. -/
theorem jitter_ofMillis (h : d < UInt64.size) (draws : List UInt64) :
    ∃ m, (jitter (ofMillis d) draws).1 = ofMillis m ∧ d / 2 ≤ m ∧ m ≤ d ∧ (d ≤ 1 → m = d) := by
  rw [jitter, millis_ofMillis h]
  split
  · exact ⟨d, rfl, Nat.div_le_self d 2, Nat.le_refl d, fun _ => rfl⟩
  · rename_i hlarge
    exact ⟨_, rfl, Nat.le_add_right _ _, half_add_below_le d draws,
      fun hsmall => absurd hsmall hlarge⟩

/-! ## Base delays -/

namespace Backoff

/-- The base delays from `least` up to `most` milliseconds, after so many failures. -/
def afterFailures (least most failures : Nat) : Backoff where
  min := ofMillis least
  max := ofMillis (Nat.max least most)
  base := ofMillis (millisAfter least most failures)

/-- The base delay is of so many milliseconds, and nothing that is computed from it is more than
    there is room for: neither twice the delay, nor its milliseconds, nor those that are drawn. -/
structure IsExact (b : Backoff) (d : Nat) : Prop where
  base_eq : b.base = ofMillis d
  double_eq : b.base.double = 2 * b.base
  millis_eq : b.base.millis = d
  drawn_lt (draws : List UInt64) : d / 2 + (Draw.below (d / 2 + 1) draws).1 < UInt64.size

theorem ofRange_ofMillis (least most : Nat) :
    ofRange (ofMillis least) (ofMillis most) = afterFailures least most 0 := by
  rw [afterFailures, millisAfter_zero]
  exact congrArg (Backoff.mk (ofMillis least) · (ofMillis least)) (ofMillis_max least most)

theorem reset_afterFailures : (afterFailures least most n).reset = afterFailures least most 0 := by
  rw [reset, afterFailures, afterFailures, millisAfter_zero]

theorem base_afterFailures :
    (afterFailures least most n).base = ofMillis (millisAfter least most n) := rfl

/-- The delay is drawn for the base delay. -/
theorem delay_next (b : Backoff) (draws : List UInt64) :
    (b.next draws).1 = (jitter b.base draws).1 := by
  rw [next]

/-- After a delay the base delay is doubled. -/
theorem backoff_next (b : Backoff) (draws : List UInt64) :
    (b.next draws).2.1 = { b with base := Nat.min b.base.double b.max } := by
  rw [next]

/-- The delay after another failure is between half of the base delay and all of it. -/
theorem delay_afterFailures (hleast : least < UInt64.size) (hmost : most < UInt64.size)
    (draws : List UInt64) : ∃ m, ((afterFailures least most n).next draws).1 = ofMillis m ∧
      millisAfter least most n / 2 ≤ m ∧ m ≤ millisAfter least most n ∧
      (millisAfter least most n ≤ 1 → m = millisAfter least most n) := by
  rw [delay_next, base_afterFailures]
  exact jitter_ofMillis (millisAfter_lt hleast hmost) draws

/-- The base delay doubles with every failure. -/
theorem next_afterFailures (hleast : least < UInt64.size) (hmost : most < UInt64.size)
    (draws : List UInt64) :
    ((afterFailures least most n).next draws).2.1 = afterFailures least most (n + 1) := by
  have hbase : (ofMillis (millisAfter least most n)).double.min (ofMillis (Nat.max least most)) =
      ofMillis (millisAfter least most (n + 1)) := by
    rw [double_ofMillis (millisAfter_lt hleast hmost), millisAfter_succ]
    exact ofMillis_min _ _
  rw [backoff_next]
  exact congrArg (Backoff.mk (ofMillis least) (ofMillis (Nat.max least most))) hbase

theorem isExact_afterFailures (hleast : least < UInt64.size) (hmost : most < UInt64.size) :
    (afterFailures least most n).IsExact (millisAfter least most n) := by
  have hlt : millisAfter least most n < UInt64.size := millisAfter_lt hleast hmost
  refine ⟨rfl, ?_, millis_ofMillis hlt, fun draws =>
    Nat.lt_of_le_of_lt (half_add_below_le _ draws) hlt⟩
  change (ofMillis (millisAfter least most n)).double = 2 * ofMillis (millisAfter least most n)
  rw [double_ofMillis hlt, ofMillis, ofMillis, Nat.mul_assoc]

end Backoff

/-! ## Delays that take time -/

/-- What is drawn for a millisecond or more is no less than a millisecond. -/
theorem millisecond_le_jitter {base : Duration} (h : millisecond ≤ base) (draws : List UInt64) :
    millisecond ≤ (jitter base draws).1 := by
  rw [jitter]
  split
  · exact h
  · rename_i hlarge
    have hhalf : 1 ≤ base.millis / 2 := by omega
    exact Nat.le_mul_of_pos_left millisecond (Nat.le_trans hhalf (Nat.le_add_right _ _))

namespace Backoff

/-- No delay is shorter than a millisecond. -/
structure TakesTime (b : Backoff) : Prop where
  le_min : millisecond ≤ b.min
  le_max : millisecond ≤ b.max
  le_base : millisecond ≤ b.base

theorem takesTime_ofRange {min max : Duration} (h : millisecond ≤ min) :
    (ofRange min max).TakesTime :=
  ⟨h, Nat.le_trans h (Nat.le_max_left min max), h⟩

namespace TakesTime

variable {b : Backoff} (h : b.TakesTime)
include h

theorem reset : b.reset.TakesTime := ⟨h.le_min, h.le_max, h.le_min⟩

theorem le_delay (draws : List UInt64) : millisecond ≤ (b.next draws).1 := by
  rw [delay_next]
  exact millisecond_le_jitter h.le_base draws

theorem next (draws : List UInt64) : (b.next draws).2.1.TakesTime := by
  have hdouble : millisecond ≤ b.base.double :=
    Nat.le_min.2 ⟨Nat.le_trans h.le_base (Nat.le_mul_of_pos_left _ (by decide)), by decide⟩
  rw [backoff_next]
  exact ⟨h.le_min, h.le_max, Nat.le_min.2 ⟨hdouble, h.le_max⟩⟩

end TakesTime

end Backoff

end ShuffleWatch
