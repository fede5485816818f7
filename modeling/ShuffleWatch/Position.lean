import ShuffleWatch.Text.Decimal

/-!
# Positions on chain

Where an event was logged: the block, and the index of the log within the
block. Positions order the events of the chain, block by block; the order in
which a feed hands events out may be any other.

* `lt_iff`: the order is by block first and by index within a block.
-/

namespace ShuffleWatch

/-- Where on chain an event was logged. -/
structure Position where
  block : UInt64
  index : UInt64
  deriving DecidableEq

namespace Position

/-- How many positions come before this one. -/
def rank (p : Position) : Nat := p.block.toNat * UInt64.size + p.index.toNat

/-- Earlier on chain. -/
instance : LT Position := ⟨fun p q => p.rank < q.rank⟩

/-- Earlier on chain, or the same place. -/
instance : LE Position := ⟨fun p q => p.rank ≤ q.rank⟩

instance (p q : Position) : Decidable (p < q) := inferInstanceAs (Decidable (p.rank < q.rank))

instance (p q : Position) : Decidable (p ≤ q) := inferInstanceAs (Decidable (p.rank ≤ q.rank))

/-- The later of two positions. -/
instance : Max Position := ⟨fun p q => if p ≤ q then q else p⟩

/-- The block and the index, separated by a colon. -/
def render (p : Position) : String :=
  Text.Decimal.render p.block.toNat ++ ":" ++ Text.Decimal.render p.index.toNat

/-- The first position of a block. -/
def blockStart (block : UInt64) : Position := ⟨block, 0⟩

theorem lt_iff_rank {p q : Position} : p < q ↔ p.rank < q.rank := Iff.rfl

theorem le_iff_rank {p q : Position} : p ≤ q ↔ p.rank ≤ q.rank := Iff.rfl

theorem eq_of_rank_eq {p q : Position} (h : p.rank = q.rank) : p = q := by
  obtain ⟨pb, pi⟩ := p
  obtain ⟨qb, qi⟩ := q
  simp only [rank, UInt64.size] at h
  have hpi := pi.toNat_lt
  have hqi := qi.toNat_lt
  have hb : pb = qb := UInt64.toNat_inj.1 (by omega)
  have hi : pi = qi := UInt64.toNat_inj.1 (by omega)
  rw [hb, hi]

theorem lt_iff {p q : Position} :
    p < q ↔ p.block < q.block ∨ p.block = q.block ∧ p.index < q.index := by
  have hp := p.index.toNat_lt
  have hq := q.index.toNat_lt
  rw [lt_iff_rank, UInt64.lt_iff_toNat_lt, UInt64.lt_iff_toNat_lt, ← UInt64.toNat_inj, rank, rank,
    UInt64.size]
  omega

end Position

end ShuffleWatch
