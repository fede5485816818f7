import Mathlib.Order.MinMax
import ShuffleWatch.Position

/-!
# The latest of several positions

Positions are linearly ordered, so that of several positions one is the latest.
What a session records of the log are latest positions, and they depend only on
*which* positions there are, not on their order or on how often each is given.

* `eq_latest_iff`: an optional position is the latest of `ps` when it is one of
  them, if it is any, and reaches all of them;
* `eq_latestAbove_iff`: the same for the positions that come after a floor;
* `latest_congr`, `latestAbove_congr`: only the set of the positions matters.
-/

namespace ShuffleWatch.Position

instance : LinearOrder Position where
  le_refl p := Nat.le_refl p.rank
  le_trans _ _ _ h h' := le_iff_rank.2 (Nat.le_trans (le_iff_rank.1 h) (le_iff_rank.1 h'))
  le_antisymm _ _ h h' := eq_of_rank_eq (Nat.le_antisymm h h')
  le_total p q := Nat.le_total p.rank q.rank
  lt_iff_le_not_ge p q := Nat.lt_iff_le_and_not_ge (m := p.rank) (n := q.rank)
  toDecidableLE := inferInstance
  toDecidableEq := inferInstance
  toDecidableLT := inferInstance
  max_def _ _ := rfl

variable {o floor : Option Position} {p q : Position} {ps qs : List Position}

/-! ## Reaching a position -/

/-- The optional position is there, and not before `p`. -/
def reaches (o : Option Position) (p : Position) : Bool := o.any (p ≤ ·)

/-- The position comes after the floor, if there is a floor. -/
def isAbove (floor : Option Position) (p : Position) : Bool := floor.all (· < p)

theorem reaches_none : reaches none p = false := rfl

theorem reaches_some : reaches (some q) p = true ↔ p ≤ q := by
  rw [reaches, Option.any_some, decide_eq_true_eq]

theorem reaches_iff : reaches o p = true ↔ ∃ q, o = some q ∧ p ≤ q := by
  cases o with
  | none => simp [reaches]
  | some q => simp [reaches_some]

theorem isSome_of_reaches (h : reaches o p = true) : o.isSome = true := by
  obtain ⟨q, rfl, -⟩ := reaches_iff.1 h
  rfl

/-- Recording the later position reaches what either reached. -/
theorem reaches_elim_max :
    reaches (some (o.elim p (max · p))) q = true ↔ reaches o q = true ∨ q ≤ p := by
  cases o with
  | none => rw [Option.elim_none, reaches_some, reaches_none, Bool.false_eq_true, false_or]
  | some r => rw [Option.elim_some, reaches_some, reaches_some, le_max_iff]

/-- The later position is the new one or the one recorded before. -/
theorem elim_max_eq (o : Option Position) (p : Position) :
    o.elim p (max · p) = p ∨ o = some (o.elim p (max · p)) := by
  cases o with
  | none => exact .inl rfl
  | some q =>
    rw [Option.elim_some, Option.some_inj, eq_comm (a := q)]
    exact (max_choice q p).symm

/-- Recording a position that is reached changes nothing. -/
theorem elim_max_of_reaches (h : reaches o p = true) : some (o.elim p (max · p)) = o := by
  obtain ⟨q, rfl, hle⟩ := reaches_iff.1 h
  rw [Option.elim_some, max_eq_left hle]

theorem isAbove_some : isAbove (some q) p = true ↔ q < p := by
  rw [isAbove, Option.all_some, decide_eq_true_eq]

theorem isAbove_eq_not_reaches : isAbove floor p = !reaches floor p := by
  cases floor with
  | none => rfl
  | some f =>
    rw [Bool.eq_iff_iff, Bool.not_eq_true', ← Bool.not_eq_true, isAbove_some, reaches_some,
      not_le]

theorem isAbove_iff_not_reaches : isAbove floor p = true ↔ reaches floor p = false := by
  rw [isAbove_eq_not_reaches, Bool.not_eq_true']

/-- Whatever is above the floor is above what the floor reaches. -/
theorem lt_of_reaches_of_isAbove (hp : reaches floor p = true) (hq : isAbove floor q = true) :
    p < q := by
  obtain ⟨f, rfl, hpf⟩ := reaches_iff.1 hp
  exact lt_of_le_of_lt hpf (isAbove_some.1 hq)

/-! ## The latest position -/

/-- The latest of the positions, if there is any. -/
def latest (ps : List Position) : Option Position := ps.max?

/-- The latest of the positions that come after the floor, if there is any. -/
def latestAbove (floor : Option Position) (ps : List Position) : Option Position :=
  latest (ps.filter (isAbove floor))

theorem latest_eq_some_iff : latest ps = some p ↔ p ∈ ps ∧ ∀ q ∈ ps, q ≤ p :=
  List.max?_eq_some_iff

theorem latest_eq_none_iff : latest ps = none ↔ ps = [] := List.max?_eq_none_iff

theorem eq_latest_iff :
    o = latest ps ↔ (∀ p, o = some p → p ∈ ps) ∧ ∀ p ∈ ps, reaches o p = true := by
  cases o with
  | none =>
    rw [eq_comm, latest_eq_none_iff, List.eq_nil_iff_forall_not_mem]
    simp [reaches_none]
  | some q =>
    rw [eq_comm, latest_eq_some_iff]
    simp [reaches_some]

theorem eq_latestAbove_iff :
    o = latestAbove floor ps ↔
      (∀ p, o = some p → p ∈ ps ∧ isAbove floor p = true) ∧
        ∀ p ∈ ps, reaches floor p = true ∨ reaches o p = true := by
  rw [latestAbove, eq_latest_iff]
  refine and_congr (by simp only [List.mem_filter]) (forall_congr' fun p => ?_)
  rw [List.mem_filter, and_imp, isAbove_iff_not_reaches]
  refine imp_congr_right fun _ => ?_
  cases reaches floor p <;> simp

theorem latest_congr (h : ∀ p, p ∈ ps ↔ p ∈ qs) : latest ps = latest qs := by
  rw [eq_latest_iff]
  obtain ⟨hmem, hreach⟩ := eq_latest_iff.1 (rfl : latest ps = latest ps)
  exact ⟨fun p hp => (h p).1 (hmem p hp), fun p hp => hreach p ((h p).2 hp)⟩

theorem latestAbove_congr (h : ∀ p, p ∈ ps ↔ p ∈ qs) :
    latestAbove floor ps = latestAbove floor qs :=
  latest_congr fun p => by rw [List.mem_filter, List.mem_filter, h]

theorem isSome_latestAbove :
    (latestAbove floor ps).isSome = true ↔ ∃ p ∈ ps, isAbove floor p = true := by
  rw [← Option.ne_none_iff_isSome, latestAbove, Ne, latest_eq_none_iff, List.filter_eq_nil_iff]
  simp

end ShuffleWatch.Position
