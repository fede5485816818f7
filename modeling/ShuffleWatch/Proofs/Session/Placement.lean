import ShuffleWatch.Proofs.Session.Digest
import ShuffleWatch.Proofs.Session.Facts

/-!
# Where entries are logged

A session compares the position of an entry with those that it has recorded, and does
nothing else with positions. If the entries come in the order of the log, each of them is
above all that was recorded (`IsBefore`): none is stale, and a rematch carries nothing over
(`rematch_of_isBefore`). So it makes no difference at which positions they are logged. A
session does with its entry whatever the same session without any positions does with it
(`unplaced_digest`), and is before the next position again (`IsBefore.digest`).
-/

namespace ShuffleWatch

namespace Position

variable {o : Option Position} {p q : Position} {block later : Nat}

theorem isAbove_of_lt (h : isAbove o p = true) (hpq : p < q) : isAbove o q = true := by
  cases o with
  | none => rfl
  | some r => exact isAbove_some.2 ((isAbove_some.1 h).trans hpq)

/-- A position that is recorded is before the later ones. -/
theorem isAbove_elim_max (h : isAbove o p = true) (hpq : p < q) :
    isAbove (some (o.elim p (max · p))) q = true := by
  cases o with
  | none => exact isAbove_some.2 hpq
  | some r =>
    rw [Option.elim_some, isAbove_some]
    exact max_lt ((isAbove_some.1 h).trans hpq) hpq

theorem blockStart_lt (h : block < later) (hlater : later < UInt64.size) :
    blockStart (.ofNat block) < blockStart (.ofNat later) := by
  refine lt_iff.2 (.inl ?_)
  rw [blockStart, blockStart, UInt64.lt_iff_toNat_lt,
    UInt64.toNat_ofNat_of_lt' (h.trans hlater), UInt64.toNat_ofNat_of_lt' hlater]
  exact h

end Position

namespace Session

open Position (blockStart_lt isAbove isAbove_elim_max isAbove_of_lt isAbove_some reaches)

/-- The session without the positions that it has recorded. -/
def unplaced (s : Session) : Session :=
  { s with floor := none, creatorShuffle := none, joinerShuffle := none }

/-- All that the session has recorded happened before the position. -/
structure IsBefore (s : Session) (p : Position) : Prop where
  floor : isAbove s.floor p = true
  creatorShuffle : isAbove s.creatorShuffle p = true
  joinerShuffle : isAbove s.joinerShuffle p = true

variable {s t : Session} {p q : Position} {e : Entry} {event : Event} {status : Status}
  {o : Option Position} {a : Address}

/-! ## Before a position -/

theorem isBefore_fresh {game : GameId} {players : Players} {role : Role} :
    (fresh game players role).IsBefore p := ⟨rfl, rfl, rfl⟩

theorem isBefore_unplaced : s.unplaced.IsBefore p := ⟨rfl, rfl, rfl⟩

namespace IsBefore

theorem of_facts_eq (h : s.IsBefore p) (hfacts : t.facts = s.facts) : t.IsBefore p where
  floor := (congrArg (fun f : Facts => isAbove f.floor p) hfacts).trans h.floor
  creatorShuffle :=
    (congrArg (fun f : Facts => isAbove f.creatorShuffle p) hfacts).trans h.creatorShuffle
  joinerShuffle :=
    (congrArg (fun f : Facts => isAbove f.joinerShuffle p) hfacts).trans h.joinerShuffle

theorem of_lt (h : s.IsBefore p) (hpq : p < q) : s.IsBefore q where
  floor := isAbove_of_lt h.floor hpq
  creatorShuffle := isAbove_of_lt h.creatorShuffle hpq
  joinerShuffle := isAbove_of_lt h.joinerShuffle hpq

theorem recordShuffle (h : s.IsBefore p) (hpq : p < q) : (s.recordShuffle a p).IsBefore q := by
  rw [Session.recordShuffle]
  split
  · exact { h.of_lt hpq with creatorShuffle := isAbove_elim_max h.creatorShuffle hpq }
  · exact { h.of_lt hpq with joinerShuffle := isAbove_elim_max h.joinerShuffle hpq }

end IsBefore

/-! ## A rematch -/

theorem carryShuffle_of_isAbove (h : isAbove o p = true) : carryShuffle p s a o = s := by
  cases o with
  | none => rfl
  | some q => exact if_neg (isAbove_some.1 h).not_gt

/-- A rematch after all the shuffles carries none of them over. -/
theorem rematch_of_isBefore (h : s.IsBefore p) : s.rematch p = s.raise p := by
  rw [rematch_eq, carryShuffle_of_isAbove h.creatorShuffle, carryShuffle_of_isAbove h.joinerShuffle]

/-! ## Learning -/

theorem unplaced_unplaced : s.unplaced.unplaced = s.unplaced := rfl

theorem looksLike_unplaced : s.unplaced.looksLike t.unplaced = s.looksLike t := rfl

theorem unplaced_advance (target : Status) :
    (s.advance target).unplaced = s.unplaced.advance target := by
  rw [advance, advance, apply_ite unplaced]
  rfl

theorem unplaced_settle : s.settle.unplaced = s.unplaced.settle := by
  rw [settle, settle, apply_ite unplaced, unplaced_advance]
  rfl

theorem unplaced_recordShuffle :
    (s.recordShuffle a p).unplaced = (s.unplaced.recordShuffle a q).unplaced := by
  by_cases ha : a = s.players.creator <;> simp [recordShuffle, unplaced, ha]

theorem unplaced_takeAction : s.takeAction.1.unplaced = s.unplaced.takeAction.1 ∧
    s.takeAction.2 = s.unplaced.takeAction.2 := by
  have hmark : (s.markAsked s.role).unplaced = s.unplaced.markAsked s.unplaced.role := by
    rw [markAsked.eq_def, markAsked.eq_def]
    cases h : s.role <;> simp [unplaced, h]
  have hmust : s.unplaced.mustAsk = s.mustAsk := by
    rw [mustAsk, mustAsk, shouldAct.eq_def, shouldAct.eq_def, asked.eq_def, asked.eq_def]
    rfl
  rw [takeAction, takeAction, hmust]
  split
  · exact ⟨hmark, rfl⟩
  · exact ⟨rfl, rfl⟩

/-- What is learned from an event does not depend on where it is logged, if that is after
    all that was recorded. -/
theorem unplaced_learn (event : Event) (h : s.IsBefore p) :
    (s.learn p event).unplaced = (s.unplaced.learn q event).unplaced := by
  -- Only a shuffle and a rematch record a position. It is forgotten on both
  -- sides, and nothing is decided by it, as it lies above all others.
  cases event with
  | created game creator =>
    rw [learn, learn, unplaced_advance, unplaced_advance, unplaced_unplaced]
  | joined game joiner =>
    rw [learn, learn, apply_ite unplaced, apply_ite unplaced, unplaced_settle, unplaced_advance,
      unplaced_settle, unplaced_advance]
    rfl
  | shuffled game player =>
    rw [learn, learn, unplaced_settle, unplaced_settle, unplaced_recordShuffle (q := q)]
  | ended game winner =>
    rw [learn, learn, unplaced_advance, unplaced_advance, unplaced_unplaced]
  | rematch game =>
    rw [learn, learn, rematch_of_isBefore h, rematch_of_isBefore isBefore_unplaced]
    rfl

/-! ## Taking in an entry -/

/-- Nothing that comes after all that was recorded is stale. -/
theorem filtered?_of_isBefore (h : s.IsBefore p) :
    s.filtered? ⟨p, event⟩ = s.unplaced.filtered? ⟨q, event⟩ := by
  have hstale : s.isStale p = false := by
    rw [isStale, ← reaches]
    exact Position.isAbove_iff_not_reaches.1 h.floor
  rw [filtered?, filtered?, hstale]
  rfl

theorem unplaced_apply (h : s.IsBefore p) :
    (s.apply ⟨p, event⟩).1.unplaced = (s.unplaced.apply ⟨q, event⟩).1.unplaced ∧
    (s.apply ⟨p, event⟩).2 = (s.unplaced.apply ⟨q, event⟩).2 := by
  rw [apply, apply, filtered?_of_isBefore h (q := q)]
  have hlearn := unplaced_learn (q := q) event h
  split
  · exact ⟨rfl, rfl⟩
  · dsimp only
    split
    · exact ⟨hlearn, rfl⟩
    · obtain ⟨htake, hask⟩ := unplaced_takeAction (s := s.learn p event)
      obtain ⟨htake', hask'⟩ := unplaced_takeAction (s := s.unplaced.learn q event)
      rw [hlearn, ← htake'] at htake
      rw [hlearn, ← hask'] at hask
      -- The verdict compares the session with the one before, by parts without a position.
      have hlooks : s.looksLike (s.learn p event).takeAction.1 =
          s.unplaced.looksLike (s.unplaced.learn q event).takeAction.1 := by
        rw [← looksLike_unplaced, htake]
        exact looksLike_unplaced (s := s.unplaced)
      exact ⟨htake, by rw [hlooks, hask]⟩

theorem unplaced_seed (s : Session) (status : Status) :
    (s.seed status).1.unplaced = (s.unplaced.seed status).1 ∧
      (s.seed status).2 = (s.unplaced.seed status).2 := by
  rw [seed, seed]
  split
  · obtain ⟨htake, hask⟩ :=
      unplaced_takeAction (s := ({ s with status := status, link := .live } : Session).settle)
    rw [unplaced_settle] at htake hask
    exact ⟨htake, hask⟩
  · exact ⟨rfl, rfl⟩

/-- What becomes of a session with an entry does not depend on where that is logged, if it
    is after all that was recorded. -/
theorem unplaced_digest (h : s.IsBefore p) :
    (s.digest status (.entry ⟨p, event⟩)).1.unplaced =
      (s.unplaced.digest status (.entry ⟨q, event⟩)).1.unplaced ∧
    (s.digest status (.entry ⟨p, event⟩)).2 =
      (s.unplaced.digest status (.entry ⟨q, event⟩)).2 := by
  have hreceive : (s.receive (.entry ⟨p, event⟩)).1.unplaced =
      (s.unplaced.receive (.entry ⟨q, event⟩)).1.unplaced := (unplaced_apply h).1
  have hverdict : (s.receive (.entry ⟨p, event⟩)).2 =
      (s.unplaced.receive (.entry ⟨q, event⟩)).2 := (unplaced_apply h).2
  by_cases hreset : (s.receive (.entry ⟨p, event⟩)).2 = .reset
  · rw [digest_of_reset hreset, digest_of_reset (hverdict.symm.trans hreset)]
    obtain ⟨hseed, hask⟩ := unplaced_seed (s.receive (.entry ⟨p, event⟩)).1 status
    obtain ⟨hseed', hask'⟩ := unplaced_seed (s.unplaced.receive (.entry ⟨q, event⟩)).1 status
    rw [hseed, hask, hreceive]
    exact ⟨hseed'.symm, hask'.symm⟩
  · rw [digest_of_ne_reset hreset, digest_of_ne_reset fun h => hreset (hverdict.trans h)]
    exact ⟨hreceive, congrArg Verdict.action? hverdict⟩

/-- After an entry that came after all that was recorded, the session is before the later
    positions. -/
theorem IsBefore.apply (h : s.IsBefore p) (hpq : p < q) :
    (s.apply ⟨p, event⟩).1.IsBefore q := by
  -- What is recorded is at `p` at the latest, thus before `q`.
  rcases hf : s.filtered? ⟨p, event⟩ with _ | why
  · have hfacts := facts_apply hf
    rw [facts_learn] at hfacts
    cases event with
    | shuffled game player => exact (h.recordShuffle hpq).of_facts_eq hfacts
    | rematch game =>
      rw [rematch_of_isBefore h] at hfacts
      have hraise : (s.raise p).IsBefore q := ⟨isAbove_some.2 hpq, rfl, rfl⟩
      exact hraise.of_facts_eq hfacts
    | _ => exact (h.of_lt hpq).of_facts_eq hfacts
  · rw [apply_of_filtered hf]
    exact h.of_lt hpq

theorem IsBefore.digest (h : s.IsBefore p) (hpq : p < q) :
    (s.digest status (.entry ⟨p, event⟩)).1.IsBefore q := by
  have happly : (s.receive (.entry ⟨p, event⟩)).1.IsBefore q := h.apply hpq
  by_cases hreset : (s.receive (.entry ⟨p, event⟩)).2 = .reset
  · rw [digest_of_reset hreset]
    exact happly.of_facts_eq (facts_seed status)
  · rw [digest_of_ne_reset hreset]
    exact happly

/-! ## Blocks -/

/-- All that the session has recorded happened before every block after this one. -/
def IsWithin (s : Session) (block : Nat) : Prop :=
  ∀ later, block < later → later < UInt64.size → s.IsBefore (.blockStart (.ofNat later))

variable {block : Nat}

theorem isWithin_fresh {game : GameId} {players : Players} {role : Role} :
    (fresh game players role).IsWithin block := fun _ _ _ => isBefore_fresh

namespace IsWithin

theorem of_facts_eq (h : s.IsWithin block) (hfacts : t.facts = s.facts) : t.IsWithin block :=
  fun later hlt hlater => (h later hlt hlater).of_facts_eq hfacts

theorem of_le {later : Nat} (h : s.IsWithin block) (hle : block ≤ later) : s.IsWithin later :=
  fun last hlt hlast => h last (hle.trans_lt hlt) hlast

/-- An event in the next block is the latest there is. -/
theorem digest (h : s.IsWithin block) (hroom : block + 1 < UInt64.size) :
    (s.digest status (.entry ⟨.blockStart (.ofNat (block + 1)), event⟩)).1.IsWithin (block + 1) :=
  fun _ hlt hlater =>
    (h (block + 1) (Nat.lt_succ_self _) hroom).digest (blockStart_lt hlt hlater)

end IsWithin

end Session

end ShuffleWatch
