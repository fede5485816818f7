import ShuffleWatch.Proofs.Session.Account
import ShuffleWatch.Proofs.Session.Course
import ShuffleWatch.Proofs.Session.Digest

/-!
# Entries that are repeated

A feed that is opened again delivers once more what is on chain. A session that
reflects an entry already learns nothing from it but the status to which the entry moves
it forward, if it does; and it asks for nothing while requests are held back
(`apply_heldAt`). It is then as it was before the feed was lost, once it has
caught up, if the status is the same again (`catchUp_heldAt`).
-/

namespace ShuffleWatch.Session

open Position (reaches)

variable {s : Session} {e : Entry} {p : Position} {a : Address}

/-! ## What changes the status alone -/

theorem advance_eq_withStatus (target : Status) :
    s.advance target = { s with status := (s.advance target).status } := by
  rw [advance]
  split <;> rfl

theorem settle_eq_withStatus : s.settle = { s with status := s.settle.status } := by
  rw [settle]
  split
  · exact advance_eq_withStatus _
  · rfl

/-- A shuffle at or below the one that is recorded of the player changes nothing. -/
theorem recordShuffle_of_reaches (hc : s.facts.IsCoherent) (ha : s.players.contains a = true)
    (h : reaches (s.facts.shuffleBy a) p = true) : s.recordShuffle a p = s := by
  rw [Players.contains, Bool.or_eq_true, beq_iff_eq, beq_iff_eq] at ha
  rw [recordShuffle]
  -- The flag is set already, as a position is known, and the maximum is that position.
  rcases ha with rfl | rfl
  · rw [shuffleBy_creator] at h
    have hcoherent : s.progress.creator = s.creatorShuffle.isSome := hc.creator_flag
    have hflag : { s.progress with creator := true } = s.progress := by
      rw [← Position.isSome_of_reaches h, ← hcoherent]
    rw [if_pos rfl, Position.elim_max_of_reaches h, hflag]
  · have hne : s.players.creator ≠ s.players.joiner := hc.creator_ne_joiner
    rw [shuffleBy_joiner hne] at h
    have hcoherent : s.progress.joiner = s.joinerShuffle.isSome := hc.joiner_flag
    have hflag : { s.progress with joiner := true } = s.progress := by
      rw [← Position.isSome_of_reaches h, ← hcoherent]
    rw [if_neg hne.symm, Position.elim_max_of_reaches h, hflag]

/-! ## Repeated entries -/

/-- A reflected entry that is not filtered out is no rematch, and changes the status
    alone. -/
theorem learn_of_reflects (hc : s.facts.IsCoherent) (h : s.facts.Reflects e)
    (hf : s.filtered? e = none) : e.event.kind ≠ .rematch ∧
      s.learn e.position e.event = { s with status := (s.learn e.position e.event).status } := by
  obtain ⟨hgame, habove, haccept⟩ := filtered?_eq_none_iff.1 hf
  -- Above the floor, what is reflected is recorded.
  have hrecords : s.facts.Records e := (h hgame).resolve_left
    (Bool.eq_false_iff.1 (Position.isAbove_iff_not_reaches.1 habove))
  obtain ⟨p, event⟩ := e
  cases event with
  | created game creator => exact ⟨by simp [Event.kind], advance_eq_withStatus _⟩
  | joined game joiner =>
    refine ⟨by simp [Event.kind], ?_⟩
    rw [learn]
    split
    · rw [settle_eq_withStatus, advance_eq_withStatus]
    · rfl
  | shuffled game player =>
    refine ⟨by simp [Event.kind], ?_⟩
    rw [learn, recordShuffle_of_reaches hc haccept (hrecords haccept)]
    exact settle_eq_withStatus
  | ended game winner => exact ⟨by simp [Event.kind], advance_eq_withStatus _⟩
  | rematch game => exact hrecords.elim

/-! ## Sessions that are told again -/

/-- The session with this status, while requests are held back. -/
def heldAt (s : Session) (status : Status) : Session := { s with status := status, holding := true }

variable {current status : Status}

theorem takeAction_heldAt : (s.heldAt current).takeAction = (s.heldAt current, none) := rfl

/-- A session whose feed was lost adopts a status, and asks for nothing. -/
theorem seed_awaitBacklog_loseLink (hlink : s.link = .live) (hknown : status.isKnown = true) :
    ∃ current, s.loseLink.awaitBacklog.seed status = (s.heldAt current, none) := by
  have hrelink : ({ s.loseLink with status := status, link := .live } : Session) =
      { s with status := status } := by
    rw [loseLink, ← hlink]
  refine ⟨({ s with status := status } : Session).settle.status, ?_⟩
  rw [seed_awaitBacklog hknown, hrelink, settle_eq_withStatus]
  rfl

/-- A reflected entry changes the status at most, and nothing is asked for because of it
    while requests are held back. -/
theorem apply_heldAt (current : Status) (hc : s.facts.IsCoherent) (h : s.facts.Reflects e) :
    ∃ next, ((s.heldAt current).apply e).1 = s.heldAt next ∧
      ((s.heldAt current).apply e).2 ≠ .reset ∧
      ((s.heldAt current).apply e).2.action? = none := by
  rw [apply]
  cases hf : (s.heldAt current).filtered? e with
  | some why => exact ⟨current, rfl, by simp, rfl⟩
  | none =>
    obtain ⟨hkind, hlearn⟩ := learn_of_reflects (s := s.heldAt current) hc h hf
    -- The entry is known, so that it may move the status
    -- and nothing else. Requests are held back.
    obtain ⟨next, hnext⟩ : ∃ next, (s.heldAt current).learn e.position e.event = s.heldAt next :=
      ⟨_, hlearn⟩
    dsimp only
    rw [if_neg hkind, hnext, takeAction_heldAt]
    refine ⟨next, rfl, ?_, ?_⟩ <;> dsimp only <;> split <;> first | rfl | simp

/-- Nothing is asked for when a session that has asked in time has caught up. -/
theorem catchUp_heldAt (h : s.IsPrompt) (hknown : s.status.isKnown = true)
    (hholding : s.holding = false) : (s.heldAt s.status).catchUp = (s, none) := by
  have hsame : ({ s.heldAt s.status with holding := false } : Session) = s := by
    rw [heldAt, ← hholding]
  rw [catchUp, hsame, takeAction, h hknown]
  rfl

end ShuffleWatch.Session
