import ShuffleWatch.Proofs.Session.Facts

/-!
# Sessions that are up to date

A session is up to date (`IsCurrent`) when its feed is there and it knows the status
of the game. It is when it adopts a status (`isCurrent_seed`), and it stays so until
an epoch begins or the feed is lost (`IsCurrent.receive`). The link shows that the
feed was lost (`link_receive_of_disconnected`), also after the application begins an
epoch (`link_perform_of_startsOver`).
-/

namespace ShuffleWatch.Session

/-- The session is up to date: its feed is there, and it knows the status. -/
structure IsCurrent (s : Session) : Prop where
  link_eq : s.link = .live
  isKnown : s.status.isKnown = true

variable {s : Session} {item : Item} {status : Status}

/-! ## Being up to date -/

namespace IsCurrent

theorem takeAction (h : s.IsCurrent) : s.takeAction.1.IsCurrent := by
  rw [Session.takeAction]
  split
  · rw [markAsked.eq_def]
    split <;> exact ⟨h.link_eq, h.isKnown⟩
  · exact h

theorem advance (h : s.IsCurrent) (hknown : status.isKnown = true) :
    (s.advance status).IsCurrent := by
  rw [Session.advance]
  split
  · exact ⟨h.link_eq, hknown⟩
  · exact h

theorem settle (h : s.IsCurrent) : s.settle.IsCurrent := by
  rw [Session.settle]
  split
  · exact h.advance rfl
  · exact h

theorem recordShuffle {player : Address} {p : Position} (h : s.IsCurrent) :
    (s.recordShuffle player p).IsCurrent := by
  rw [Session.recordShuffle]
  split <;> exact ⟨h.link_eq, h.isKnown⟩

/-- All that is learned within an epoch leaves the status known. -/
theorem learn {p : Position} {event : Event} (h : s.IsCurrent) (hkind : event.kind ≠ .rematch) :
    (s.learn p event).IsCurrent := by
  cases event with
  | created game who => exact h.advance rfl
  | joined game who =>
    rw [Session.learn]
    split
    · exact (h.advance rfl).settle
    · exact h
  | shuffled game who => exact h.recordShuffle.settle
  | ended game winner => exact h.advance rfl
  | rematch game => exact absurd rfl hkind

/-- A session stays up to date, unless it begins an epoch or loses its feed. -/
theorem receive (h : s.IsCurrent) (hreset : (s.receive item).2 ≠ .reset)
    (hlost : (s.receive item).2 ≠ .disconnected) : (s.receive item).1.IsCurrent := by
  -- A session is no longer current once an epoch has begun,
  -- until a status is read, or when its link is lost.
  cases item with
  | entry e =>
    rw [Session.receive, Session.apply] at *
    split
    · exact h
    · split
      · rename_i hfiltered hkind
        rw [hfiltered] at hreset
        exact absurd (congrArg Prod.snd (if_pos hkind)) hreset
      · rename_i hkind
        exact (h.learn hkind).takeAction
  | caughtUp => exact takeAction ⟨h.link_eq, h.isKnown⟩
  | fault f =>
    rw [Session.receive] at *
    split
    · rename_i hloses
      rw [if_pos hloses] at hlost
      exact absurd rfl hlost
    · exact h

end IsCurrent

/-- A session that adopts a status is up to date. -/
theorem isCurrent_seed (h : status.isKnown = true) : (s.seed status).1.IsCurrent := by
  rw [seed, if_pos h]
  exact (IsCurrent.settle ⟨rfl, h⟩).takeAction

/-- Nothing but a fault that ends the feed disconnects a session. -/
theorem receive_eq_disconnected_iff :
    (s.receive item).2 = .disconnected ↔ ∃ f, item = .fault f ∧ f.losesConnection = true := by
  -- Neither an entry nor the mark tells of a lost connection.
  cases item with
  | entry e =>
    rw [receive, apply]
    split
    · simp
    · split
      · simp
      · dsimp only
        split <;> simp
  | caughtUp =>
    rw [receive]
    dsimp only
    split <;> simp
  | fault f =>
    rw [receive]
    split <;> simp_all

/-- A session whose feed is gone shows that. -/
theorem link_receive_of_disconnected (h : (s.receive item).2 = .disconnected) :
    (s.receive item).1.link = .lost := by
  obtain ⟨f, rfl, hloses⟩ := receive_eq_disconnected_iff.1 h
  rw [receive, if_pos hloses]
  rfl

/-- A new epoch that the application asks for leaves the link as it is. -/
theorem link_perform_of_startsOver {op : Operation} (h : op.startsOver = true) :
    (s.perform op).1.link = s.link := by
  cases op with
  | restart => rfl
  | rebind players self =>
    rw [perform]
    split
    · rename_i t ht
      obtain ⟨r, -, rfl⟩ := rebind_eq_ok ht
      rfl
    · rfl
  | _ => cases h

end ShuffleWatch.Session
