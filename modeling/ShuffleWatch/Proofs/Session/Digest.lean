import ShuffleWatch.Proofs.Session.Currency
import ShuffleWatch.Proofs.Session.Requests

/-!
# Digesting items

What a session makes of the items of a feed, when the status is adopted after each
rematch (`Session.digest`). It is the same whether requests are held back until the feed
has caught up with an empty history or not (`digest_caughtUp_seed_awaitBacklog`).
-/

namespace ShuffleWatch.Session

/-- What becomes of a session with an item, when the status is adopted after a
    rematch, and the action that the client has to take. -/
def digest (s : Session) (status : Status) (item : Item) : Session × Option Action :=
  match s.receive item with
  | (t, .reset) => t.seed status
  | (t, verdict) => (t, verdict.action?)

variable {s : Session} {status : Status} {item : Item}

/-! ## Holding requests back -/

theorem settle_awaitBacklog : s.awaitBacklog.settle = s.settle.awaitBacklog := by
  have hadvance : s.awaitBacklog.advance .inProgress = (s.advance .inProgress).awaitBacklog := by
    rw [advance, advance, apply_ite awaitBacklog]
    rfl
  rw [settle, settle, hadvance]
  split <;> rename_i hcomplete
  · exact congrArg awaitBacklog (if_pos hcomplete).symm
  · exact congrArg awaitBacklog (if_neg hcomplete).symm

/-- Nobody is asked while requests are held back. -/
theorem takeAction_awaitBacklog : s.awaitBacklog.takeAction = (s.awaitBacklog, none) := rfl

theorem seed_awaitBacklog (h : status.isKnown = true) : s.awaitBacklog.seed status =
    (({ s with status := status, link := .live } : Session).settle.awaitBacklog, none) := by
  rw [seed, if_pos h, ← takeAction_awaitBacklog, ← settle_awaitBacklog]
  rfl

theorem seed_awaitBacklog_snd : (s.awaitBacklog.seed status).2 = none := by
  by_cases hknown : status.isKnown = true
  · rw [seed_awaitBacklog hknown]
  · rw [seed, if_neg hknown]

theorem catchUp_awaitBacklog (h : s.holding = false) : s.awaitBacklog.catchUp = s.takeAction := by
  rw [catchUp, awaitBacklog, ← h]

/-! ## Items -/

theorem game_digest : (s.digest status item).1.game = s.game := by
  have hreceive : (s.receive item).1.game = s.game := game_perform (.receive item)
  rw [digest]
  split
  · rename_i t h
    rw [h] at hreceive
    exact (game_perform (.seed status)).trans hreceive
  · rename_i t verdict _ h
    rw [h] at hreceive
    exact hreceive

theorem players_digest : (s.digest status item).1.players = s.players := by
  have hreceive : (s.receive item).1.players = s.players :=
    (players_perform rfl : (s.perform (.receive item)).1.players = s.players)
  rw [digest]
  split
  · rename_i t h
    rw [h] at hreceive
    have hseed : (t.perform (.seed status)).1.players = t.players := players_perform rfl
    exact hseed.trans hreceive
  · rename_i t verdict _ h
    rw [h] at hreceive
    exact hreceive

theorem digest_of_ne_reset (h : (s.receive item).2 ≠ .reset) :
    s.digest status item = ((s.receive item).1, (s.receive item).2.action?) := by
  rw [digest]
  split
  · rename_i t hreceive
    rw [hreceive] at h
    exact absurd rfl h
  · rename_i t verdict _ hreceive
    rw [hreceive]

/-- After a rematch, the status is adopted. -/
theorem digest_of_reset (h : (s.receive item).2 = .reset) :
    s.digest status item = (s.receive item).1.seed status := by
  rw [digest]
  split
  · rename_i t hreceive
    rw [hreceive]
  · rename_i t verdict hne hreceive
    rw [hreceive] at h
    exact absurd h hne

/-- An entry that is filtered out changes nothing. -/
theorem digest_of_filtered {e : Entry} {why : Filtered} (h : s.filtered? e = some why) :
    s.digest status (.entry e) = (s, none) := by
  rw [digest, receive, apply_of_filtered h]
  rfl

/-- An entry of another game changes nothing. -/
theorem digest_of_ne_game {e : Entry} (h : e.event.game ≠ s.game) :
    s.digest status (.entry e) = (s, none) :=
  digest_of_filtered (if_pos h)

theorem digest_caughtUp (s : Session) (status : Status) :
    s.digest status .caughtUp = s.catchUp := by
  rw [digest, receive]
  rcases s.catchUp with ⟨t, _ | action⟩ <;> rfl

/-- Holding requests back until the feed has caught up makes no difference, when
    nothing but the status is learned meanwhile. -/
theorem digest_caughtUp_seed_awaitBacklog (hholding : s.holding = false)
    (hquiet : s.takeAction = (s, none)) :
    (s.awaitBacklog.seed status).1.digest status .caughtUp = s.seed status := by
  rw [digest_caughtUp]
  by_cases hknown : status.isKnown = true
  · rw [seed_awaitBacklog hknown, seed, if_pos hknown]
    exact catchUp_awaitBacklog ((congrArg Prod.snd restraint_settle).trans hholding)
  · rw [seed, if_neg hknown, seed, if_neg hknown, catchUp_awaitBacklog hholding]
    exact hquiet

end ShuffleWatch.Session
