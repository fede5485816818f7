import ShuffleWatch.Proofs.Chain.Waiting
import ShuffleWatch.Proofs.Session.Digest
import ShuffleWatch.Proofs.Watch.Grounds
import ShuffleWatch.Proofs.Watch.Settling

/-!
# Watches that attend to their feed

A watch that follows a feed, with nothing else to do, of a chain that reports a status
for its game (`Attends`). It digests the next item and sends the action to which that
leads (`Attends.restsAfter_take`), and answers a request for a snapshot at once
(`Attends.ask_snapshot`). When an event is published on its chain, it takes in what its
feed is offered, and attends to its feed again (`Attends.settle_publishWritten`), so that it
has digested what came of the event (`Attends.digest_publishWritten`).
-/

namespace ShuffleWatch.Watch

/-- The watch follows this feed of a chain that reports the status for its game, and
    there is nothing else to do. -/
structure Attends (w : Watch) (feed : Nat) (status : Status) : Prop where
  phase_eq : w.phase = .following feed
  isKilled_eq : w.isKilled = false
  outbox_eq : w.outbox = none
  condition_eq : w.condition = none
  waiting_eq : w.mailbox.waiting = []
  isOpen_eq : w.mailbox.isOpen = true
  statusFault_eq : w.access.statusFault = none
  statusOf_eq : w.access.chain.statusOf w.session.game = some status

/-- The application has taken all actions, and takes more. -/
structure IsDrained (w : Watch) : Prop where
  queue_eq : w.outlet.queue = []
  isOpen_eq : w.outlet.isOpen = true
  capacity_pos : 0 < w.outlet.capacity

variable {w : Watch} {feed : Nat} {d : Chain} {status : Status} {item : Item}

/-- An item that does not end the feed is digested, and the status is read when an
    epoch begins. -/
theorem take_eq_digest (w : Watch) (houtbox : w.outbox = none) (hcondition : w.condition = none)
    (hfault : w.access.statusFault = none)
    (hstatus : w.access.chain.statusOf w.session.game = some status)
    (hlost : (w.session.receive item).2 ≠ .disconnected) :
    ∃ reads, w.take feed item = { w with
      session := (w.session.digest status item).1
      outbox := (w.session.digest status item).2
      access := { w.access with reads := reads } } := by
  have hgame : (w.session.receive item).1.game = w.session.game :=
    Session.game_perform (.receive item)
  rw [take, Session.digest]
  rcases hreceive : w.session.receive item with ⟨t, verdict⟩
  rw [hreceive] at hlost hgame
  dsimp only at hgame
  cases verdict with
  | changed action => exact ⟨w.access.reads, rfl⟩
  | disconnected => exact absurd rfl hlost
  | reset =>
    refine ⟨w.access.reads + 1, ?_⟩
    simp [resync, Access.readStatus, hfault, hgame, hstatus, hcondition]
  | _ => exact ⟨w.access.reads, by simp [Verdict.action?, houtbox]⟩

/-- Once the actions are taken, the watch is drained if it was drained before they were
    sent. -/
theorem IsDrained.takeActions {v : Watch} {actions : List Action} (h : w.IsDrained)
    (houtlet : v.outlet = { w.outlet with queue := actions }) : (v.accept .takeActions).IsDrained := by
  refine ⟨rfl, ?_, ?_⟩
  · change v.outlet.isOpen = true
    rw [houtlet]
    exact h.isOpen_eq
  · change 0 < v.outlet.capacity
    rw [houtlet]
    exact h.capacity_pos

namespace Attends

theorem takeActions (h : w.Attends feed status) : (w.accept .takeActions).Attends feed status :=
  ⟨h.phase_eq, h.isKilled_eq, h.outbox_eq, h.condition_eq, h.waiting_eq, h.isOpen_eq,
    h.statusFault_eq, h.statusOf_eq⟩

theorem step?_eq_none (h : w.Attends feed status) (hidle : w.access.chain.IsIdle feed w.filter) :
    w.step? = none := by
  rw [step?_of_pending h.isKilled_eq h.outbox_eq h.phase_eq hidle.next_eq]
  exact serveNext?_eq_none h.waiting_eq h.isOpen_eq

/-- The watch takes the only item that waits in its feed, sends the action to which
    that leads, if any, and rests. -/
theorem restsAfter_take (h : w.Attends feed status) (hdrained : w.IsDrained)
    (hnext : w.access.chain.next feed = (d, .item item)) (hidle : d.IsIdle feed w.filter)
    (hstatus : d.statusOf = w.access.chain.statusOf)
    (hlost : (w.session.receive item).2 ≠ .disconnected) :
    ∃ v n, RestsAfter v n w ∧ n ≤ 2 ∧ v.Attends feed status ∧ v.access.chain = d ∧
      v.session = (w.session.digest status item).1 ∧
      v.outlet = { w.outlet with queue := (w.session.digest status item).2.toList } := by
  have hgame : (w.session.digest status item).1.game = w.session.game := Session.game_digest
  have hstatus' : d.statusOf w.session.game = some status := by
    rw [hstatus]
    exact h.statusOf_eq
  let u : Watch := { w with access := { w.access with chain := d } }
  obtain ⟨reads, htake⟩ :=
    u.take_eq_digest h.outbox_eq h.condition_eq h.statusFault_eq hstatus' hlost
  have hitem := step?_of_item h.isKilled_eq h.outbox_eq h.phase_eq hnext
  rw [show u.take feed item = _ from htake] at hitem
  -- What is left to do is to send the action, if there is one.
  let u' : Watch := { u with
    session := (w.session.digest status item).1
    outbox := (w.session.digest status item).2
    access := { u.access with reads := reads } }
  let v : Watch := { u' with
    outbox := none
    outlet := { w.outlet with queue := (w.session.digest status item).2.toList } }
  have hv : v.Attends feed status :=
    ⟨h.phase_eq, h.isKilled_eq, rfl, h.condition_eq, h.waiting_eq, h.isOpen_eq, h.statusFault_eq,
      by rw [hgame]; exact hstatus'⟩
  have hfilter : v.filter = w.filter := congrArg (fun game => Filter.mk (some game) _) hgame
  have hrest : v.step? = none := hv.step?_eq_none (hfilter ▸ hidle)
  cases haction : (w.session.digest status item).2 with
  | none =>
    have hsame : u' = v := by simp [u', v, u, haction, ← hdrained.queue_eq]
    rw [show some _ = some v from congrArg some hsame] at hitem
    exact ⟨v, 1, .step hitem (.rest hrest), by omega, hv, rfl, rfl, by rw [← haction]⟩
  | some action =>
    have hroom : u'.outlet.queue.length < u'.outlet.capacity := by
      change w.outlet.queue.length < w.outlet.capacity
      rw [hdrained.queue_eq]
      exact hdrained.capacity_pos
    have hsend := step?_of_outbox (w := u') h.isKilled_eq haction
      (isRunning_of_following h.phase_eq) hdrained.isOpen_eq hroom
    have hsent : u'.step? = some v := by
      rw [hsend]
      simp [v, u', u, haction, hdrained.queue_eq]
    exact ⟨v, 2, .step hitem (.step hsent (.rest hrest)), le_rfl, hv, rfl, rfl, by rw [← haction]⟩

/-- A publication makes the watch take in what its feed is offered, and rest. -/
theorem settle_publishWritten (h : w.Attends feed status) (hdrained : w.IsDrained)
    (hidle : w.access.chain.IsIdle feed w.filter) (e : WrittenEvent) :
    ∃ v, (w.accept (.happen (.publishWritten e))).settle = v ∧ v.Attends feed status ∧
      v.access.chain.IsIdle feed v.filter ∧
      v.access.chain.lastBlock = (w.access.chain.publishWritten e).1.lastBlock ∧
      match w.access.chain.offered? w.filter (.publishWritten e) with
      | some item => v.session = (w.session.digest status item).1 ∧
          v.outlet = { w.outlet with queue := (w.session.digest status item).2.toList }
      | none => v.session = w.session ∧ v.outlet = w.outlet := by
  have hstatus : (w.access.chain.publishWritten e).1.statusOf w.session.game = some status := by
    rw [Chain.statusOf_publishWritten]
    exact h.statusOf_eq
  let u : Watch := w.undergo (.publishWritten e)
  have hu : u.Attends feed status :=
    ⟨h.phase_eq, h.isKilled_eq, h.outbox_eq, h.condition_eq, h.waiting_eq, h.isOpen_eq,
      h.statusFault_eq, hstatus⟩
  change ∃ v, u.settle = v ∧ _
  cases hoffer : w.access.chain.offered? w.filter (.publishWritten e) with
  | none =>
    have hidle' := hidle.undergo_of_none (h := .publishWritten e) nofun hoffer
    exact ⟨u, settleWithin_of_rest (hu.step?_eq_none hidle') _, hu, hidle', rfl, rfl, rfl⟩
  | some item =>
    obtain ⟨d, hnext, hidle', hblock, hstatus'⟩ :=
      hidle.undergo_of_some (h := .publishWritten e) nofun hoffer
    have hlost : (w.session.receive item).2 ≠ .disconnected := by
      rw [ne_eq, Session.receive_eq_disconnected_iff]
      rintro ⟨f, rfl, hloses⟩
      rcases Chain.offered?_publishWritten hoffer with ⟨e', he'⟩ | ⟨garble, hgarble⟩
      · cases he'
      · cases hgarble
        cases hloses
    obtain ⟨v, n, hrests, hn, hv, hchain, hsession, houtlet⟩ :=
      hu.restsAfter_take (d := d) ⟨hdrained.queue_eq, hdrained.isOpen_eq, hdrained.capacity_pos⟩
        hnext hidle' hstatus' hlost
    refine ⟨v, hrests.settle_eq (by omega), hv, ?_, ?_, hsession, houtlet⟩
    · have hfilter : v.filter = w.filter := by
        rw [filter, filter, hsession, Session.game_digest]
        rfl
      rw [hchain, hfilter]
      exact hidle'
    · rw [hchain, hblock]
      rfl

/-- A watch digests the item that comes of a publication, even if its feed does not
    deliver it: that is an entry of another game. -/
theorem digest_publishWritten (h : w.Attends feed status) (hdrained : w.IsDrained)
    (hidle : w.access.chain.IsIdle feed w.filter) {e : WrittenEvent}
    (ho : w.access.chain.offered? .everything (.publishWritten e) = some item) :
    ∃ v, (w.accept (.happen (.publishWritten e))).settle = v ∧ v.Attends feed status ∧
      v.access.chain.IsIdle feed v.filter ∧
      v.access.chain.lastBlock = (w.access.chain.publishWritten e).1.lastBlock ∧
      v.session = (w.session.digest status item).1 ∧
      v.outlet = { w.outlet with queue := (w.session.digest status item).2.toList } := by
  obtain ⟨v, hsettle, hv, hidle', hblock, hdigest⟩ := h.settle_publishWritten hdrained hidle e
  refine ⟨v, hsettle, hv, hidle', hblock, ?_⟩
  have hfeed : w.access.chain.offered? w.filter (.publishWritten e) = some item ∨ _ :=
    Chain.offered?_of_everything ho
  rcases hfeed with hsame | ⟨hnone, e', rfl, hadmits⟩
  · rw [hsame] at hdigest
    exact hdigest
  · rw [hnone] at hdigest
    have hgame : e'.event.game ≠ w.session.game := by
      rw [ne_eq, ← admits_filter_iff, hadmits]
      exact Bool.false_ne_true
    rw [Session.digest_of_ne_game hgame]
    refine ⟨hdigest.1, hdigest.2.trans ?_⟩
    rw [Option.toList_none, ← hdrained.queue_eq]

/-- A request for a snapshot is answered at once. -/
theorem ask_snapshot (h : w.Attends feed status) (hidle : w.access.chain.IsIdle feed w.filter) :
    ∃ mailbox, w.ask .snapshot =
        ({ w with mailbox := mailbox }, .ok (.shown (w.session.snapshot none))) ∧
      ({ w with mailbox := mailbox } : Watch).Attends feed status := by
  let u : Watch := { w with mailbox := (w.mailbox.post .snapshot).1 }
  let answered := { u.mailbox with waiting := [] }.answer w.mailbox.posted (.shown w.snapshot)
  have hanswered : ({ w with mailbox := answered } : Watch).Attends feed status :=
    ⟨h.phase_eq, h.isKilled_eq, h.outbox_eq, h.condition_eq, rfl, h.isOpen_eq,
      h.statusFault_eq, h.statusOf_eq⟩
  have hserve : u.step? = some { w with mailbox := answered } := by
    have hwaiting : u.mailbox.waiting = [(w.mailbox.posted, .snapshot)] := by
      change w.mailbox.waiting ++ _ = _
      rw [h.waiting_eq]
      rfl
    rw [step?_of_pending (w := u) h.isKilled_eq h.outbox_eq h.phase_eq hidle.next_eq, serveNext?,
      hwaiting]
    dsimp only
    rw [attend_snapshot]
    rfl
  have hsettle : u.settle = { w with mailbox := answered } :=
    (RestsAfter.step hserve (.rest (hanswered.step?_eq_none hidle))).settle_eq (by omega)
  have hstopped : w.hasStopped = false := by
    rw [hasStopped, h.phase_eq]
    rfl
  have hreply : answered.reply? w.mailbox.posted = some (.shown w.snapshot) := by
    simp [answered, Mailbox.reply?, Mailbox.answer]
  refine ⟨answered, ?_, hanswered⟩
  have hpost : w.mailbox.post .snapshot = (u.mailbox, w.mailbox.posted) := rfl
  rw [ask, hstopped, if_neg Bool.false_ne_true, hpost]
  dsimp only
  rw [show ({ w with mailbox := u.mailbox } : Watch).settle = _ from hsettle]
  dsimp only
  rw [hreply, snapshot, h.condition_eq]

end Attends

end ShuffleWatch.Watch
