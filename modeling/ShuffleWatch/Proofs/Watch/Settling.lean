import ShuffleWatch.Proofs.Watch.Moves

/-!
# Coming to rest

A watch that is run by itself takes one step after the other until it waits for
something. `RestsAfter v n w` says that it does so in `n` steps, and how it is then; as
long as these are no more than the workload that was counted beforehand, this is where
it settles (`settle_eq`). The steps of a watch that is running and not to be aborted are
given by what it does, one lemma for each (`step?_of_connecting` and the others).
-/

namespace ShuffleWatch.Watch

/-- The watch is at rest as `v` after so many steps. -/
inductive RestsAfter (v : Watch) : Nat → Watch → Prop
  | rest : v.step? = none → RestsAfter v 0 v
  | step {w u : Watch} {n : Nat} : w.step? = some u → RestsAfter v n u → RestsAfter v (n + 1) w

variable {u v w : Watch} {feed k n : Nat}

/-! ## Settling -/

theorem settleWithin_of_rest (h : w.step? = none) (n : Nat) : settleWithin n w = w := by
  cases n with
  | zero => rfl
  | succ n => rw [settleWithin, h]

theorem RestsAfter.settleWithin_eq (h : RestsAfter v n w) (hn : n ≤ k) :
    settleWithin k w = v := by
  induction h generalizing k with
  | rest hrest => exact settleWithin_of_rest hrest k
  | step hstep _ ih =>
    obtain ⟨k, rfl⟩ : ∃ m, k = m + 1 := ⟨k - 1, by omega⟩
    rw [settleWithin, hstep]
    exact ih (by omega)

theorem RestsAfter.step?_eq_none (h : RestsAfter v n w) : v.step? = none := by
  induction h with
  | rest hrest => exact hrest
  | step _ _ ih => exact ih

/-- The workload leaves room for two rounds through the history. -/
theorem le_workload (w : Watch) : 4 * w.access.chain.history.length + 24 ≤ w.workload := by
  have hrounds : 2 * (2 * w.access.chain.history.length + 8) ≤
      (w.mailbox.waiting.length + 2) * (2 * w.access.chain.history.length + 8) :=
    Nat.mul_le_mul_right _ (Nat.le_add_left 2 _)
  rw [workload]
  omega

theorem RestsAfter.settle_eq (h : RestsAfter v n w)
    (hn : n ≤ 4 * w.access.chain.history.length + 24) : w.settle = v :=
  h.settleWithin_eq (hn.trans w.le_workload)

/-! ## Steps -/

theorem isRunning_of_following (hphase : w.phase = .following feed) : w.isRunning = true := by
  rw [isRunning, hphase]
  rfl

theorem step?_eq_proceed? (hkilled : w.isKilled = false) (houtbox : w.outbox = none)
    (hrunning : w.isRunning = true) : w.step? = w.proceed? := by
  rw [step?, hrunning, hkilled, houtbox]
  rfl

theorem step?_of_connecting (hkilled : w.isKilled = false) (houtbox : w.outbox = none)
    (hphase : w.phase = .connecting) : w.step? = some w.connect := by
  rw [step?_eq_proceed? hkilled houtbox (by rw [isRunning, hphase]; rfl), proceed?, hphase]

theorem step?_of_following (hkilled : w.isKilled = false) (houtbox : w.outbox = none)
    (hphase : w.phase = .following feed) : w.step? = w.follow? feed := by
  rw [step?_eq_proceed? hkilled houtbox (isRunning_of_following hphase), proceed?, hphase]

theorem step?_of_waiting {due : Duration} (hkilled : w.isKilled = false)
    (houtbox : w.outbox = none) (hphase : w.phase = .waiting due) : w.step? = w.wait? due := by
  rw [step?_eq_proceed? hkilled houtbox (by rw [isRunning, hphase]; rfl), proceed?, hphase]

theorem step?_of_item {d : Chain} {item : Item} (hkilled : w.isKilled = false)
    (houtbox : w.outbox = none) (hphase : w.phase = .following feed)
    (hnext : w.access.chain.next feed = (d, .item item)) :
    w.step? = some ({ w with access := { w.access with chain := d } }.take feed item) := by
  rw [step?_of_following hkilled houtbox hphase, follow?, Access.next, hnext]

/-- A watch that finds nothing in its feed turns to its mailbox. -/
theorem step?_of_pending {d : Chain} (hkilled : w.isKilled = false) (houtbox : w.outbox = none)
    (hphase : w.phase = .following feed) (hnext : w.access.chain.next feed = (d, .pending)) :
    w.step? = w.serveNext? := by
  rw [step?_of_following hkilled houtbox hphase, follow?, Access.next, hnext]

theorem serveNext?_eq_none (hwaiting : w.mailbox.waiting = []) (hopen : w.mailbox.isOpen = true) :
    w.serveNext? = none := by
  rw [serveNext?, hwaiting]
  exact if_pos hopen

/-- Without requests, a watch that waits does nothing until the wait is over. -/
theorem step?_of_wait {due : Duration} (hkilled : w.isKilled = false) (houtbox : w.outbox = none)
    (hphase : w.phase = .waiting due) (hwaiting : w.mailbox.waiting = [])
    (hopen : w.mailbox.isOpen = true) :
    w.step? = if due ≤ w.clock then some { w with phase := .connecting } else none := by
  rw [step?_of_waiting hkilled houtbox hphase, wait?, serveNext?_eq_none hwaiting hopen,
    Option.none_or]

/-- Showing the session changes nothing but the answers. -/
theorem attend_snapshot (w : Watch) (ticket : Nat) :
    w.attend ticket .snapshot =
      { w with mailbox := w.mailbox.answer ticket (.shown w.snapshot) } := by
  rw [attend, serve]
  dsimp only
  split <;> rfl

/-! ## Connecting -/

/-- A watch that finds the chain at hand, and a status for its game, opens a feed and
    adopts the status. -/
theorem connect_eq {status : Status} (hsubscribe : w.access.subscribeFault = none)
    (hread : w.access.statusFault = none)
    (hstatus : w.access.chain.statusOf w.session.game = some status) :
    w.connect = { w with
      session := (w.session.awaitBacklog.seed status).1
      outbox := (w.session.awaitBacklog.seed status).2
      condition := none
      backoff := w.backoff.reset
      phase := .following w.access.chain.opened
      access := { w.access with
        chain := (w.access.chain.subscribe w.filter).1
        subscribes := w.access.subscribes + 1
        reads := w.access.reads + 1 } } := by
  have hstatus' : (w.access.chain.subscribe w.filter).1.statusOf w.session.awaitBacklog.game =
      some status := hstatus
  have hopened : (w.access.chain.subscribe w.filter).2 = w.access.chain.opened := rfl
  simp [connect, Access.subscribe, hsubscribe, attach, resync, Access.readStatus, hread, hstatus',
    hopened]

/-! ## Sending -/

/-- An action on its way is sent when there is room. -/
theorem step?_of_outbox {action : Action} (hkilled : w.isKilled = false)
    (houtbox : w.outbox = some action) (hrunning : w.isRunning = true)
    (hopen : w.outlet.isOpen = true) (hroom : w.outlet.queue.length < w.outlet.capacity) :
    w.step? = some { w with
      outlet := { w.outlet with queue := w.outlet.queue ++ [action] }
      outbox := none } := by
  have hsend : w.outlet.send action =
      ({ w.outlet with queue := w.outlet.queue ++ [action] }, .queued) := by
    simp [Outlet.send, hopen, hroom]
  simp [step?, hrunning, hkilled, houtbox, dispatch?, hsend]

/-! ## Advancing -/

/-- A watch that rests while it follows a feed lets the time pass. -/
theorem advanceWithin_of_following {time : Duration} (hsettle : w.settle = v)
    (hphase : v.phase = .following feed) :
    advanceWithin (n + 1) time w = { v with clock := time } := by
  rw [advanceWithin, hsettle, hphase]

/-- A watch that rests until a wait is over goes on when it is. -/
theorem advanceWithin_of_waiting {time due : Duration} (hsettle : w.settle = v)
    (hphase : v.phase = .waiting due) (hlt : v.clock < due) (hle : due ≤ time) :
    advanceWithin (n + 1) time w = advanceWithin n time { v with clock := due } := by
  rw [advanceWithin, hsettle, hphase]
  dsimp only
  rw [if_neg (Nat.not_le.2 hlt), if_pos hle]

end ShuffleWatch.Watch
