import ShuffleWatch.Proofs.Session.Repeats
import ShuffleWatch.Proofs.Watch.Attendance
import ShuffleWatch.Proofs.Watch.Tracking

/-!
# Losing the connection

A watch that loses its connection while it waits for its feed comes back as it was, if
the status is still the one that was read last: it adopts that status again and is told
the whole backlog once more, in which there is nothing new. On the way it goes through a
few stages (`Returns`), each of which is nearer to the end than the one before
(`Returns.step`), and asks for nothing.
-/

namespace ShuffleWatch

/-- The same chain, as far as it tells anything, is accessed in the same way. -/
structure Access.Agrees (a b : Access) : Prop where
  subscribeFault_eq : b.subscribeFault = a.subscribeFault
  statusFault_eq : b.statusFault = a.statusFault
  history_eq : b.chain.history = a.chain.history
  statusOf_eq : b.chain.statusOf = a.chain.statusOf

namespace Access.Agrees

variable {a b : Access} (h : a.Agrees b)
include h

theorem backlog_eq (filter : Filter) : b.chain.backlog filter = a.chain.backlog filter := by
  rw [Chain.backlog, Chain.backlog, h.history_eq]

/-- A look at a feed leaves all that a chain tells as it is. -/
theorem next {d : Chain} {item : Item} {feed : Nat} (hnext : b.chain.next feed = (d, .item item)) :
    a.Agrees { b with chain := d } := by
  obtain ⟨-, -, -, -, -, hhistory, -⟩ := Chain.next_eq_item hnext
  exact ⟨h.subscribeFault_eq, h.statusFault_eq, hhistory.trans h.history_eq,
    (Chain.statusOf_next hnext).trans h.statusOf_eq⟩

end Access.Agrees

namespace Watch

/-- The watches to which a watch leads by itself, while time passes. -/
inductive Undisturbed (w : Watch) : Watch → Prop
  | refl : Undisturbed w w
  | step {u v : Watch} : Undisturbed w u → Step u v → Undisturbed w v
  | elapse {u : Watch} (d : Duration) : Undisturbed w u → Undisturbed w (u.accept (.elapse d))

/-- The watch is at rest and has nothing to ask for, knows all that its chain tells, and
    can reach it. -/
structure IsSettled (v : Watch) (feed : Nat) (status : Status) : Prop where
  attends : v.Attends feed status
  isGrounded : v.IsGrounded
  isIdle : v.access.chain.IsIdle feed v.filter
  subscribeFault_eq : v.access.subscribeFault = none
  isKnown : status.isKnown = true
  tracks : v.Tracks status (v.access.chain.backlog v.filter) []

/-- The watch is on its way back to `v`, with so many steps before it at most: it was
    `v` when the connection was lost, and all that has changed since is given. -/
inductive Returns (v : Watch) (status : Status) : Nat → Watch → Prop
  /-- The loss is the next item of the feed. -/
  | cut {feed : Nat} {access : Access} {d : Chain} {clock : Duration} : v.access.Agrees access →
      access.chain.next feed = (d, .item (.fault (.connectionLost .disconnected))) →
      Returns v status ((v.access.chain.backlog v.filter).length + 4)
        { v with phase := .following feed, access := access, clock := clock }
  | waiting {access : Access} {backoff : Backoff} {draws : List UInt64} {due clock : Duration} :
      v.access.Agrees access → due ≤ clock + (v.backoff.next v.draws).1 →
      Returns v status ((v.access.chain.backlog v.filter).length + 3)
        { v with
          session := v.session.loseLink, condition := some .connectionLost, backoff := backoff
          draws := draws, phase := .waiting due, access := access, clock := clock }
  | connecting {access : Access} {backoff : Backoff} {draws : List UInt64} {clock : Duration} :
      v.access.Agrees access →
      Returns v status ((v.access.chain.backlog v.filter).length + 2)
        { v with
          session := v.session.loseLink, condition := some .connectionLost, backoff := backoff
          draws := draws, phase := .connecting, access := access, clock := clock }
  /-- Some entries of the backlog were taken in again, and the others wait in the feed. -/
  | replaying {access : Access} {backoff : Backoff} {draws : List UInt64} {clock : Duration}
      {feed : Nat} {current : Status} {taken es : List Entry} : v.access.Agrees access →
      access.chain.Holds feed v.filter (es.map .entry ++ [.caughtUp]) →
      v.access.chain.backlog v.filter = taken ++ es →
      (v.session.heldAt current).Proceeds status {e | e ∈ taken} →
      Returns v status (es.length + 1)
        { v with
          session := v.session.heldAt current, condition := none, backoff := backoff
          draws := draws, phase := .following feed, outbox := none, access := access
          clock := clock }
  | back {access : Access} {backoff : Backoff} {draws : List UInt64} {clock : Duration}
      {feed : Nat} : v.access.Agrees access → access.chain.IsIdle feed v.filter →
      Returns v status 0
        { v with
          condition := none, backoff := backoff, draws := draws, phase := .following feed
          outbox := none, access := access, clock := clock }

variable {u u' v w : Watch} {feed n : Nat} {status : Status}

/-! ## What a settled watch knows -/

namespace IsSettled

variable (hv : v.IsSettled feed status)
include hv

theorem holding_eq : v.session.holding = false := by
  by_contra hholding
  exact List.not_mem_nil (hv.tracks.caughtUp_mem (Bool.not_eq_false _ ▸ hholding))

theorem isCurrent : v.session.IsCurrent := (hv.tracks.proceeds hv.isKnown).1

theorem proceeds : v.session.Proceeds status {e | e ∈ v.access.chain.backlog v.filter} :=
  (hv.tracks.proceeds hv.isKnown).2

end IsSettled

/-! ## Stages -/

section Stages

variable {access : Access} {backoff : Backoff} {draws : List UInt64} {clock : Duration}
  (hv : v.IsSettled feed status) (hagrees : v.access.Agrees access)
include hv hagrees

/-- The watch takes a step, which brings it nearer to the end. -/
def Advances (v : Watch) (status : Status) (n : Nat) (u : Watch) : Prop :=
  ∃ u' m, u.step? = some u' ∧ u'.clock = u.clock ∧ m < n ∧ Returns v status m u'

/-- A watch that finds that the connection is lost begins to wait. -/
theorem advances_of_cut {d : Chain} {feed' : Nat}
    (hnext : access.chain.next feed' = (d, .item (.fault (.connectionLost .disconnected)))) :
    v.Advances status ((v.access.chain.backlog v.filter).length + 4)
      { v with phase := .following feed', access := access, clock := clock } := by
  let u : Watch := { v with phase := .following feed', access := access, clock := clock }
  have hstep := step?_of_item (w := u) hv.attends.isKilled_eq hv.attends.outbox_eq rfl hnext
  have hagrees' := hagrees.next hnext
  have hreleased : v.access.Agrees { access with chain := d.release feed' } :=
    ⟨hagrees'.subscribeFault_eq, hagrees'.statusFault_eq, hagrees'.history_eq,
      hagrees'.statusOf_eq⟩
  exact ⟨_, _, hstep, rfl, Nat.lt_succ_self _, .waiting hreleased (le_refl (clock + _))⟩

/-- A watch that connects adopts the status, and finds the whole backlog in its feed. -/
theorem advances_of_connecting (hchain : access.chain.Reachable) :
    v.Advances status ((v.access.chain.backlog v.filter).length + 2)
      { v with
        session := v.session.loseLink, condition := some .connectionLost, backoff := backoff
        draws := draws, phase := .connecting, access := access, clock := clock } := by
  let u : Watch := { v with
    session := v.session.loseLink, condition := some .connectionLost, backoff := backoff
    draws := draws, phase := .connecting, access := access, clock := clock }
  have hstatus : access.chain.statusOf v.session.loseLink.game = some status := by
    rw [hagrees.statusOf_eq]
    exact hv.attends.statusOf_eq
  have hstep := step?_of_connecting (w := u) hv.attends.isKilled_eq hv.attends.outbox_eq rfl
  rw [connect_eq (w := u) (hagrees.subscribeFault_eq.trans hv.subscribeFault_eq)
    (hagrees.statusFault_eq.trans hv.attends.statusFault_eq) hstatus] at hstep
  -- The link of `v` was live, so that losing it and reading the status again leads
  -- back to the session of `v`, apart from its status and the requests it holds back.
  obtain ⟨current, hseed⟩ := Session.seed_awaitBacklog_loseLink hv.isCurrent.link_eq hv.isKnown
  have hproceeds := Session.proceeds_seed (s := v.session.loseLink.awaitBacklog)
    (S := {e | e ∈ []}) hv.isKnown (by simp)
  rw [hseed] at hproceeds
  rw [show u.session.awaitBacklog.seed status = _ from hseed] at hstep
  have hholds := Chain.holds_subscribe hchain v.filter
  rw [hagrees.backlog_eq] at hholds
  exact ⟨_, _, hstep, rfl, Nat.lt_succ_self _, .replaying ⟨hagrees.subscribeFault_eq,
    hagrees.statusFault_eq, hagrees.history_eq, hagrees.statusOf_eq⟩ hholds rfl hproceeds⟩

/-- An item of the backlog, or the mark at the end of it, is taken in. -/
theorem advances_of_item {d : Chain} {feed' n : Nat} {s : Session} {item : Item}
    (hnext : access.chain.next feed' = (d, .item item)) (hgame : s.game = v.session.game)
    (hlost : (s.receive item).2 ≠ .disconnected)
    (hback : ∀ access', v.access.Agrees access' → access'.chain = d → ∃ m < n,
      Returns v status m { v with
        session := (s.digest status item).1, condition := none, backoff := backoff
        draws := draws, phase := .following feed', outbox := (s.digest status item).2
        access := access', clock := clock }) :
    v.Advances status n
      { v with
        session := s, condition := none, backoff := backoff, draws := draws
        phase := .following feed', outbox := none, access := access, clock := clock } := by
  have hagrees' := hagrees.next hnext
  let u : Watch := { v with
    session := s, condition := none, backoff := backoff, draws := draws
    phase := .following feed', outbox := none, access := access, clock := clock }
  have hstep := step?_of_item (w := u) hv.attends.isKilled_eq rfl rfl hnext
  have hstatus : d.statusOf s.game = some status := by
    rw [hgame, hagrees'.statusOf_eq]
    exact hv.attends.statusOf_eq
  -- The watch takes the item, and reads the status in
  -- doing so if an epoch begins. It is the same one.
  let u' : Watch := { u with access := { access with chain := d } }
  obtain ⟨reads, htake⟩ : ∃ reads, u'.take feed' item = { u' with
      session := (s.digest status item).1
      outbox := (s.digest status item).2
      access := { u'.access with reads := reads } } :=
    take_eq_digest u' rfl rfl (hagrees.statusFault_eq.trans hv.attends.statusFault_eq) hstatus hlost
  rw [show Watch.take _ _ _ = _ from htake] at hstep
  obtain ⟨m, hm, hreturns⟩ := hback { access with chain := d, reads := reads }
    ⟨hagrees'.subscribeFault_eq, hagrees'.statusFault_eq, hagrees'.history_eq,
      hagrees'.statusOf_eq⟩ rfl
  exact ⟨_, m, hstep, rfl, hm, hreturns⟩

/-- A watch that is told the backlog again takes in the next entry, and is back when there
    is none. -/
theorem advances_of_replaying {feed' : Nat} {current : Status} {taken es : List Entry}
    (hholds : access.chain.Holds feed' v.filter (es.map .entry ++ [.caughtUp]))
    (hbacklog : v.access.chain.backlog v.filter = taken ++ es)
    (hproceeds : (v.session.heldAt current).Proceeds status {e | e ∈ taken}) :
    v.Advances status (es.length + 1)
      { v with
        session := v.session.heldAt current, condition := none, backoff := backoff
        draws := draws, phase := .following feed', outbox := none, access := access
        clock := clock } := by
  cases es with
  | nil =>
    -- The same entries have moved the status to where it was.
    rw [List.append_nil] at hbacklog
    have hcurrent : current = v.session.status :=
      hv.proceeds.status_unique (t := v.session.heldAt current) (hbacklog ▸ hproceeds) rfl rfl
    have hdigest : (v.session.heldAt current).digest status .caughtUp = (v.session, none) := by
      rw [Session.digest_caughtUp, hcurrent]
      exact Session.catchUp_heldAt hv.isGrounded.session.isPrompt hv.isCurrent.isKnown hv.holding_eq
    obtain ⟨hnext, hidle⟩ := hholds.next
    refine advances_of_item hv hagrees hnext rfl (by simp [Session.receive_eq_disconnected_iff])
      fun access' hagrees' hchain => ⟨0, Nat.succ_pos _, ?_⟩
    rw [hdigest]
    rw [← hchain] at hidle
    exact .back hagrees' hidle
  | cons e es =>
    -- The entry was taken in before, so there is nothing to learn from it.
    have hreflects : v.session.facts.Reflects e := hv.tracks.reflects e (by simp [hbacklog])
    obtain ⟨next, hs, hreset, hquiet⟩ :=
      Session.apply_heldAt current hv.isGrounded.session.isCoherent hreflects
    have hdigest : (v.session.heldAt current).digest status (.entry e) =
        (v.session.heldAt next, none) := by
      have hreset' : ((v.session.heldAt current).receive (.entry e)).2 ≠ .reset := hreset
      rw [Session.digest_of_ne_reset hreset']
      exact Prod.ext hs hquiet
    have htaken : {e' | e' ∈ taken ++ [e]} = insert e {e' | e' ∈ taken} := by
      ext e'
      simp [or_comm]
    have hproceeds' := hproceeds.apply hv.isKnown hreset
    rw [hs, ← htaken] at hproceeds'
    obtain ⟨hnext, hrest⟩ := hholds.next
    refine advances_of_item hv hagrees hnext rfl (by simp [Session.receive_eq_disconnected_iff])
      fun access' hagrees' hchain => ⟨es.length + 1, Nat.lt_succ_self _, ?_⟩
    rw [hdigest]
    rw [← hchain] at hrest
    exact .replaying hagrees' hrest (by rw [hbacklog]; simp) hproceeds'

end Stages

/-- A watch on its way back takes a step that brings it nearer to the end, unless it is
    back or waits until it may try again. -/
theorem Returns.step (h : Returns v status n u) (hv : v.IsSettled feed status)
    (hu : u.IsGrounded) : v.Advances status n u ∨ u.step? = none ∧
      (n = 0 ∨ n = (v.access.chain.backlog v.filter).length + 3 ∧
        ∃ due, u.phase = .waiting due ∧ u.clock < due) := by
  cases h with
  | cut hagrees hnext => exact .inl (advances_of_cut hv hagrees hnext)
  | @waiting access backoff draws due clock hagrees hdue =>
    have hstep := step?_of_wait (w := { v with
      session := v.session.loseLink, condition := some .connectionLost, backoff := backoff
      draws := draws, phase := .waiting due, access := access, clock := clock })
      hv.attends.isKilled_eq hv.attends.outbox_eq rfl hv.attends.waiting_eq hv.attends.isOpen_eq
    -- Only a wait that is not over, and the feed when it has
    -- nothing more to say, leave the watch without a step.
    by_cases hover : due ≤ clock
    · rw [if_pos hover] at hstep
      exact .inl ⟨_, _, hstep, rfl, Nat.lt_succ_self _, .connecting hagrees⟩
    · rw [if_neg hover] at hstep
      exact .inr ⟨hstep, .inr ⟨rfl, due, rfl, Nat.not_le.1 hover⟩⟩
  | connecting hagrees => exact .inl (advances_of_connecting hv hagrees hu.chain)
  | replaying hagrees hholds hbacklog hproceeds =>
    exact .inl (advances_of_replaying hv hagrees hholds hbacklog hproceeds)
  | @back access backoff draws clock feed' hagrees hidle =>
    have hstep := step?_of_pending (w := { v with
      condition := none, backoff := backoff, draws := draws, phase := .following feed'
      outbox := none, access := access, clock := clock })
      hv.attends.isKilled_eq rfl rfl hidle.next_eq
    exact .inr ⟨hstep.trans (serveNext?_eq_none hv.attends.waiting_eq hv.attends.isOpen_eq), .inl rfl⟩

/-! ## Runs -/

theorem Undisturbed.leads (h : w.Undisturbed u) : w.Leads u := by
  induction h with
  | refl => exact .refl
  | step _ hstep ih => exact .step ih hstep
  | elapse d _ ih => exact .accept (.elapse d) ih

theorem Undisturbed.trans (h : w.Undisturbed u) (h' : u.Undisturbed v) : w.Undisturbed v := by
  induction h' with
  | refl => exact h
  | step _ hstep ih => exact .step ih hstep
  | elapse d _ ih => exact .elapse d ih

theorem RestsAfter.undisturbed (h : RestsAfter v n w) : w.Undisturbed v := by
  induction h with
  | rest _ => exact .refl
  | step hstep _ ih => exact (Undisturbed.refl.step (.step hstep)).trans ih

namespace Returns

variable (hv : v.IsSettled feed status)

theorem elapse (h : Returns v status n u) (d : Duration) :
    Returns v status n (u.accept (.elapse d)) := by
  cases h with
  | cut hagrees hnext => exact .cut hagrees hnext
  | waiting hagrees hdue =>
    exact .waiting hagrees (hdue.trans (Nat.add_le_add_right (Nat.le_add_right _ d) _))
  | connecting hagrees => exact .connecting hagrees
  | replaying hagrees hholds hbacklog hproceeds =>
    exact .replaying hagrees hholds hbacklog hproceeds
  | back hagrees hidle => exact .back hagrees hidle

theorem resume {due : Duration} (h : Returns v status n u) (hphase : u.phase = .waiting due) :
    ∃ m, Returns v status m { u with phase := .connecting } := by
  cases h with
  | waiting hagrees _ => exact ⟨_, .connecting hagrees⟩
  | _ => cases hphase

include hv in
/-- A watch on its way back stays on it. -/
theorem undisturbed (h : Returns v status n w) (hw : w.IsGrounded) (hu : w.Undisturbed u) :
    ∃ m, Returns v status m u := by
  induction hu with
  | refl => exact ⟨n, h⟩
  | @step u u' hu hstep ih =>
    obtain ⟨m, hm⟩ := ih
    -- A step is determined, hence it is the one that brings the watch closer to its feed.
    cases hstep with
    | step hstep =>
      rcases hm.step hv (isGrounded_leads hw hu.leads) with ⟨u'', m', hstep', -, -, hm'⟩ | ⟨hrest, -⟩
      · rw [hstep] at hstep'
        cases hstep'
        exact ⟨m', hm'⟩
      · rw [hstep] at hrest
        cases hrest
    | resume hphase => exact hm.resume hphase
  | elapse d _ ih =>
    obtain ⟨m, hm⟩ := ih
    exact ⟨m, hm.elapse d⟩

include hv in
/-- It asks for nothing. -/
theorem quiet (h : Returns v status n u) : u.outbox = none ∧ u.outlet = v.outlet := by
  cases h with
  | replaying => exact ⟨rfl, rfl⟩
  | back => exact ⟨rfl, rfl⟩
  | _ => exact ⟨hv.attends.outbox_eq, rfl⟩

/-- It is back when no step is before it. -/
theorem eq_of_zero (h : Returns v status 0 u) : u.session = v.session ∧ u.condition = none ∧
    ∃ feed, u.phase = .following feed := by
  generalize hn : 0 = n at h
  cases h with
  | back => exact ⟨rfl, rfl, _, rfl⟩
  | _ => omega

include hv in
/-- It is back when it waits for a feed. -/
theorem zero_of_awaitsFeed (h : Returns v status n u) (hu : u.IsGrounded) (hrest : u.AwaitsFeed) :
    n = 0 := by
  rcases h.step hv hu with ⟨u', m, hstep, -⟩ | ⟨-, hzero | ⟨-, due, hwaiting, -⟩⟩
  · rw [hrest.step] at hstep
    cases hstep
  · exact hzero
  · obtain ⟨feed', hphase⟩ := hrest.following
    rw [hwaiting] at hphase
    cases hphase

theorem due_le {due : Duration} (h : Returns v status n u) (hphase : u.phase = .waiting due) :
    due ≤ u.clock + (v.backoff.next v.draws).1 := by
  cases h with
  | waiting _ hdue =>
    cases hphase
    exact hdue
  | _ => cases hphase

theorem history_eq (h : Returns v status n u) : u.access.chain.history = v.access.chain.history := by
  cases h with
  | cut hagrees _ => exact hagrees.history_eq
  | waiting hagrees _ => exact hagrees.history_eq
  | connecting hagrees => exact hagrees.history_eq
  | replaying hagrees _ _ _ => exact hagrees.history_eq
  | back hagrees _ => exact hagrees.history_eq

/-- There is room for all the steps that are before it. -/
theorem settle_eq {k : Nat} (h : Returns v status n u) (hrests : RestsAfter u' k u) (hk : k ≤ n) :
    u.settle = u' := by
  have hlength : (v.access.chain.backlog v.filter).length ≤ v.access.chain.history.length :=
    List.length_filter_le _ _
  refine hrests.settle_eq ?_
  rw [h.history_eq]
  cases h with
  | @replaying _ _ _ _ _ _ taken es _ _ hbacklog _ =>
    rw [hbacklog, List.length_append] at hlength
    omega
  | _ => omega

include hv in
/-- It comes to rest by itself: it is back, or waits until it may try again. -/
theorem rests (h : Returns v status n u) (hu : u.IsGrounded) :
    ∃ u' k m, RestsAfter u' k u ∧ k ≤ n ∧ u'.clock = u.clock ∧ Returns v status m u' ∧
      (u' = u ∨ m < n) ∧ m ≤ n ∧
      (m = 0 ∨ m = (v.access.chain.backlog v.filter).length + 3 ∧
        ∃ due, u'.phase = .waiting due ∧ u'.clock < due) := by
  -- Each step leads to a stage that is nearer to the end.
  induction n using Nat.strong_induction_on generalizing u with
  | _ n ih =>
    rcases h.step hv hu with ⟨u', m, hstep, hclock, hm, hreturns⟩ | ⟨hrest, hend⟩
    · obtain ⟨u'', k, m', hrests, hk, hclock', hreturns', -, hm', hend⟩ :=
        ih m hm hreturns (hu.move (Step.step hstep).move)
      exact ⟨u'', k + 1, m', .step hstep hrests, by omega, hclock'.trans hclock, hreturns',
        .inr (by omega), by omega, hend⟩
    · exact ⟨u, 0, n, .rest hrest, Nat.zero_le n, rfl, h, .inl rfl, le_rfl, hend⟩

include hv in
/-- When its wait is over, it comes back by itself. -/
theorem rests_of_due {due : Duration} (h : Returns v status n u) (hu : u.IsGrounded)
    (hphase : u.phase = .waiting due) (hdue : due ≤ u.clock) :
    ∃ u' k, RestsAfter u' k u ∧ k ≤ n ∧ u'.clock = u.clock ∧ Returns v status 0 u' := by
  obtain ⟨u', k, m, hrests, hk, hclock, hreturns, hmoves, -, hend⟩ := h.rests hv hu
  rcases hend with rfl | ⟨hm, due', hphase', hlt⟩
  · exact ⟨u', k, hrests, hk, hclock, hreturns⟩
  -- No other wait begins on the way.
  · exfalso
    rcases hmoves with rfl | hlt'
    · cases hphase.symm.trans hphase'
      exact absurd hdue (Nat.not_le.2 hlt)
    · cases h with
      | waiting _ _ => omega
      | _ => cases hphase

include hv in
theorem awaitsFeed (h : Returns v status 0 u) (hu : u.IsGrounded) : u.AwaitsFeed where
  following := h.eq_of_zero.2.2
  outbox := (h.quiet hv).1
  step := by
    rcases h.step hv hu with ⟨u', m, -, -, hm, -⟩ | ⟨hrest, -⟩
    · exact absurd hm (Nat.not_lt_zero m)
    · exact hrest

/-- A watch that comes back by itself lets the time pass then. -/
theorem advanceWithin {k m : Nat} {time : Duration} (h : Returns v status n u)
    (hrests : RestsAfter u' m u) (hm : m ≤ n) (hback : Returns v status 0 u')
    (htime : u'.clock ≤ time) :
    u.Undisturbed (Watch.advanceWithin (k + 1) time u) ∧
      Returns v status 0 (Watch.advanceWithin (k + 1) time u) := by
  obtain ⟨-, -, feed', hphase⟩ := hback.eq_of_zero
  have hlater : ({ u' with clock := time } : Watch) = u'.accept (.elapse (time - u'.clock)) := by
    rw [accept, Nat.add_sub_cancel' htime]
  rw [advanceWithin_of_following (h.settle_eq hrests hm) hphase, hlater]
  exact ⟨.elapse _ hrests.undisturbed, hback.elapse _⟩

end Returns

namespace IsSettled

variable (hv : v.IsSettled feed status)
include hv

/-- When the connection of a watch at rest is lost, it is on its way back. -/
theorem returns : Returns v status ((v.access.chain.backlog v.filter).length + 4)
    (v.accept (.happen .disconnect)) := by
  obtain ⟨d, hnext, -⟩ := hv.isIdle.next_disconnect
  have hcut : v.accept (.happen .disconnect) = { v with
      phase := .following feed
      access := { v.access with chain := (v.access.chain.undergo .disconnect).1 }
      clock := v.clock } := by
    rw [← hv.attends.phase_eq]
    rfl
  rw [hcut]
  exact .cut ⟨rfl, rfl, rfl, rfl⟩ hnext

/-- After the delay, the watch is back. -/
theorem returns_advance {d : Duration} (hd : (v.backoff.next v.draws).1 ≤ d) :
    (v.accept (.happen .disconnect)).Undisturbed
        ((v.accept (.happen .disconnect)).advance d) ∧
      Returns v status 0 ((v.accept (.happen .disconnect)).advance d) := by
  have hx := hv.returns
  have hgrounded := hv.isGrounded.accept (.happen .disconnect)
  generalize v.accept (.happen .disconnect) = x at *
  obtain ⟨u, k, m, hrests, hk, hclock, hu, -, -, hend⟩ := hx.rests hv hgrounded
  rw [advance]
  rcases hend with rfl | ⟨-, due, hphase, hlt⟩
  · exact hx.advanceWithin hrests hk hu (hclock ▸ Nat.le_add_right _ _)
  -- The watch waits, tries again when the delay is over, and waits for its feed then.
  · have hdue : due ≤ x.clock + d := by
      rw [← hclock]
      exact (hu.due_le hphase).trans (Nat.add_le_add_left hd _)
    have hgroundedu := isGrounded_leads hgrounded hrests.undisturbed.leads
    have hlater : ({ u with clock := due } : Watch) = u.accept (.elapse (due - u.clock)) := by
      rw [accept, Nat.add_sub_cancel' hlt.le]
    rw [advanceWithin_of_waiting (hx.settle_eq hrests hk) hphase hlt hdue, hlater]
    have hy := hu.elapse (due - u.clock)
    have hclocky : (u.accept (.elapse (due - u.clock))).clock = due := Nat.add_sub_cancel' hlt.le
    obtain ⟨u', k', hrests', hk', hclock', hu'⟩ :=
      hy.rests_of_due hv (hgroundedu.accept (.elapse (due - u.clock))) hphase hclocky.ge
    obtain ⟨hundisturbed, hback⟩ :=
      hy.advanceWithin (k := d / Duration.millisecond) hrests' hk' hu'
        (hclock'.trans hclocky |>.trans_le hdue)
    exact ⟨(Undisturbed.elapse _ hrests.undisturbed).trans hundisturbed, hback⟩

end IsSettled

/-! ## Coming back -/

/-- A watch that waits for its feed is settled, if it can reach its chain and the status is
    the one that was read last. -/
theorem Lossless.isSettled (hw : w.IsNew) (hv : w.Lossless v (some status)) (hrest : v.AwaitsFeed)
    (hordered : v.IsOrdered) (hknown : status.isKnown = true)
    (hstatus : v.access.chain.statusOf v.session.game = some status)
    (hsubscribe : v.access.subscribeFault = none) (hread : v.access.statusFault = none) :
    ∃ feed, v.IsSettled feed status := by
  obtain ⟨feed, hphase, hidle, htracks⟩ := hv.tracks hw hrest hordered
  obtain ⟨hkilled, -, hwaiting, hopen⟩ := hrest.awaitsRequests.1
  have hattends : v.Attends feed status :=
    ⟨hphase, hkilled, hrest.outbox, htracks.condition_eq, hwaiting, hopen, hread, hstatus⟩
  exact ⟨feed, hattends, isGrounded_leads hw.isGrounded hv.leads, hidle, hsubscribe, hknown, htracks⟩

/-- Losing the connection leaves no trace. Take a watch that waits for its feed, after a run
    in which the feed had room for all that it was offered and the entries were delivered in
    the order of their positions. If the chain still reports the status that was read last,
    and can be reached, then the watch shows a live link and no condition; whatever it does
    by itself after a disconnection, it asks for nothing, and whenever it waits for a feed
    again, its session is the same and it shows the same; and it does so after the delay. -/
theorem session_eq_of_disconnect (hw : w.IsNew) (hv : w.Lossless v (some status))
    (hrest : v.AwaitsFeed) (hordered : v.IsOrdered) (hknown : status.isKnown = true)
    (hstatus : v.access.chain.statusOf v.session.game = some status)
    (hsubscribe : v.access.subscribeFault = none) (hread : v.access.statusFault = none) :
    v.session.link = .live ∧ v.condition = none ∧
    (∀ u, (v.accept (.happen .disconnect)).Undisturbed u →
      u.outbox = none ∧ u.outlet = v.outlet ∧
        (u.AwaitsFeed → u.session = v.session ∧ u.snapshot = v.snapshot)) ∧
    ∀ d, (v.backoff.next v.draws).1 ≤ d →
      (v.accept (.happen .disconnect)).Undisturbed
          ((v.accept (.happen .disconnect)).advance d) ∧
        ((v.accept (.happen .disconnect)).advance d).AwaitsFeed := by
  obtain ⟨feed, hsettled⟩ := hv.isSettled hw hrest hordered hknown hstatus hsubscribe hread
  have hgrounded := hsettled.isGrounded.accept (.happen .disconnect)
  refine ⟨hsettled.isCurrent.link_eq, hsettled.attends.condition_eq, fun u hu => ?_,
    fun d hd => ?_⟩
  · obtain ⟨n, hreturns⟩ := hsettled.returns.undisturbed hsettled hgrounded hu
    obtain ⟨houtbox, houtlet⟩ := hreturns.quiet hsettled
    refine ⟨houtbox, houtlet, fun hawaits => ?_⟩
    -- A watch that waits for its feed has no step left, so it has come all the way back.
    have hzero := hreturns.zero_of_awaitsFeed hsettled (isGrounded_leads hgrounded hu.leads) hawaits
    rw [hzero] at hreturns
    obtain ⟨hs, hcondition, -⟩ := hreturns.eq_of_zero
    refine ⟨hs, ?_⟩
    rw [snapshot, snapshot, hs, hcondition, hsettled.attends.condition_eq]
  · obtain ⟨hundisturbed, hback⟩ := hsettled.returns_advance hd
    exact ⟨hundisturbed,
      hback.awaitsFeed hsettled (isGrounded_leads hgrounded hundisturbed.leads)⟩

/-- The joiner comes back to the epoch that a rematch began, asked for the second time. -/
theorem session_eq_of_disconnect_rematch :
    ∃ w v : Watch, ∃ d, w.IsNew ∧ w.Lossless v (some .shuffling) ∧ v.AwaitsFeed ∧
      v.session.floor = some ⟨6, 0⟩ ∧ v.session.joinerAsked = true ∧
      v.outlet.queue.length = 2 ∧
      ((v.accept (.happen .disconnect)).advance d).AwaitsFeed ∧
      ((v.accept (.happen .disconnect)).advance d).access.chain.opened = 2 ∧
      ((v.accept (.happen .disconnect)).advance d).outlet = v.outlet ∧
      ((v.accept (.happen .disconnect)).advance d).session = v.session := by
  let w := create (Session.fresh ⟨7⟩ ⟨.fill 0xc1, .fill 0x01⟩ .joiner)
    (.ofRange 1000000 1000000) .empty (.ofCapacity 4) []
  let started := (w.accept (.happen (.setStatus ⟨7⟩ .shuffling))).accept .start
  let connected := settleWithin 1 started
  let shuffled := settleWithin 3
    (connected.accept (.happen (.deliver ⟨⟨5, 0⟩, .shuffled ⟨7⟩ (.fill 0xc1)⟩)))
  let reset := settleWithin 1 (shuffled.accept (.happen (.deliver ⟨⟨6, 0⟩, .rematch ⟨7⟩⟩)))
  let v := settleWithin 2
    (reset.accept (.happen (.deliver ⟨⟨7, 0⟩, .shuffled ⟨7⟩ (.fill 0xc1)⟩)))
  have hw : w.IsNew := .create _ _ _
    (show Setup.session ⟨some ⟨7⟩, some (.fill 0xc1), some (.fill 0x01), some (.fill 0x01)⟩ =
      .ok _ from rfl) .empty
  -- The joiner acts in two epochs, between which the status is read again.
  -- Nothing is lost on the way, as the feed is settled after each entry.
  have hstarted : w.Lossless started none :=
    (Lossless.refl.accept _ (by decide +kernel)).accept _ (by decide +kernel)
  have hconnected : w.Lossless connected (some .shuffling) :=
    hstarted.read_settleWithin (by decide +kernel) (by decide +kernel) (by decide +kernel)
  have hshuffled : w.Lossless shuffled (some .shuffling) :=
    (hconnected.accept _ (by decide +kernel)).settleWithin 3 (by decide +kernel)
  have hreset : w.Lossless reset (some .shuffling) :=
    (hshuffled.accept _ (by decide +kernel)).read_settleWithin (by decide +kernel)
      (by decide +kernel) (by decide +kernel)
  have hv : w.Lossless v (some .shuffling) :=
    (hreset.accept _ (by decide +kernel)).settleWithin 2 (by decide +kernel)
  have hrest : v.AwaitsFeed :=
    { following := ⟨0, by decide +kernel⟩
      outbox := by decide +kernel
      step := Option.isNone_iff_eq_none.1 (by decide +kernel) }
  obtain ⟨-, -, hquiet, hback⟩ := session_eq_of_disconnect hw hv hrest (by decide +kernel) rfl
    (by decide +kernel) (by decide +kernel) (by decide +kernel)
  obtain ⟨hundisturbed, hawaits⟩ := hback 1000000 (by decide +kernel)
  obtain ⟨-, houtlet, hsame⟩ := hquiet _ hundisturbed
  exact ⟨w, v, 1000000, hw, hv, hrest, by decide +kernel, by decide +kernel, by decide +kernel,
    hawaits, by decide +kernel, houtlet, (hsame hawaits).1⟩

end Watch

end ShuffleWatch
