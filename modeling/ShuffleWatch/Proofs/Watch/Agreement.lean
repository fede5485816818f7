import ShuffleWatch.Proofs.Watch.Rest

/-!
# Agreement with the chain

Whenever a watch waits for its feed, the facts of its session are those of the
chain: the floor is the latest rematch in the history, and the recorded shuffles
are the latest ones above it (`facts_eq_of_awaitsFeed`). The feed may be lost and
the session may begin anew any number of times before, in any order.

A feed has room for so many items besides its backlog (`liveCapacity`), and drops
what finds no room. So the runs considered are those that are *paced*: the watch
comes to rest before its feed is offered more than that (`Paced`). Then of every
entry in the history, the session has either learned, or it still waits in the
feed (`KeepsUp`), and when nothing waits any more, the session has learned of all.
-/

namespace ShuffleWatch.Watch

open Position (latest latestAbove isAbove)

/-- The feed that the watch follows, if the chain still delivers to it. -/
def liveFeed? (w : Watch) : Option Subscription :=
  match w.phase with
  | .following feed => (w.access.chain.subscription? feed).filter (·.isLive)
  | _ => none

/-- The number of items that an input offers to the live feed of the watch. -/
def offers (w : Watch) (input : Input) : Nat :=
  match w.liveFeed?, input.happening? with
  | some sub, some h => (w.access.chain.offered? sub.filter h).toList.length
  | _, _ => 0

/-- The watch has nothing to do but to wait for its feed, and for requests. One that
    a full outlet holds up does not wait for its feed. -/
structure AwaitsFeed (w : Watch) : Prop where
  following : ∃ feed, w.phase = .following feed
  outbox : w.outbox = none
  step : w.step? = none

/-- The watches to which runs lead that never offer more to the live feed than it
    has room for, from one rest to the next, and the number of items that were
    offered since the last rest. The watch rests when it waits for its feed, or
    has no live feed. -/
inductive Paced (w : Watch) : Watch → Nat → Prop
  | refl : Paced w w 0
  | step {u v : Watch} {n : Nat} : Paced w u n → Step u v → Paced w v n
  | accept {u : Watch} {n : Nat} (input : Input) : Paced w u n →
      n + u.offers input ≤ liveCapacity → Paced w (u.accept input) (n + u.offers input)
  | rest {u : Watch} {n : Nat} : Paced w u n → u.AwaitsFeed ∨ u.liveFeed? = none → Paced w u 0

/-- The feed has dropped nothing, after so many items were offered since the last
    rest: what the session has not learned waits in it. -/
structure IsComplete (w : Watch) (n : Nat) (sub : Subscription) : Prop where
  liveCapacity_le : liveCapacity ≤ sub.capacity
  length_le : sub.queue.length + liveCapacity ≤ sub.capacity + n
  reflects : ∀ e ∈ w.access.chain.history, w.session.facts.Reflects e ∨ .entry e ∈ sub.queue

/-- The live feed of the watch has dropped nothing. -/
def KeepsUp (w : Watch) (n : Nat) : Prop := ∀ sub, w.liveFeed? = some sub → w.IsComplete n sub

variable {u v w : Watch} {feed n : Nat} {sub : Subscription} {item : Item} {input : Input}

theorem liveFeed?_eq_some_iff : w.liveFeed? = some sub ↔ ∃ feed, w.phase = .following feed ∧
    w.access.chain.subscription? feed = some sub ∧ sub.isLive = true := by
  rw [liveFeed?]
  split
  · rename_i feed hphase
    rw [Option.filter_eq_some_iff]
    constructor
    · rintro ⟨hsub, hlive⟩
      exact ⟨feed, hphase, hsub, hlive⟩
    · rintro ⟨feed', hfeed, hsub, hlive⟩
      rw [hphase] at hfeed
      cases hfeed
      exact ⟨hsub, hlive⟩
  · rename_i hne
    constructor
    · intro h
      cases h
    · rintro ⟨feed, hfeed, -⟩
      exact absurd hfeed (hne feed)

theorem Paced.leads (h : w.Paced v n) : w.Leads v := by
  induction h with
  | refl => exact .refl
  | step _ hstep ih => exact .step ih hstep
  | accept input _ _ ih => exact .accept input ih
  | rest _ _ ih => exact ih

/-- What the watch does by itself offers nothing to its feed. -/
theorem Paced.settleWithin (h : w.Paced v n) (k : Nat) : w.Paced (settleWithin k v) n := by
  induction k generalizing v with
  | zero => exact h
  | succ k ih =>
    rw [Watch.settleWithin]
    split
    · exact h
    · rename_i u hu
      exact ih (.step h (.step hu))

/-! ## Steps -/

/-- A new feed is complete: the whole history waits in it, as far as it matters. -/
theorem isComplete_feed (hhistory : v.access.chain.history = w.access.chain.history)
    (hgame : v.session.game = w.session.game) :
    v.IsComplete n (w.access.chain.feed w.filter) where
  liveCapacity_le := Nat.le_add_left _ _
  length_le := by
    have hlength : (w.access.chain.feed w.filter).queue.length =
        (w.access.chain.backlog w.filter).length + 1 := by
      simp [Chain.feed]
    have hcapacity : (w.access.chain.feed w.filter).capacity =
        (w.access.chain.backlog w.filter).length + 1 + liveCapacity := rfl
    omega
  reflects e he := by
    rw [hhistory] at he
    by_cases hadmits : w.filter.admits e.event = true
    · exact .inr (mem_queue_feed_iff.2 ⟨he, hadmits⟩)
    · left
      intro hevent
      exact absurd (admits_filter_iff.2 (hevent.trans hgame)) hadmits

/-- A feed stays complete when an item is taken from it, which the session learns. -/
theorem IsComplete.next {rest : List Item} (h : w.IsComplete n sub)
    (hc : w.session.facts.IsCoherent) (hqueue : sub.queue = item :: rest)
    (hhistory : v.access.chain.history = w.access.chain.history)
    (hfacts : v.session.facts = (w.session.receive item).1.facts) :
    v.IsComplete n { sub with queue := rest } where
  liveCapacity_le := h.liveCapacity_le
  length_le := by
    have hlength := h.length_le
    rw [hqueue, List.length_cons] at hlength
    change rest.length + liveCapacity ≤ sub.capacity + n
    omega
  reflects e he := by
    rw [hhistory] at he
    rw [hfacts]
    rcases h.reflects e he with hold | hwaits
    · exact .inl (hold.receive hc)
    · rw [hqueue] at hwaits
      rcases List.mem_cons.1 hwaits with rfl | hrest
      · exact .inl (Session.reflects_apply hc)
      · exact .inr hrest

theorem KeepsUp.move (hw : w.IsGrounded) (h : w.KeepsUp n) (hm : w.Move v) : v.KeepsUp n := by
  have hhistory := hm.serves.history_eq
  have hgame := hm.game_eq
  intro sub hsub
  obtain ⟨feed, hfeed, hsub, hlive⟩ := liveFeed?_eq_some_iff.1 hsub
  -- Adopting a status after the item has no part in the facts.
  have hnext : ∀ {feed' item}, w.phase = .following feed' → v.phase = .following feed' →
      w.access.chain.next feed' = (v.access.chain, .item item) →
      v.session.facts = (w.session.receive item).1.facts → v.IsComplete n sub := by
    intro feed' item hphase hphase' hnext hfacts
    rw [hphase'] at hfeed
    cases hfeed
    obtain ⟨sub', rest, hsub', hqueue, hrest, -⟩ := Chain.next_eq_item hnext
    rw [hrest] at hsub
    cases hsub
    have hlive' := liveFeed?_eq_some_iff.2 ⟨feed, hphase, hsub', hlive⟩
    exact (h sub' hlive').next hw.session.isCoherent hqueue hhistory hfacts
  cases hm with
  | attach _ hphase hchain _ _ =>
    rw [hphase] at hfeed
    cases hfeed
    rw [hchain, Chain.subscription?_subscribe hw.chain] at hsub
    cases hsub
    exact isComplete_feed hhistory hgame
  | take _ hphase hphase' hitem hs _ =>
    exact hnext hphase hphase' hitem (congrArg Session.facts hs)
  | resync _ hphase hphase' hitem hs _ =>
    refine hnext hphase hphase' hitem ?_
    rw [hs]
    exact Session.facts_seed _
  | stay hphase hchain hs _ =>
    rw [hphase] at hfeed
    rw [hchain] at hsub
    obtain ⟨hcapacity, hlength, hreflects⟩ :=
      h sub (liveFeed?_eq_some_iff.2 ⟨feed, hfeed, hsub, hlive⟩)
    refine ⟨hcapacity, hlength, ?_⟩
    rw [hhistory, hs]
    exact hreflects
  | leave _ hphase _ _ _ _ => exact absurd hfeed (hphase feed)

/-! ## Inputs -/

theorem offers_of_happening {h : Chain.Happening} (hsub : w.liveFeed? = some sub)
    (hh : input.happening? = some h) :
    w.offers input = (w.access.chain.offered? sub.filter h).toList.length := by
  rw [offers, hsub, hh]

/-- A complete feed with room for what it is offered stays complete. -/
theorem IsComplete.relay {h : Chain.Happening} {m : Nat} (hsub : w.IsComplete n sub)
    (hlive : sub.isLive = true) (hfilter : sub.filter = w.filter)
    (hm : m = (w.access.chain.offered? sub.filter h).toList.length) (hroom : n + m ≤ liveCapacity)
    (hchain : v.access.chain = (w.access.chain.undergo h).1) (hs : v.session = w.session) :
    v.IsComplete (n + m) (w.access.chain.relay h sub) := by
  obtain ⟨hcapacity, hlength, hreflects⟩ := hsub
  have hqueue : (w.access.chain.relay h sub).queue =
      sub.queue ++ (w.access.chain.offered? sub.filter h).toList :=
    Chain.queue_relay_of_room hlive (by omega)
  refine ⟨?_, ?_, fun e he => ?_⟩
  · rw [Chain.capacity_relay]
    exact hcapacity
  · rw [Chain.capacity_relay, hqueue, List.length_append, ← hm]
    omega
  · rw [hs]
    rw [hchain, Chain.history_undergo] at he
    rw [hqueue]
    rcases List.mem_append.1 he with hold | hnew
    · exact (hreflects e hold).imp id (List.mem_append_left _)
    -- A new entry is offered, or is of another game.
    · rw [Option.mem_toList] at hnew
      by_cases hadmits : sub.filter.admits e.event = true
      · right
        rw [Chain.offered?_of_logged? hnew hadmits]
        exact List.mem_append_right _ (List.mem_singleton_self _)
      · left
        intro hgame
        rw [hfilter] at hadmits
        exact absurd (admits_filter_iff.2 hgame) hadmits

/-- An input for which there is room keeps the feed complete. -/
theorem KeepsUp.accept (hw : w.IsGrounded) (h : w.KeepsUp n)
    (hroom : n + w.offers input ≤ liveCapacity) :
    (w.accept input).KeepsUp (n + w.offers input) := by
  have hs := (accept_frame w input).session_eq
  have hchain := (accept_frame w input).chain_eq
  intro sub hsub
  obtain ⟨feed, hfeed, hsub, hlive⟩ := liveFeed?_eq_some_iff.1 hsub
  rw [following_accept_iff] at hfeed
  cases hh : input.happening? with
  | none =>
    rw [hh, Option.elim_none] at hchain
    rw [hchain] at hsub
    obtain ⟨hcapacity, hlength, hreflects⟩ :=
      h sub (liveFeed?_eq_some_iff.2 ⟨feed, hfeed, hsub, hlive⟩)
    refine ⟨hcapacity, by omega, ?_⟩
    rw [hchain, hs]
    exact hreflects
  | some happening =>
    rw [hh, Option.elim_some] at hchain
    rw [hchain, Chain.subscription?_undergo] at hsub
    obtain ⟨sub', hsub', rfl⟩ := Option.map_eq_some_iff.1 hsub
    have hlive' := Chain.isLive_of_isLive_relay hlive
    have hfollowed := liveFeed?_eq_some_iff.2 ⟨feed, hfeed, hsub', hlive'⟩
    obtain ⟨sub'', hsub'', hfilter, -⟩ := hw.feed feed hfeed
    rw [hsub'] at hsub''
    cases hsub''
    exact (h sub' hfollowed).relay hlive' hfilter (offers_of_happening hfollowed hh) hroom hchain hs

/-! ## Rests -/

/-- A watch that waits for its feed waits for requests, too. -/
theorem AwaitsFeed.awaitsRequests (h : w.AwaitsFeed) :
    w.AwaitsRequests ∧ ∃ feed, w.phase = .following feed ∧ (w.access.next feed).2 = .pending := by
  obtain ⟨feed, hphase⟩ := h.following
  rcases isAtRest_or_isHeldUp (by simp [hphase]) h.step with hrest | ⟨action, hbusy, -⟩
  · cases hrest with
    | feed hawaits hphase hpending => exact ⟨hawaits, _, hphase, hpending⟩
    | retry _ hwaiting _ => cases hphase.symm.trans hwaiting
    | stopped hstopped => cases hphase.symm.trans hstopped
  · cases h.outbox.symm.trans hbusy

/-- A watch that waits for its feed has found that nothing waits in it, and that it
    is live. -/
theorem AwaitsFeed.liveFeed? (h : w.AwaitsFeed) :
    ∃ sub, w.liveFeed? = some sub ∧ sub.queue = [] := by
  obtain ⟨-, feed, hphase, hpending⟩ := h.awaitsRequests
  have hnext : w.access.next feed = ((w.access.next feed).1, .pending) := Prod.ext rfl hpending
  obtain ⟨sub, hsub, hempty, hlive, -⟩ := Chain.next_eq_pending (next_eq_of_access hnext)
  exact ⟨sub, liveFeed?_eq_some_iff.2 ⟨feed, hphase, hsub, hlive⟩, hempty⟩

theorem KeepsUp.rest (h : w.KeepsUp n) (hrest : w.AwaitsFeed ∨ w.liveFeed? = none) :
    w.KeepsUp 0 := by
  intro sub hsub
  rcases hrest with hawaits | hnone
  · obtain ⟨sub', hsub', hempty⟩ := hawaits.liveFeed?
    rw [hsub] at hsub'
    cases hsub'
    obtain ⟨hcapacity, hlength, hreflects⟩ := h sub hsub
    refine ⟨hcapacity, ?_, hreflects⟩
    rw [hempty, List.length_nil]
    omega
  · rw [hnone] at hsub
    cases hsub

/-- A paced run never makes a watch miss anything. -/
theorem Paced.keepsUp (hw : w.IsNew) (h : w.Paced v n) : v.KeepsUp n := by
  induction h with
  | refl =>
    intro sub hsub
    obtain ⟨feed, hfeed, -⟩ := liveFeed?_eq_some_iff.1 hsub
    cases hw
    cases hfeed
  | step hu hstep ih => exact ih.move (isGrounded_leads hw.isGrounded hu.leads) hstep.move
  | accept input hu hroom ih => exact ih.accept (isGrounded_leads hw.isGrounded hu.leads) hroom
  | rest _ hrest ih => exact ih.rest hrest

/-- A watch that keeps up with the chain and waits for its feed accounts for the
    whole history. -/
theorem accountsFor_of_awaitsFeed (hw : w.IsNew) (hv : w.Paced v n) (h : v.AwaitsFeed) :
    v.session.facts.AccountsFor {e | e ∈ v.access.chain.history} := by
  obtain ⟨sub, hsub, hempty⟩ := h.liveFeed?
  refine ⟨(isGrounded_leads hw.isGrounded hv.leads).drawn, fun e he => ?_⟩
  refine ((hv.keepsUp hw sub hsub).reflects e he).resolve_right fun hwaits => ?_
  rw [hempty] at hwaits
  cases hwaits

/-- Whenever a watch waits for its live feed, after a run in which the feed was
    never offered more than it has room for, the facts of its session are those of
    the chain: the floor is the latest rematch of the game in the history, a player
    counts as having shuffled when the history has a shuffle of that player above
    the floor, and the recorded shuffle is the latest such. -/
theorem facts_eq_of_awaitsFeed (hw : w.IsNew) (hv : w.Paced v n) (h : v.AwaitsFeed) :
    v.session.floor =
      latest ((Event.rematch v.session.game).positionsIn v.access.chain.history) ∧
    (v.session.progress.creator = true ↔
      ∃ p, ⟨p, .shuffled v.session.game v.session.players.creator⟩ ∈ v.access.chain.history ∧
        isAbove v.session.floor p = true) ∧
    (v.session.progress.joiner = true ↔
      ∃ p, ⟨p, .shuffled v.session.game v.session.players.joiner⟩ ∈ v.access.chain.history ∧
        isAbove v.session.floor p = true) ∧
    v.session.creatorShuffle = latestAbove v.session.floor
      ((Event.shuffled v.session.game v.session.players.creator).positionsIn
        v.access.chain.history) ∧
    v.session.joinerShuffle = latestAbove v.session.floor
      ((Event.shuffled v.session.game v.session.players.joiner).positionsIn
        v.access.chain.history) := by
  have hc := (isGrounded_leads hw.isGrounded hv.leads).session.isCoherent
  have haccounts := accountsFor_of_awaitsFeed hw hv h
  have hcreator : v.session.creatorShuffle = latestAbove v.session.floor
      ((Event.shuffled v.session.game v.session.players.creator).positionsIn
        v.access.chain.history) := by
    rw [← Session.shuffleBy_creator]
    exact Session.Facts.shuffleBy_eq_latestAbove hc haccounts Players.contains_creator
      fun p => Event.mem_positionsIn
  have hjoiner : v.session.joinerShuffle = latestAbove v.session.floor
      ((Event.shuffled v.session.game v.session.players.joiner).positionsIn
        v.access.chain.history) := by
    rw [← Session.shuffleBy_joiner hc.creator_ne_joiner]
    exact Session.Facts.shuffleBy_eq_latestAbove hc haccounts Players.contains_joiner
      fun p => Event.mem_positionsIn
  have hcreatorFlag : v.session.progress.creator = v.session.creatorShuffle.isSome :=
    hc.creator_flag
  have hjoinerFlag : v.session.progress.joiner = v.session.joinerShuffle.isSome := hc.joiner_flag
  refine ⟨Session.Facts.floor_eq_latest haccounts fun p => Event.mem_positionsIn, ?_, ?_,
    hcreator, hjoiner⟩
  · rw [hcreatorFlag, hcreator]
    exact Event.isSome_latestAbove_positionsIn
  · rw [hjoinerFlag, hjoiner]
    exact Event.isSome_latestAbove_positionsIn

/-- A rematch that comes after a shuffle above it, a lost feed, and a shuffle that is
    delivered before the watch is back: then the watch knows all of them. -/
theorem facts_eq_of_awaitsFeed_reconnected :
    ∃ w v : Watch, ∃ n, w.IsNew ∧ w.Paced v n ∧ v.AwaitsFeed ∧ v.access.chain.opened = 2 ∧
      v.session.floor = some ⟨4, 0⟩ ∧ v.session.creatorShuffle = some ⟨5, 0⟩ ∧
      v.session.joinerShuffle = some ⟨6, 0⟩ := by
  let w := create (Session.fresh ⟨7⟩ ⟨.fill 0xc1, .fill 0x01⟩ .creator)
    (.ofRange 1000000 1000000) .empty (.ofCapacity 4) []
  let known := (w.accept (.happen (.setStatus ⟨7⟩ .shuffling))).accept
    (.happen (.deliver ⟨⟨5, 0⟩, .shuffled ⟨7⟩ (.fill 0xc1)⟩))
  let started := settleWithin 4 (known.accept .start)
  let lost := settleWithin 4 ((started.accept
    (.happen (.deliver ⟨⟨4, 0⟩, .rematch ⟨7⟩⟩))).accept (.happen .disconnect))
  let missed := lost.accept (.happen (.deliver ⟨⟨6, 0⟩, .shuffled ⟨7⟩ (.fill 0x01)⟩))
  let v := settleWithin 9 (missed.accept (.elapse 1000000))
  have hw : w.IsNew := .create _ _ _
    (show Setup.session ⟨some ⟨7⟩, some (.fill 0xc1), some (.fill 0x01), some (.fill 0xc1)⟩ =
      .ok _ from rfl) .empty
  have hknown : w.Paced known _ :=
    (Paced.refl.accept _ (by decide +kernel)).accept _ (by decide +kernel)
  have hstarted : w.Paced started _ := (hknown.accept _ (by decide +kernel)).settleWithin 4
  have hlost : w.Paced lost _ :=
    ((hstarted.accept _ (by decide +kernel)).accept _ (by decide +kernel)).settleWithin 4
  have hmissed : w.Paced missed _ := hlost.accept _ (by decide +kernel)
  have hv : w.Paced v _ := (hmissed.accept _ (by decide +kernel)).settleWithin 9
  have hawaits : v.AwaitsFeed :=
    { following := ⟨1, by decide +kernel⟩
      outbox := by decide +kernel
      step := Option.isNone_iff_eq_none.1 (by decide +kernel) }
  obtain ⟨hfloor, -, -, hcreator, hjoiner⟩ := facts_eq_of_awaitsFeed hw hv hawaits
  exact ⟨w, v, _, hw, hv, hawaits, by decide +kernel, hfloor.trans (by decide +kernel),
    hcreator.trans (by decide +kernel), hjoiner.trans (by decide +kernel)⟩

end ShuffleWatch.Watch
